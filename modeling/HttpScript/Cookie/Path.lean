import HttpScript.Cookie.Header
import HttpScript.Decimal.Integer
import HttpScript.Value.Basic

/-! # Cookie paths

A `CookiePath` names a cookie of a response and what is asked of it: its value, or one of its
attributes in brackets. `CookiePath.find` reads the headers in order until one sets the cookie. -/

namespace HttpScript

namespace CookiePath

/-- What is asked of a cookie. -/
inductive Aspect
  | value | expires | maxAge | domain | path | secure | httpOnly | sameSite
  deriving DecidableEq, Repr, Inhabited

namespace Aspect

/-- The aspects by name. -/
def all : List (String × Aspect) :=
  [("value", value), ("expires", expires), ("max-age", maxAge), ("domain", domain), ("path", path),
    ("secure", secure), ("httponly", httpOnly), ("samesite", sameSite)]

/-- The aspect with a name, whose letters may be of either case. -/
def ofName? (l : List Char) : Option Aspect := all.lookup (.ofList (Text.lowered l))

end Aspect

/-- Why a cookie path yields no value. -/
inductive Fault
  | path (expression : String)
  | header (value : String)
  | maxAge (value : String)
  deriving DecidableEq, Repr

/-- The wording of a fault. -/
def Fault.message : Fault → String
  | path e => "invalid cookie path query " ++ e
  | header v => "invalid set-cookie header " ++ v
  | maxAge v => "invalid cookie max-age " ++ v

end CookiePath

/-- What a cookie path asks for. -/
structure CookiePath where
  name : String
  aspect : CookiePath.Aspect
  deriving DecidableEq, Repr, Inhabited

namespace CookiePath

/-- Reads a cookie path. The name ends at the first opening bracket and the aspect at the first
closing bracket behind it. -/
def read? (s : String) : Option CookiePath :=
  match Text.splitOnce '[' s.toList with
  | none => some ⟨s, .value⟩
  | some (name, l) => do
    let (inner, _) ← Text.splitOnce ']' l
    return ⟨.ofList name, ← Aspect.ofName? inner⟩

/-- The first cookie of a name, unless a header before it sets no cookie. -/
def firstNamed (name : String) : List String → Except Fault (Option SetCookie)
  | [] => .ok none
  | h :: l =>
    match SetCookie.read? h with
    | none => .error (.header h)
    | some c => if c.name = name then .ok (some c) else firstNamed name l

/-- The text of an attribute as a value. -/
def textOf (c : SetCookie) (name : String) : Value :=
  match c.attributeValue? name with
  | some s => .string s
  | none => .none

/-- Whether a cookie has an attribute, as a value. -/
def flagOf (c : SetCookie) (name : String) : Value :=
  match c.attribute? name with
  | some _ => .bool true
  | none => .none

/-- An aspect of a cookie as a value. -/
def Aspect.ofCookie (c : SetCookie) : Aspect → Except Fault Value
  | value => .ok (.string c.value)
  | expires => .ok (textOf c "expires")
  | maxAge =>
    match c.attributeValue? "max-age" with
    | none => .ok .none
    | some s =>
      match Decimal.int64? s.toList with
      | some n => .ok (.number (Float.ofInt n))
      | none => .error (.maxAge s)
  | domain => .ok (textOf c "domain")
  | path => .ok (textOf c "path")
  | secure => .ok (flagOf c "secure")
  | httpOnly => .ok (flagOf c "httponly")
  | sameSite => .ok (textOf c "samesite")

/-- **The value that a cookie path finds** in the values of `Set-Cookie` headers. -/
def find (expression : String) (headers : List String) : Except Fault Value :=
  match read? expression with
  | none => .error (.path expression)
  | some p => do
    match ← firstNamed p.name headers with
    | some c => p.aspect.ofCookie c
    | none => return .none

end CookiePath

end HttpScript
