import HttpScript.Cookie.Date
import HttpScript.Cookie.Header
import HttpScript.Url.Basic

/-! # Cookies

A `Cookie` is kept for a domain and a path. `Cookie.isSentTo` says which URLs it is sent to at a
given time, and `Cookie.ofHeader` is the cookie that a response from a URL sets. Times are seconds
since the start of 1970. -/

namespace HttpScript

/-- A cookie that is kept. -/
structure Cookie where
  domain : String
  /-- Whether it is sent to the hosts below its domain, too. -/
  includeSubdomains : Bool
  path : String
  /-- Whether it is sent in private only. -/
  secure : Bool
  /-- When it ends, if not with the run. -/
  expires : Option Nat
  name : String
  value : String
  deriving DecidableEq, Repr, Inhabited

namespace Cookie

/-- Whether a cookie has ended. -/
def isExpired (c : Cookie) (now : Nat) : Bool := c.expires.any (· ≤ now)

/-- A domain as it is compared: without dots before it, in lower case. -/
def plainDomain (s : String) : List Char := Text.lowered (s.toList.dropWhile (· == '.'))

/-- Whether a host is the domain of a cookie, or below it where that is enough. -/
def matchesHost (c : Cookie) (host : String) : Bool :=
  let host := Text.lowered host.toList
  let domain := plainDomain c.domain
  host == domain || (c.includeSubdomains && ('.' :: domain).isSuffixOf host)

/-- Whether a path is that of a cookie or below it. -/
def matchesPath (requested own : List Char) : Bool :=
  requested == own || own.isEmpty ||
    (own.isPrefixOf requested &&
      (own.getLast? == some '/' || (requested.drop own.length).head? == some '/'))

/-- **Whether a cookie is sent to a URL.** -/
def isSentTo (c : Cookie) (u : Url) (now : Nat) : Bool :=
  match u.hostText? with
  | none => false
  | some host =>
    c.matchesHost host && matchesPath u.pathText.toList c.path.toList &&
      (!c.secure || u.scheme == "https") && !c.isExpired now

/-- The directory of a path: what stands before its last slash. -/
def directory (path : List Char) : List Char :=
  match (path.reverse.dropWhile (· != '/')).tail.reverse with
  | [] => ['/']
  | l => l

/-- The greatest time. -/
def lastTime : Nat := 18446744073709551615

/-- **When the cookie of a header ends**: after its greatest age, or else at its date. A header with
an age is not asked for its date. A date that is none is passed over, but one whose count leaves the
words is a fault. -/
def expiry (h : SetCookie) (now : Nat) : Except Date.Fault (Option Nat) :=
  match (h.attributeValue? "max-age").bind fun v => Decimal.int64? v.toList with
  | some age => .ok (some (if age ≤ 0 then 0 else min lastTime (now + age.toNat)))
  | none =>
    match h.attributeValue? "expires" with
    | none => .ok none
    | some s =>
      match Date.read s with
      | .error .overflow => .error .overflow
      | _ => .ok (Date.read? s)

/-- **The cookie that a header from a URL sets**, with the time at which it ends. Without a domain of
its own it belongs to the host alone, and without a path of its own to the directory of the URL. -/
def ofHeader (h : SetCookie) (u : Url) (expires : Option Nat) : Cookie :=
  let domain := (h.attributeValue? "domain").map fun d =>
    String.ofList (d.toList.dropWhile (· == '.'))
  { domain := domain.getD (u.hostText?.getD "")
    includeSubdomains := domain.isSome
    path := match h.attributeValue? "path" with
      | some p => if p.toList.head? = some '/' then p else .ofList (directory u.pathText.toList)
      | none => .ofList (directory u.pathText.toList)
    secure := (h.attribute? "secure").isSome
    expires := expires
    name := h.name
    value := h.value }

/-- Whether two cookies have the same domain, path and name. -/
def sameKey (a b : Cookie) : Bool := a.domain == b.domain && a.path == b.path && a.name == b.name

end Cookie

end HttpScript
