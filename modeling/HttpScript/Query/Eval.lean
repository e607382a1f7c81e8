import HttpScript.Cookie.Path
import HttpScript.Http.Content
import HttpScript.Judgement
import HttpScript.Query.Lookup

/-! # Evaluating queries

`Script.Query.eval` reads from an exchange what a query asks for. `Value.none` means that nothing
was found, which is no fault: a query fails where its text cannot be filled in or read, or the
body cannot be. -/

namespace HttpScript

/-- What queries read from: a response and the variables set so far. -/
structure Exchange where
  response : Http.Response
  store : Variables

namespace Query

/-- Why a query fails. -/
inductive Fault
  | placeholder (e : Template.InvalidVariable)
  | cookie (e : CookiePath.Fault)
  | body (e : Http.Fault)
  | lookup (e : Lookup.Fault)
  | pattern (text : String)
  /-- There is nothing but white space to evaluate a path expression on. -/
  | blankBody
  /-- A value of which there is no count. -/
  | uncountable (v : Value)
  /-- A pattern is only asked of a text. -/
  | notText

/-- The wording of a fault. -/
def Fault.message : Fault → String
  | placeholder e => e.message
  | cookie e => e.message
  | body e => e.message
  | lookup e => e.message
  | pattern s => "invalid regex \"" ++ s ++ "\""
  | blankBody => "xpath query on an empty body"
  | uncountable v => "count subquery is incompatible with " ++ v.display
  | notText => "regex subquery expects a string query result"

/-- The text of a template. -/
def rendered (x : Exchange) (t : Script.Template) : Except Fault String :=
  (t.render x.store).mapError .placeholder

/-- The body as text. -/
def bodyText (x : Exchange) : Except Fault String := x.response.text.mapError .body

/-- The pattern that a text writes for an engine. -/
def patternOf (E : Pattern.Engine) (s : String) : Except Fault E.Compiled :=
  match E.compile s with
  | some p => .ok p
  | none => .error (.pattern s)

/-- The text of the first group where a pattern is found, as a value. -/
def firstGroup (E : Pattern.Engine) (p : E.Compiled) (text : String) : Value :=
  match E.firstGroup? p text with
  | some s => .string s
  | none => .none

/-- The values of a header as one value. -/
def headerValue (r : Http.Response) (name : String) : Value :=
  .ofList ((r.header name).map .string)

/-- A number of whole milliseconds. -/
def milliseconds (r : Http.Response) : Nat := r.microseconds / 1000

/-- What a query reads before its further step. -/
def read (x : Exchange) : Script.Source → Except Fault Value
  | .status => return .number (Float.ofNat x.response.status.toNat)
  | .duration => return .number (Float.ofNat (milliseconds x.response))
  | .header t => return headerValue x.response (← rendered x t)
  | .cookie t => do
    (CookiePath.find (← rendered x t) (x.response.header "Set-Cookie")).mapError .cookie
  | .body => return .string (← bodyText x)
  | .jsonpath t => do
    let expression ← rendered x t
    let found ← (Lookup.json expression (← bodyText x)).mapError .lookup
    return .ofList (found.map .ofJson)
  | .xpath t => do
    let expression ← rendered x t
    let body ← bodyText x
    if (Text.trim body.toList).isEmpty then throw .blankBody
    (Lookup.xml expression body).mapError .lookup
  | .regex t => do
    let p ← patternOf .standard (← rendered x t)
    return firstGroup .standard p (← bodyText x)
  | .stored t => do
    match x.store.find? (← rendered x t) with
    | some v => return v.toValue
    | none => return .none

/-- The number of items in a value. -/
def count : Value → Except Fault Value
  | .list l => .ok (.number (Float.ofNat l.length))
  | .nodes n => .ok (.number (Float.ofNat n))
  | .none => .ok (.number 0)
  | v => .error (.uncountable v)

/-- What a further step makes of a value with an engine for patterns. A pattern has to cover the
whole text. -/
def refineWith (E : Pattern.Engine) (x : Exchange) (v : Value) :
    Script.Subquery → Except Fault Value
  | .count => count v
  | .regex t =>
    match v with
    | .string s => do
      let pattern ← rendered x t
      let _ ← patternOf E pattern
      return firstGroup E (← patternOf E (Pattern.wholeText pattern)) s
    | _ => .error .notText

/-- What a further step makes of a value. -/
def refine (x : Exchange) (v : Value) : Script.Subquery → Except Fault Value :=
  refineWith .standard x v

end Query

/-- **The value of a query.** -/
def Script.Query.eval (q : Script.Query) (x : Exchange) : Except Query.Fault Value := do
  let v ← Query.read x q.source
  match q.subquery with
  | none => return v
  | some s => Query.refine x v s

end HttpScript
