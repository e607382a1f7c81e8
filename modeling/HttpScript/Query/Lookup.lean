import HttpScript.Json.Read
import HttpScript.JsonPath.Eval
import HttpScript.JsonPath.Read
import HttpScript.Value.Basic
import HttpScript.XPath.Eval
import HttpScript.XPath.Read

/-! # Looking things up in documents

`Lookup.json` follows a path expression into JSON text and `Lookup.xml` evaluates one on XML text.
Either fails for an expression or for a document that cannot be read; which of the two is looked
at first differs. -/

namespace HttpScript.Lookup

/-- Why nothing can be looked up. -/
inductive Fault
  | expression (text : String)
  | document (reason : String)
  deriving DecidableEq, Repr

/-- The wording of a fault. -/
def Fault.message : Fault → String
  | expression s => "invalid expression " ++ s
  | document reason => "invalid document: " ++ reason

/-- The values that a path expression reaches in JSON text. The expression is read first. -/
def json (expression text : String) : Except Fault (List Json) :=
  match JsonPath.read? expression with
  | none => .error (.expression expression)
  | some path =>
    match Json.read? text with
    | .ok v => .ok (JsonPath.eval path v)
    | .error e => .error (.document e.message)

/-- The value of a result of a path expression: of nodes, their number. -/
def ofResult : XPath.Result → Value
  | .bool b => .bool b
  | .number x => .number x
  | .string s => .string s
  | .nodes l => .nodes l.length

/-- The value of a path expression on XML text. The document is read first. -/
def xml (expression text : String) : Except Fault Value :=
  match Xml.Document.read? text with
  | none => .error (.document "body is not well-formed xml")
  | some d =>
    match (XPath.read? expression).bind (XPath.atRoot? d) with
    | some r => .ok (ofResult r)
    | none => .error (.expression expression)

end HttpScript.Lookup
