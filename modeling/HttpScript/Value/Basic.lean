import HttpScript.Json.Basic

/-! # Values of queries

A `Value` is what a query yields: nothing, a scalar, a list, a number of document nodes, or a JSON
object. A JSON null that was found is an `object`, which keeps it apart from `none`. -/

namespace HttpScript

/-- What a query yields. -/
inductive Value
  /-- Nothing was found. -/
  | none
  | string (s : String)
  | number (x : Float)
  | bool (b : Bool)
  | list (items : List Value)
  /-- So many nodes of a document. -/
  | nodes (count : Nat)
  /-- A JSON object, or a null that was found. -/
  | object (j : Json)
  deriving Repr, Inhabited

namespace Value

mutual

/-- Equality of values; numbers are compared as doubles. -/
protected def beq : Value → Value → Bool
  | none, none => true
  | string a, string b => a == b
  | number a, number b => a == b
  | bool a, bool b => a == b
  | list a, list b => Value.beqItems a b
  | nodes a, nodes b => a == b
  | object a, object b => a == b
  | _, _ => false

/-- Equality of lists of values. -/
protected def beqItems : List Value → List Value → Bool
  | [], [] => true
  | a :: l, b :: m => Value.beq a b && Value.beqItems l m
  | _, _ => false

end

instance : BEq Value := ⟨Value.beq⟩

mutual

/-- The value of a JSON value. -/
def ofJson : Json → Value
  | .bool b => bool b
  | .number n => number n.toFloat
  | .string s => string s
  | .array items => list (ofJsonItems items)
  | .null => object .null
  | .object members => object (.object members)

/-- The values of JSON values. -/
def ofJsonItems : List Json → List Value
  | [] => []
  | j :: l => ofJson j :: ofJsonItems l

end

/-- The value that stands for several: nothing, the only one, or their list. -/
def ofList : List Value → Value
  | [] => none
  | [v] => v
  | l => list l

/-- A truth value as text. -/
def boolText (b : Bool) : String := if b then "true" else "false"

/-- A value with its kind, as reports show it. -/
def display : Value → String
  | none => "none"
  | string s => "string <" ++ s ++ ">"
  | number x => "number <" ++ Decimal.text x ++ ">"
  | bool b => "boolean <" ++ boolText b ++ ">"
  | list items => "list(size=" ++ toString items.length ++ ")"
  | nodes count => "nodeset(size=" ++ toString count ++ ")"
  | object j => "object <" ++ j.compact ++ ">"

end Value

end HttpScript
