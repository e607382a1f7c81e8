import HttpScript.Value.Basic

/-! # Variables

A store of typed variables. Scalars have a text and can be filled into templates; any other value
is kept whole (`Variable.opaqueValue`) and can only be compared or queried. -/

namespace HttpScript

/-- The value of a variable. -/
inductive Variable
  | string (s : String)
  | number (x : Float)
  | bool (b : Bool)
  /-- A value without a text. -/
  | opaqueValue (v : Value)
  deriving Repr, Inhabited

namespace Variable

/-- The variable for a captured value; nothing is not stored. -/
def ofValue? : Value → Option Variable
  | .none => none
  | .string s => some (string s)
  | .number x => some (number x)
  | .bool b => some (bool b)
  | v => some (opaqueValue v)

/-- The value of a variable. -/
def toValue : Variable → Value
  | string s => .string s
  | number x => .number x
  | bool b => .bool b
  | opaqueValue v => v

/-- The text of a scalar. -/
def text? : Variable → Option String
  | string s => some s
  | number x => some (Decimal.text x)
  | bool b => some (Value.boolText b)
  | opaqueValue _ => none

end Variable

/-- Variables by name. -/
structure Variables where
  entries : List (String × Variable)
  deriving Repr, Inhabited

namespace Variables

/-- No variables. -/
def empty : Variables := ⟨[]⟩

/-- The variable of a name. -/
def find? (s : Variables) (name : String) : Option Variable := Named.find? name s.entries

/-- Sets a variable. -/
def insert (s : Variables) (name : String) (v : Variable) : Variables :=
  ⟨Named.insert name v s.entries⟩

/-- Sets a variable to a captured value; nothing leaves the store as it is. -/
def insertValue (s : Variables) (name : String) (v : Value) : Variables :=
  match Variable.ofValue? v with
  | some x => s.insert name x
  | none => s

/-- Strings by name; of several with one name the last counts. -/
def ofStrings (l : List (String × String)) : Variables :=
  l.foldl (fun s p => s.insert p.1 (.string p.2)) empty

/-- The number of variables. -/
def size (s : Variables) : Nat := s.entries.length

@[simp] theorem find?_insert (s : Variables) (name n : String) (v : Variable) :
    (s.insert name v).find? n = if n = name then some v else s.find? n :=
  Named.find?_insert name n v s.entries

end Variables

end HttpScript
