import HttpScript.Decimal.Layout
import HttpScript.Named

/-! # JSON values

A `Json` value as documents hold it. Whole numbers of 64 bits are kept exactly, all others as
doubles. Members of an object are kept in the order of their names, one for each name. -/

namespace HttpScript

/-- A number of a document. -/
inductive JsonNumber
  /-- A whole number between `-2 ^ 63` and `2 ^ 64 - 1`. -/
  | integer (n : Int)
  | double (x : Float)
  deriving Repr, Inhabited

/-- A value of a document. -/
inductive Json
  | null
  | bool (b : Bool)
  | number (n : JsonNumber)
  | string (s : String)
  | array (items : List Json)
  | object (members : List (String × Json))
  deriving Repr, Inhabited

namespace JsonNumber

/-- The double nearest to a number. -/
def toFloat : JsonNumber → Float
  | integer n => .ofInt n
  | double x => x

/-- Equality of numbers: whole numbers and doubles are never equal to each other. -/
protected def beq : JsonNumber → JsonNumber → Bool
  | integer a, integer b => a == b
  | double a, double b => a == b
  | _, _ => false

instance : BEq JsonNumber := ⟨JsonNumber.beq⟩

/-- The text of a number. -/
def text : JsonNumber → String
  | integer n => toString n
  | double x => Decimal.Layout.data.text x

end JsonNumber

namespace Json

/-! ### Access -/

/-- The object with the given members; of several with one name the last counts. -/
def ofMembers (members : List (String × Json)) : Json :=
  object (Named.ofList members)

/-- The values directly inside a value. -/
def children : Json → List Json
  | array items => items
  | object members => members.map (·.2)
  | _ => []

/-! ### Equality -/

mutual

/-- Equality of values; doubles are compared as numbers. -/
protected def beq : Json → Json → Bool
  | null, null => true
  | bool a, bool b => a == b
  | number a, number b => a == b
  | string a, string b => a == b
  | array a, array b => Json.beqItems a b
  | object a, object b => Json.beqMembers a b
  | _, _ => false

/-- Equality of lists of values. -/
protected def beqItems : List Json → List Json → Bool
  | [], [] => true
  | a :: l, b :: m => Json.beq a b && Json.beqItems l m
  | _, _ => false

/-- Equality of lists of members. -/
protected def beqMembers : List (String × Json) → List (String × Json) → Bool
  | [], [] => true
  | (m, a) :: l, (n, b) :: k => m == n && Json.beq a b && Json.beqMembers l k
  | _, _ => false

end

instance : BEq Json := ⟨Json.beq⟩

/-! ### Text -/

/-- The four hexadecimal digits of a control character. -/
def controlDigits (c : Char) : List Char :=
  ['0', '0', Nat.digitChar (c.toNat / 16), Nat.digitChar (c.toNat % 16)]

/-- A character inside quotes. -/
def quoteChar (c : Char) : List Char :=
  if c = '"' then ['\\', '"']
  else if c = '\\' then ['\\', '\\']
  else if c = '\x08' then ['\\', 'b']
  else if c = '\x0c' then ['\\', 'f']
  else if c = '\n' then ['\\', 'n']
  else if c = '\r' then ['\\', 'r']
  else if c = '\t' then ['\\', 't']
  else if c.toNat < 32 then ['\\', 'u'] ++ controlDigits c
  else [c]

/-- A string in quotes. -/
def quote (s : String) : String :=
  .ofList ('"' :: s.toList.flatMap quoteChar ++ ['"'])

mutual

/-- The text of a value, without blanks. -/
def compact : Json → String
  | null => "null"
  | bool b => if b then "true" else "false"
  | number n => n.text
  | string s => quote s
  | array items => "[" ++ compactItems items ++ "]"
  | object members => "\x7b" ++ compactMembers members ++ "\x7d"

/-- The texts of values, parted by commas. -/
def compactItems : List Json → String
  | [] => ""
  | [v] => compact v
  | v :: l => compact v ++ "," ++ compactItems l

/-- The texts of members, parted by commas. -/
def compactMembers : List (String × Json) → String
  | [] => ""
  | [(n, v)] => quote n ++ ":" ++ compact v
  | (n, v) :: l => quote n ++ ":" ++ compact v ++ "," ++ compactMembers l

end

end Json

end HttpScript
