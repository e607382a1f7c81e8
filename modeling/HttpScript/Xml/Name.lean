/-! # Names in XML

A `Name` is a word, with or without the qualifier that says to which namespace it belongs. -/

namespace HttpScript.Xml

/-- White space of the markup. -/
def isSpace (c : Char) : Bool := c == ' ' || c == '\t' || c == '\n' || c == '\x0d'

/-- The rest of a text behind its leading white space. -/
def skipSpace (l : List Char) : List Char := l.dropWhile isSpace

/-- The characters, beside letters of ASCII and `_`, that a word can begin with. -/
def wordStarts : List (Nat × Nat) :=
  [(0xC0, 0xD6), (0xD8, 0xF6), (0xF8, 0x2FF), (0x370, 0x37D), (0x37F, 0x1FFF), (0x200C, 0x200D),
    (0x2070, 0x218F), (0x2C00, 0x2FEF), (0x3001, 0xD7FF), (0xF900, 0xFDCF), (0xFDF0, 0xFFFD),
    (0x10000, 0xEFFFF)]

/-- Whether a word can begin with a character. -/
def startsWord (c : Char) : Bool :=
  c.isAlpha || c == '_' || wordStarts.any fun (a, b) => a ≤ c.toNat && c.toNat ≤ b

/-- Whether a word can hold a character. -/
def inWord (c : Char) : Bool :=
  startsWord c || c.isDigit || c == '-' || c == '.' || c.toNat == 0xB7 ||
    (0x300 ≤ c.toNat && c.toNat ≤ 0x36F) || c.toNat == 0x203F || c.toNat == 0x2040

/-- A word at the start of a text, and the rest. -/
def word? : List Char → Option (String × List Char)
  | [] => none
  | c :: l =>
    if startsWord c then some (.ofList (c :: l.takeWhile inWord), l.dropWhile inWord) else none

/-- A name. -/
structure Name where
  qualifier : Option String
  base : String
  deriving DecidableEq, Repr, Inhabited

namespace Name

/-- The written form of a name. -/
def text (n : Name) : String :=
  match n.qualifier with
  | some q => q ++ ":" ++ n.base
  | none => n.base

/-- A name at the start of a text, and the rest. -/
def read? (l : List Char) : Option (Name × List Char) := do
  let (first, l) ← word? l
  match l with
  | ':' :: r =>
    match word? r with
    | some (second, r) => some (⟨some first, second⟩, r)
    | none => some (⟨none, first⟩, l)
  | _ => some (⟨none, first⟩, l)

end Name

end HttpScript.Xml
