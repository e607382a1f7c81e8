import HttpScript.Text.CaseClass
import HttpScript.Text.Category
import HttpScript.Text.Property
import HttpScript.Text.Scripts

/-! # Sets of characters in patterns

A `CharSet` is a list of ranges of code points, disjoint and in increasing order, both ends
included. Union, complement and the sets built from them keep that form; `foldCase` adds the
characters that differ from a member in case only. `property?` names the sets that have a name in
the Unicode standard. -/

namespace HttpScript.Pattern

open Text

/-- Disjoint ranges of code points in increasing order. -/
abbrev CharSet := List (Nat × Nat)

namespace CharSet

/-- The largest code point. -/
def maxCode : Nat := 0x10FFFF

/-- Every character. -/
def full : CharSet := [(0, maxCode)]

/-- One character. -/
def single (c : Char) : CharSet := [(c.toNat, c.toNat)]

/-- Whether a code point is in a set. -/
def contains (s : CharSet) (n : Nat) : Bool := s.any fun r => r.1 ≤ n && n ≤ r.2

/-- Puts ranges ordered by their first ends into the form of a set, `r` in front. -/
def mergeFrom (r : Nat × Nat) : List (Nat × Nat) → CharSet
  | [] => [r]
  | t :: l =>
    if t.1 ≤ r.2 + 1 then mergeFrom (r.1, max r.2 t.2) l else r :: mergeFrom t l

/-- The set of the code points in some ranges, in whatever order. -/
def ofRanges (l : List (Nat × Nat)) : CharSet :=
  match (l.filter fun r => r.1 ≤ r.2).mergeSort fun a b => a.1 ≤ b.1 with
  | [] => []
  | r :: l => mergeFrom r l

/-- The code points in either set. -/
def union (s t : CharSet) : CharSet := ofRanges (s ++ t)

/-- The code points from `n` on that are in no range of a set. -/
def gapsFrom (n : Nat) : CharSet → CharSet
  | [] => if n ≤ maxCode then [(n, maxCode)] else []
  | r :: l => if n < r.1 then (n, r.1 - 1) :: gapsFrom (r.2 + 1) l else gapsFrom (r.2 + 1) l

/-- The code points not in a set. -/
def complement (s : CharSet) : CharSet := gapsFrom 0 s

/-- The code points in both sets. -/
def inter (s t : CharSet) : CharSet := (s.complement.union t.complement).complement

/-- The code points in the first set only. -/
def diff (s t : CharSet) : CharSet := s.inter t.complement

/-- The code points in just one of two sets. -/
def symmDiff (s t : CharSet) : CharSet := (s.diff t).union (t.diff s)

/-- A set of a table. -/
def ofTable (t : Ranges) : CharSet := t.ends.toList

/-- A set and what differs from a member in case only. -/
def foldCase (s : CharSet) : CharSet :=
  s.union (ofRanges ((caseClasses.filter fun l => l.any s.contains).flatMap fun l =>
    l.map fun n => (n, n)))

/-- Whether a set holds ASCII characters only. -/
def isAscii (s : CharSet) : Bool := s.all fun r => r.2 < 128

/-! ### Sets with a name -/

/-- Decimal digits. -/
def digit : CharSet := ofTable decimalDigitTable

/-- Word characters. -/
def word : CharSet := ofTable wordTable

/-- White space. -/
def white : CharSet :=
  [(9, 13), (0x20, 0x20), (0x85, 0x85), (0xA0, 0xA0), (0x1680, 0x1680), (0x2000, 0x200A),
    (0x2028, 0x2029), (0x202F, 0x202F), (0x205F, 0x205F), (0x3000, 0x3000)]

/-- Decimal digits of ASCII. -/
def asciiDigit : CharSet := [(48, 57)]

/-- Word characters of ASCII. -/
def asciiWord : CharSet := [(48, 57), (65, 90), (95, 95), (97, 122)]

/-- White space of ASCII. -/
def asciiWhite : CharSet := [(9, 13), (32, 32)]

/-- The sets that are named between `[:` and `:]`. -/
def asciiClass? : String → Option CharSet
  | "alnum" => some [(48, 57), (65, 90), (97, 122)]
  | "alpha" => some [(65, 90), (97, 122)]
  | "ascii" => some [(0, 127)]
  | "blank" => some [(9, 9), (32, 32)]
  | "cntrl" => some [(0, 31), (127, 127)]
  | "digit" => some asciiDigit
  | "graph" => some [(33, 126)]
  | "lower" => some [(97, 122)]
  | "print" => some [(32, 126)]
  | "punct" => some [(33, 47), (58, 64), (91, 96), (123, 126)]
  | "space" => some asciiWhite
  | "upper" => some [(65, 90)]
  | "word" => some asciiWord
  | "xdigit" => some [(48, 57), (65, 70), (97, 102)]
  | _ => none

/-- The general categories whose names a name stands for. -/
def categoryNames? : String → Option (List String)
  | "l" | "letter" => some ["Lu", "Ll", "Lt", "Lm", "Lo"]
  | "lc" | "casedletter" => some ["Lu", "Ll", "Lt"]
  | "lu" | "uppercaseletter" => some ["Lu"]
  | "ll" | "lowercaseletter" => some ["Ll"]
  | "lt" | "titlecaseletter" => some ["Lt"]
  | "lm" | "modifierletter" => some ["Lm"]
  | "lo" | "otherletter" => some ["Lo"]
  | "m" | "mark" | "combiningmark" => some ["Mn", "Mc", "Me"]
  | "mn" | "nonspacingmark" => some ["Mn"]
  | "mc" | "spacingmark" => some ["Mc"]
  | "me" | "enclosingmark" => some ["Me"]
  | "n" | "number" => some ["Nd", "Nl", "No"]
  | "nd" | "decimalnumber" | "digit" => some ["Nd"]
  | "nl" | "letternumber" => some ["Nl"]
  | "no" | "othernumber" => some ["No"]
  | "p" | "punctuation" | "punct" => some ["Pc", "Pd", "Ps", "Pe", "Pi", "Pf", "Po"]
  | "pc" | "connectorpunctuation" => some ["Pc"]
  | "pd" | "dashpunctuation" => some ["Pd"]
  | "ps" | "openpunctuation" => some ["Ps"]
  | "pe" | "closepunctuation" => some ["Pe"]
  | "pi" | "initialpunctuation" => some ["Pi"]
  | "pf" | "finalpunctuation" => some ["Pf"]
  | "po" | "otherpunctuation" => some ["Po"]
  | "s" | "symbol" => some ["Sm", "Sc", "Sk", "So"]
  | "sm" | "mathsymbol" => some ["Sm"]
  | "sc" | "currencysymbol" => some ["Sc"]
  | "sk" | "modifiersymbol" => some ["Sk"]
  | "so" | "othersymbol" => some ["So"]
  | "z" | "separator" => some ["Zs", "Zl", "Zp"]
  | "zs" | "spaceseparator" => some ["Zs"]
  | "zl" | "lineseparator" => some ["Zl"]
  | "zp" | "paragraphseparator" => some ["Zp"]
  | "cc" | "control" | "cntrl" => some ["Cc"]
  | "cf" | "format" => some ["Cf"]
  | "co" | "privateuse" => some ["Co"]
  | "cs" | "surrogate" => some []
  | _ => none

/-- The code points of some general categories. -/
def ofCategories (names : List String) : CharSet :=
  ofRanges ((categories.filter fun c => names.contains c.1).flatMap fun c => ofTable c.2)

/-- The assigned code points. -/
def assigned : CharSet := ofRanges (categories.flatMap fun c => ofTable c.2)

/-- The general category of a name. -/
def category? (name : String) : Option CharSet :=
  match categoryNames? name with
  | some names => some (ofCategories names)
  | none =>
    match name with
    | "any" => some full
    | "ascii" => some [(0, 127)]
    | "assigned" => some assigned
    | "cn" | "unassigned" => some assigned.complement
    | "c" | "other" =>
      some ((ofCategories ["Cc", "Cf", "Co"]).union assigned.complement)
    | _ => none

/-- The script of a name. -/
def script? (name : String) : Option CharSet :=
  (scripts.find? fun s => s.1.contains name).map fun s => ofTable s.2

/-- The letters of both cases that are not of a category of letters, by the property they have. -/
def otherLowercase : CharSet :=
  [(0xAA, 0xAA), (0xBA, 0xBA), (0x2B0, 0x2B8), (0x2C0, 0x2C1), (0x2E0, 0x2E4), (0x345, 0x345),
    (0x37A, 0x37A), (0x10FC, 0x10FC), (0x1D2C, 0x1D6A), (0x1D78, 0x1D78), (0x1D9B, 0x1DBF),
    (0x2071, 0x2071), (0x207F, 0x207F), (0x2090, 0x209C), (0x2170, 0x217F), (0x24D0, 0x24E9),
    (0x2C7C, 0x2C7D), (0xA69C, 0xA69D), (0xA770, 0xA770), (0xA7F2, 0xA7F4), (0xA7F8, 0xA7F9),
    (0xAB5C, 0xAB5F), (0xAB69, 0xAB69), (0x10780, 0x10780), (0x10783, 0x10785),
    (0x10787, 0x107B0), (0x107B2, 0x107BA), (0x1E030, 0x1E06D)]

/-- The upper-case characters that are no letters. -/
def otherUppercase : CharSet :=
  [(0x2160, 0x216F), (0x24B6, 0x24CF), (0x1F130, 0x1F149), (0x1F150, 0x1F169),
    (0x1F170, 0x1F189)]

/-- The set of a property that is true or false. -/
def binary? : String → Option CharSet
  | "alphabetic" | "alpha" =>
    some ((ofTable alphanumericTable).diff (ofCategories ["Nd", "No"]))
  | "lowercase" | "lower" => some ((ofCategories ["Ll"]).union otherLowercase)
  | "uppercase" | "upper" => some ((ofCategories ["Lu"]).union otherUppercase)
  | "whitespace" | "wspace" | "space" => some white
  | "asciihexdigit" | "ahex" => some [(48, 57), (65, 70), (97, 102)]
  | "hexdigit" | "hex" =>
    some [(48, 57), (65, 70), (97, 102), (0xFF10, 0xFF19), (0xFF21, 0xFF26), (0xFF41, 0xFF46)]
  | "joincontrol" | "joinc" => some [(0x200C, 0x200D)]
  | "graphemeextend" | "grext" => some (ofTable graphemeExtendTable)
  | _ => none

/-- A name in lower case without separators and without a leading `is`. -/
def plainName (name : List Char) : String :=
  let l := (name.filter fun c => c != ' ' && c != '_' && c != '-' && c.toNat < 128).map Char.toLower
  match l with
  | 'i' :: 's' :: r => if r = ['c'] then "isc" else .ofList r
  | _ => .ofList l

/-- The set of a name, which is a property, a category or a script. -/
def named? (name : List Char) : Option CharSet :=
  let n := plainName name
  let property := if n = "cf" ∨ n = "sc" ∨ n = "lc" then none else binary? n
  property.or ((category? n).or (script? n))

/-- The set of a property and its value. -/
def valued? (property value : List Char) : Option CharSet :=
  match plainName property with
  | "gc" | "generalcategory" | "category" => category? (plainName value)
  | "sc" | "script" => script? (plainName value)
  | _ => none

end CharSet

end HttpScript.Pattern
