import HttpScript.Decimal.Read
import HttpScript.JsonPath.Basic
import HttpScript.Text.Class
import HttpScript.Text.Property

/-! # Reading JSON paths

`JsonPath.read?` reads the text of a path: `$`, then `.name`, `.*` or a bracket for each segment,
with one more point for a descendant segment. Each reader takes the characters that are left and
yields what is left behind what it read. -/

namespace HttpScript.JsonPath

open Text

/-- A reader of an `α`. -/
abbrev Reader (α : Type) := List Char → Option (α × List Char)

/-- The character `c`. -/
def expect (c : Char) : List Char → Option (List Char)
  | d :: l => if d = c then some l else none
  | [] => none

/-- The rest behind the characters `word`, if the text starts with them. -/
def strip? (word : String) (l : List Char) : Option (List Char) :=
  if word.toList.isPrefixOf l then some (l.drop word.length) else none

/-- Skips white space. -/
def skipWhite (l : List Char) : List Char := l.dropWhile isWhite

/-! ### Keys -/

/-- A character of a bare name. -/
def isNameChar (c : Char) : Bool := isAlphanumeric c || c == '_' || c == '-' || c == '$'

/-- A bare name. -/
def readName : Reader String := fun l =>
  let name := l.takeWhile isNameChar
  if name.isEmpty then none else some (.ofList name, l.dropWhile isNameChar)

/-- A quoted text, behind its quote. A backslash stands before a character that is meant itself. -/
def readQuoted (quote : Char) : Reader (List Char)
  | [] => none
  | ['\\'] => none
  | '\\' :: c :: l => (readQuoted quote l).map fun p => (c :: p.1, p.2)
  | c :: l =>
    if c = quote then some ([], l) else (readQuoted quote l).map fun p => (c :: p.1, p.2)

/-- Whether a text starts with a quote. -/
def startsQuoted (l : List Char) : Bool := l.head? == some '\'' || l.head? == some '"'

/-- A quoted text. -/
def readString : Reader String
  | [] => none
  | c :: l => (readQuoted c l).map fun p => (.ofList p.1, p.2)

/-- An integer of 64 bits where one stands, or nothing. -/
def readInteger : Reader (Option Int) := fun l =>
  let (negative, afterSign) := match l with
    | '-' :: r => (true, r)
    | _ => (false, l)
  let digits := afterSign.takeWhile Char.isDigit
  if digits.isEmpty then some (none, l)
  else
    let n : Int := Decimal.natOfDigits digits
    let n := if negative then -n else n
    if n < -Nat.pow 2 63 ∨ Nat.pow 2 63 ≤ n then none
    else some (some n, afterSign.dropWhile Char.isDigit)

/-- A quoted name or an index. -/
def readKey : Reader Key := fun l =>
  if startsQuoted l then (readString l).map fun p => (.name p.1, p.2)
  else match readInteger l with
    | some (some i, r) => some (.index i, r)
    | _ => none

/-- The keys behind the first one, each behind a comma. -/
def readKeys : Nat → List Key → Reader (List Key)
  | 0, _, _ => none
  | steps + 1, done, l =>
    match skipWhite l with
    | ',' :: r => do
      let (k, r) ← readKey (skipWhite r)
      readKeys steps (k :: done) r
    | r => some (done.reverse, r)

/-! ### Filters -/

/-- The path of a filter. -/
def readPath : Nat → List Key → Reader (List Key)
  | 0, _, _ => none
  | steps + 1, done, l =>
    match l with
    | '.' :: r => do
      let (n, r) ← readName r
      readPath steps (.name n :: done) r
    | '[' :: r => do
      let (k, r) ← readKey r
      readPath steps (k :: done) (← expect ']' r)
    | _ => some (done.reverse, l)

/-- The relations and how they are written; a longer one is tried before the one it starts with. -/
def relations : List (String × Relation) :=
  [("==", .eq), ("!=", .ne), ("<=", .le), (">=", .ge), ("<", .lt), (">", .gt)]

/-- The first of some words that a text starts with. -/
def readWord {α : Type} (words : List (String × α)) : Reader α := fun l =>
  words.findSome? fun w => (strip? w.1 l).map fun r => (w.2, r)

/-- The literals that are words. -/
def wordLiterals : List (String × Literal) :=
  [("true", .bool true), ("false", .bool false), ("null", .null)]

/-- A character of a number. -/
def isNumberChar (c : Char) : Bool :=
  c.isDigit || c == '-' || c == '+' || c == '.' || c == 'e' || c == 'E'

/-- A literal. -/
def readLiteral : Reader Literal := fun l =>
  if startsQuoted l then (readString l).map fun p => (.string p.1, p.2)
  else match readWord wordLiterals l with
    | some p => some p
    | none =>
      (Decimal.read? (l.takeWhile isNumberChar)).map fun x =>
        (.number x, l.dropWhile isNumberChar)

/-- A filter, behind its parenthesis. -/
def readFilter (steps : Nat) : Reader Filter := fun l => do
  let l ← expect '@' (skipWhite l)
  let (path, l) ← readPath steps [] l
  let l := skipWhite l
  if l.head? = some ')' then return (⟨path, none⟩, l)
  let (relation, l) ← readWord relations l
  let (literal, l) ← readLiteral (skipWhite l)
  return (⟨path, some (relation, literal)⟩, l)

/-! ### Segments -/

/-- What stands in a bracket, up to white space before its end. -/
def readBracketed (steps : Nat) : Reader Selector := fun l =>
  match l with
  | '*' :: l => some (.wildcard, l)
  | '?' :: l => do
    let (f, l) ← readFilter steps (← expect '(' l)
    return (.filter f, ← expect ')' (skipWhite l))
  | _ => do
    let (first, r) ← readInteger l
    match r, first with
    | ':' :: r, _ =>
      let (last, r) ← readInteger r
      return (.slice first last, r)
    | _, some i =>
      let (keys, r) ← readKeys steps [.index i] r
      return (.keys keys, r)
    | _, none =>
      let (k, r) ← readKey r
      let (keys, r) ← readKeys steps [k] r
      return (.keys keys, r)

/-- A bracket, behind its opening. -/
def readBracket (steps : Nat) : Reader Selector := fun l => do
  let (s, l) ← readBracketed steps (skipWhite l)
  return (s, ← expect ']' (skipWhite l))

/-- A bare name or a wildcard. -/
def readMember : Reader Selector
  | '*' :: l => some (.wildcard, l)
  | l => (readName l).map fun p => (.keys [.name p.1], p.2)

/-- A segment. -/
def readSegment (steps : Nat) : Reader Segment
  | '.' :: '.' :: '[' :: l => (readBracket steps l).map fun p => (.descendant p.1, p.2)
  | '.' :: '.' :: l => (readMember l).map fun p => (.descendant p.1, p.2)
  | '.' :: l => (readMember l).map fun p => (.child p.1, p.2)
  | '[' :: l => (readBracket steps l).map fun p => (.child p.1, p.2)
  | _ => none

/-- Segments up to the end of the text, those before them in reverse. -/
def readSegments (bound : Nat) : Nat → List Segment → List Char → Option JsonPath
  | _, done, [] => some done.reverse
  | 0, _, _ => none
  | steps + 1, done, l => do
    let (s, l) ← readSegment bound l
    readSegments bound steps (s :: done) l

/-- **The path that a text writes.** No reader takes more steps than the text has characters. -/
def read? (text : String) : Option JsonPath :=
  let l := text.toList
  match l with
  | '$' :: r => readSegments (l.length + 1) (l.length + 1) [] r
  | _ => none

end HttpScript.JsonPath
