import HttpScript.Json.Basic
import HttpScript.Text.Ranges

/-! # Reading JSON documents

`Json.read?` reads a whole document and names the first fault with its line and column (in bytes);
`Json.extent?` finds how many characters of a text its first value takes. Nesting is bounded:
`deepest` containers inside each other are too many.

A reader works on the characters that are left and counts the bytes before them. Functions that
step through members or digits take a bound on the number of steps, for which the length of the
text serves. -/

namespace HttpScript.Json

/-! ### Faults -/

/-- Why a text is no document. -/
inductive Fault
  | endInList | endInObject | endInString | endInValue
  | colon | listSeparator | objectSeparator | word | value
  | escape | number | range | controlChar | key
  | loneSurrogate | trailingComma | trailing | unfinishedEscape | depth
  deriving DecidableEq, Repr, Inhabited

namespace Fault

/-- The wording of a fault. -/
def message : Fault → String
  | endInList => "EOF while parsing a list"
  | endInObject => "EOF while parsing an object"
  | endInString => "EOF while parsing a string"
  | endInValue => "EOF while parsing a value"
  | colon => "expected \x60:\x60"
  | listSeparator => "expected \x60,\x60 or \x60]\x60"
  | objectSeparator => "expected \x60,\x60 or \x60\x7d\x60"
  | word => "expected ident"
  | value => "expected value"
  | escape => "invalid escape"
  | number => "invalid number"
  | range => "number out of range"
  | controlChar => "control character (\\u0000-\\u001F) found while parsing a string"
  | key => "key must be a string"
  | loneSurrogate => "lone leading surrogate in hex escape"
  | trailingComma => "trailing comma"
  | trailing => "trailing characters"
  | unfinishedEscape => "unexpected end of hex escape"
  | depth => "recursion limit exceeded"

end Fault

/-- A fault and the number of bytes read when it was found. -/
structure Failure where
  fault : Fault
  bytes : Nat
  deriving DecidableEq, Repr

/-- The characters left to read and the number of bytes before them. -/
structure Rest where
  chars : List Char
  bytes : Nat
  deriving DecidableEq, Repr

/-- A reader of an `α`. -/
abbrev Reader (α : Type) := Rest → Except Failure (α × Rest)

namespace Rest

/-- The rest behind one character. -/
def skip (r : Rest) (c : Char) (l : List Char) : Rest := ⟨l, r.bytes + c.utf8Size⟩

/-- Fails at the bytes read so far. -/
def fail {α : Type} (r : Rest) (f : Fault) : Except Failure α := .error ⟨f, r.bytes⟩

/-- Fails at the next byte, or at the end of the text. -/
def failNext {α : Type} (r : Rest) (f : Fault) : Except Failure α :=
  .error ⟨f, if r.chars.isEmpty then r.bytes else r.bytes + 1⟩

end Rest

/-- The blanks between tokens. -/
def isBlank (c : Char) : Bool := c == ' ' || c == '\n' || c == '\t' || c == '\r'

/-- Skips blanks. -/
def skipBlanks (r : Rest) : Rest :=
  let (blanks, rest) := r.chars.span isBlank
  ⟨rest, r.bytes + blanks.length⟩

/-! ### Words and numbers -/

/-- The characters `word`, the end of a word of which the first one has been read. -/
def readWord : List Char → Reader Unit
  | [], r => .ok ((), r)
  | w :: word, r =>
    match r.chars with
    | [] => r.fail .endInValue
    | c :: l => if c = w then readWord word (r.skip c l) else r.failNext .word

/-- A number while it is read: whether it is negative, its digits as far as 64 bits hold them, and
the power of ten they are to be scaled by. -/
structure Partial where
  negative : Bool
  significand : Nat
  exponent : Int

/-- The power of ten below which a scaling is done in one step. -/
def largestPower : Nat := 308

/-- Scales `f` by a power of ten in steps of the largest power, each rounding. Two steps down bring
any 64-bit number to zero. -/
def scale : Nat → Float → Int → Option Float
  | steps, f, e =>
    if e.natAbs ≤ largestPower then
      let p := Float.ofScientific 1 false e.natAbs
      if e < 0 then some (f / p)
      else
        let g := f * p
        if g.isInf then none else some g
    else if f == 0 then some f
    else if 0 ≤ e then none
    else match steps with
      | 0 => some 0
      | steps + 1 => scale steps (f / Float.ofScientific 1 false largestPower) (e + largestPower)

/-- The double of a number. -/
def Partial.finish (p : Partial) (r : Rest) : Except Failure (JsonNumber × Rest) :=
  match scale 3 (UInt64.ofNat p.significand).toFloat p.exponent with
  | some f => .ok (.double (if p.negative then -f else f), r)
  | none => r.fail .range

/-- The bound that an exponent may not pass. -/
def exponentBound : Nat := Nat.pow 2 31

/-- The digits of an exponent: their value, unless it passes the bound, and whether it did. Reading
stops behind the digit that passes it. -/
def readExponentDigits (n : Nat) : List Char → Nat → Nat × Bool × List Char × Nat
  | [], k => (n, false, [], k)
  | c :: l, k =>
    if c.isDigit then
      let m := 10 * n + Decimal.digitValue c
      if exponentBound ≤ m then (n, true, l, k + 1) else readExponentDigits m l (k + 1)
    else (n, false, c :: l, k)

/-- The exponent of a number, behind its `e`. -/
def readExponent (p : Partial) (r : Rest) : Except Failure (JsonNumber × Rest) :=
  let (down, r) : Bool × Rest := match r.chars with
    | '+' :: l => (false, r.skip '+' l)
    | '-' :: l => (true, r.skip '-' l)
    | _ => (false, r)
  match r.chars with
  | [] => r.fail .endInValue
  | c :: l =>
    if !c.isDigit then r.failNext .number
    else
      let (e, tooLarge, rest, k) := readExponentDigits (Decimal.digitValue c) l 0
      let r := Rest.mk rest (r.bytes + 1 + k)
      if tooLarge then
        if p.significand ≠ 0 ∧ !down then r.fail .range
        else
          let digits := r.chars.takeWhile Char.isDigit
          .ok (.double (if p.negative then -0.0 else 0.0),
            ⟨r.chars.drop digits.length, r.bytes + digits.length⟩)
      else { p with exponent := p.exponent + (if down then -(e : Int) else e) }.finish r

/-- The exponent of a number, if there is one. -/
def readScale (p : Partial) (r : Rest) : Except Failure (JsonNumber × Rest) :=
  match r.chars with
  | c :: l => if c = 'e' ∨ c = 'E' then readExponent p (r.skip c l) else p.finish r
  | [] => p.finish r

/-- Whether one more digit passes 64 bits. -/
def passesWord (n d : Nat) : Bool := UInt64.size ≤ 10 * n + d

/-- Takes digits into a significand until it is full: the significand, how many digits it took, and
the rest. -/
def fillSignificand (n : Nat) : List Char → Nat → Nat × Nat × List Char
  | [], k => (n, k, [])
  | c :: l, k =>
    if c.isDigit && !passesWord n (Decimal.digitValue c) then
      fillSignificand (10 * n + Decimal.digitValue c) l (k + 1)
    else (n, k, c :: l)

/-- The fraction of a number, behind its point. Digits that do not fit are dropped. -/
def readFraction (p : Partial) (r : Rest) : Except Failure (JsonNumber × Rest) :=
  let (n, k, rest) := fillSignificand p.significand r.chars 0
  let dropped := (rest.takeWhile Char.isDigit).length
  let after : Rest := ⟨rest.drop dropped, r.bytes + k + dropped⟩
  if k = 0 ∧ dropped = 0 then
    r.failNext (if r.chars.isEmpty then .endInValue else .number)
  else readScale { p with significand := n, exponent := p.exponent - k } after

/-- A number whose digits before the point have been read; `dropped` of them did not fit. -/
def readNumberTail (p : Partial) (dropped : Nat) (r : Rest) : Except Failure (JsonNumber × Rest) :=
  match r.chars with
  | '.' :: l => readFraction p (r.skip '.' l)
  | c :: l =>
    if c = 'e' ∨ c = 'E' then readExponent p (r.skip c l) else whole r
  | [] => whole r
where
  /-- A number without fraction and exponent. -/
  whole (r : Rest) : Except Failure (JsonNumber × Rest) :=
    if dropped ≠ 0 then p.finish r
    else if !p.negative then .ok (.integer p.significand, r)
    else if p.significand = 0 ∨ Nat.pow 2 63 < p.significand then
      .ok (.double (-(UInt64.ofNat p.significand).toFloat), r)
    else .ok (.integer (-(p.significand : Int)), r)

/-- A number, behind its sign. -/
def readNumber (negative : Bool) : Reader JsonNumber := fun r =>
  match r.chars with
  | [] => r.fail .endInValue
  | c :: l =>
    if c = '0' then
      let r := r.skip c l
      if (l.head?.map Char.isDigit).getD false then r.failNext .number
      else readNumberTail ⟨negative, 0, 0⟩ 0 r
    else if c.isDigit then
      let (n, k, rest) := fillSignificand 0 (c :: l) 0
      let dropped := (rest.takeWhile Char.isDigit).length
      readNumberTail ⟨negative, n, dropped⟩ dropped ⟨rest.drop dropped, r.bytes + k + dropped⟩
    else r.failNext .number

/-! ### Strings -/

/-- Four hexadecimal digits. A text with fewer than four bytes left ends too early. -/
def readHex : Reader Nat := fun r =>
  match r.chars with
  | a :: b :: c :: d :: l =>
    match Text.hexValue? a, Text.hexValue? b, Text.hexValue? c, Text.hexValue? d with
    | some a, some b, some c, some d =>
      .ok (((a * 16 + b) * 16 + c) * 16 + d, ⟨l, r.bytes + 4⟩)
    | _, _, _, _ => .error ⟨.escape, r.bytes + 4⟩
  | l =>
    let left := (String.ofList l).utf8ByteSize
    if left < 4 then .error ⟨.endInString, r.bytes + left⟩ else .error ⟨.escape, r.bytes + 4⟩

/-- The character `c` of an escape of two code units. -/
def readUnit (c : Char) : Reader Unit := fun r =>
  match r.chars with
  | [] => r.fail .endInString
  | d :: l => if d = c then .ok ((), r.skip d l) else r.failNext .unfinishedEscape

/-- The character of a code point that is no surrogate. -/
def charOf (n : Nat) : Char := Char.ofNat n

/-- An escape of one or two code units, behind its `u`. -/
def readCodeUnits : Reader Char := fun r => do
  let (n, r) ← readHex r
  if 0xDC00 ≤ n ∧ n ≤ 0xDFFF then r.fail .loneSurrogate
  else if n < 0xD800 ∨ 0xDBFF < n then .ok (charOf n, r)
  else
    let ((), r) ← readUnit '\\' r
    let ((), r) ← readUnit 'u' r
    let (m, r) ← readHex r
    if m < 0xDC00 ∨ 0xDFFF < m then r.fail .loneSurrogate
    else .ok (charOf ((n - 0xD800) * 0x400 + (m - 0xDC00) + 0x10000), r)

/-- An escape, behind its backslash. -/
def readEscape : Reader Char := fun r =>
  match r.chars with
  | [] => r.fail .endInString
  | c :: l =>
    let next := r.skip c l
    match c with
    | '"' => .ok ('"', next)
    | '\\' => .ok ('\\', next)
    | '/' => .ok ('/', next)
    | 'b' => .ok ('\x08', next)
    | 'f' => .ok ('\x0c', next)
    | 'n' => .ok ('\n', next)
    | 'r' => .ok ('\r', next)
    | 't' => .ok ('\t', next)
    | 'u' => readCodeUnits next
    | _ => r.failNext .escape

/-- The characters of a string up to its closing quote, those before them in reverse. -/
def readString : Nat → List Char → Reader String
  | 0, _, r => r.fail .endInString
  | steps + 1, done, r =>
    match r.chars with
    | [] => r.fail .endInString
    | c :: l =>
      if c = '"' then .ok (.ofList done.reverse, r.skip c l)
      else if c = '\\' then do
        let (d, r) ← readEscape (r.skip c l)
        readString steps (d :: done) r
      else if c.toNat < 32 then r.failNext .controlChar
      else readString steps (c :: done) (r.skip c l)

/-! ### Containers -/

/-- The items of an array behind the first one. -/
def readItems (item : Reader Json) : Nat → List Json → Reader (List Json)
  | 0, _, r => r.fail .endInList
  | steps + 1, done, r =>
    let r := skipBlanks r
    match r.chars with
    | [] => r.fail .endInList
    | ']' :: l => .ok (done.reverse, r.skip ']' l)
    | ',' :: l =>
      let r := skipBlanks (r.skip ',' l)
      match r.chars with
      | [] => r.fail .endInValue
      | ']' :: _ => r.failNext .trailingComma
      | _ => do
        let (v, r) ← item r
        readItems item steps (v :: done) r
    | _ => r.failNext .listSeparator

/-- An array, behind its bracket. -/
def readArray (item : Reader Json) (steps : Nat) : Reader (List Json) := fun r =>
  let r := skipBlanks r
  match r.chars with
  | [] => r.fail .endInList
  | ']' :: l => .ok ([], r.skip ']' l)
  | _ => do
    let (v, r) ← item r
    readItems item steps [v] r

/-- A member of an object, behind the quote of its name. -/
def readMember (item : Reader Json) (steps : Nat) : Reader (String × Json) := fun r => do
  let (name, r) ← readString steps [] r
  let r := skipBlanks r
  match r.chars with
  | [] => r.fail .endInObject
  | ':' :: l =>
    let (v, r) ← item (r.skip ':' l)
    .ok ((name, v), r)
  | _ => r.failNext .colon

/-- The members of an object behind the first one. -/
def readMembers (item : Reader Json) (bound : Nat) :
    Nat → List (String × Json) → Reader (List (String × Json))
  | 0, _, r => r.fail .endInObject
  | steps + 1, done, r =>
    let r := skipBlanks r
    match r.chars with
    | [] => r.fail .endInObject
    | '}' :: l => .ok (done.reverse, r.skip '}' l)
    | ',' :: l =>
      let r := skipBlanks (r.skip ',' l)
      match r.chars with
      | [] => r.fail .endInValue
      | '"' :: l => do
        let (m, r) ← readMember item bound (r.skip '"' l)
        readMembers item bound steps (m :: done) r
      | '}' :: _ => r.failNext .trailingComma
      | _ => r.failNext .key
    | _ => r.failNext .objectSeparator

/-- An object, behind its brace. -/
def readObject (item : Reader Json) (steps : Nat) : Reader (List (String × Json)) := fun r =>
  let r := skipBlanks r
  match r.chars with
  | [] => r.fail .endInObject
  | '}' :: l => .ok ([], r.skip '}' l)
  | '"' :: l => do
    let (m, r) ← readMember item steps (r.skip '"' l)
    readMembers item steps steps [m] r
  | _ => r.failNext .key

/-! ### Values -/

/-- As many containers inside each other are too many. -/
def deepest : Nat := 128

/-- A value, with room for fewer than `depth` containers inside each other. -/
def readValue (steps : Nat) : Nat → Reader Json
  | 0, r => r.fail .depth
  | depth + 1, r =>
    let r := skipBlanks r
    match r.chars with
    | [] => r.fail .endInValue
    | c :: l =>
      let next := r.skip c l
      match c with
      | 'n' => (readWord "ull".toList next).map fun p => (null, p.2)
      | 't' => (readWord "rue".toList next).map fun p => (bool true, p.2)
      | 'f' => (readWord "alse".toList next).map fun p => (bool false, p.2)
      | '-' => (readNumber true next).map fun p => (number p.1, p.2)
      | '"' => (readString steps [] next).map fun p => (string p.1, p.2)
      | '[' =>
        if depth = 0 then r.failNext .depth
        else (readArray (readValue steps depth) steps next).map fun p => (array p.1, p.2)
      | '{' =>
        if depth = 0 then r.failNext .depth
        else (readObject (readValue steps depth) steps next).map fun p => (ofMembers p.1, p.2)
      | _ =>
        if c.isDigit then (readNumber false r).map fun p => (number p.1, p.2)
        else r.failNext .value

/-! ### Documents -/

/-- A fault with the line and the column at which it was found; columns are counted in bytes. -/
structure ReadError where
  fault : Fault
  line : Nat
  column : Nat
  deriving DecidableEq, Repr

/-- The wording of an error. -/
def ReadError.message (e : ReadError) : String :=
  e.fault.message ++ " at line " ++ toString e.line ++ " column " ++ toString e.column

/-- The line and column behind the first `bytes` bytes of a text. -/
def lineColumn : List Char → Nat → Nat → Nat → Nat × Nat
  | [], bytes, line, column => (line, column + bytes)
  | c :: l, bytes, line, column =>
    if bytes < c.utf8Size then (line, column + bytes)
    else if c = '\n' then lineColumn l (bytes - 1) (line + 1) 0
    else lineColumn l (bytes - c.utf8Size) line (column + c.utf8Size)

/-- A document: one value with blanks around it. -/
def readDocument (chars : List Char) : Except Failure Json := do
  let (v, r) ← readValue (chars.length + 1) deepest ⟨chars, 0⟩
  let r := skipBlanks r
  if r.chars.isEmpty then .ok v else r.failNext .trailing

/-- **The value of a document.** -/
def read? (text : String) : Except ReadError Json :=
  match readDocument text.toList with
  | .ok v => .ok v
  | .error f =>
    let (line, column) := lineColumn text.toList f.bytes 1 0
    .error ⟨f.fault, line, column⟩

/-- Whether a value that shows its own end starts with `c`. -/
def isSelfDelimiting (c : Char) : Bool := c == '[' || c == '"' || c == '\x7b'

/-- Whether any value may end before the character `c`. -/
def endsValue (c : Char) : Bool :=
  isBlank c || ['"', '[', ']', '\x7b', '\x7d', ',', ':'].contains c

/-- **The number of characters that the value at the start of a text takes**, if there is one. -/
def extent? (chars : List Char) : Option Nat :=
  match readValue (chars.length + 1) deepest ⟨chars, 0⟩ with
  | .error _ => none
  | .ok (_, r) =>
    if (chars.head?.map isSelfDelimiting).getD false || (r.chars.head?.map endsValue).getD true then
      some (chars.length - r.chars.length)
    else none

end HttpScript.Json
