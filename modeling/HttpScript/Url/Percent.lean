import HttpScript.Bytes.Utf8
import HttpScript.Text.Ranges

/-! # Percent encoding

Characters that a place in a URL cannot hold are written as the bytes of their UTF-8 form, each
`%` and two digits. `percentEncode` takes the characters to be written so as a predicate; the sets
for the places of a URL and for form data are given here. -/

namespace HttpScript.Url

/-- A hexadecimal digit, in upper case. -/
def hexDigit (n : Nat) : Char := if n < 10 then .ofNat (48 + n) else .ofNat (55 + n)

/-- A byte as `%` and two digits. -/
def percentByte (b : UInt8) : List Char := ['%', hexDigit (b.toNat / 16), hexDigit (b.toNat % 16)]

/-- The bytes of a character, each written with a percent sign. -/
def percentChar (c : Char) : List Char := (Bytes.Utf8.encode (.singleton c)).flatMap percentByte

/-- **Writes the characters of a set with percent signs** and all others as they are. -/
def percentEncode (set : Char → Bool) (l : List Char) : List Char :=
  l.flatMap fun c => if set c then percentChar c else [c]

/-- The bytes of a text in which `%` and two digits stand for a byte. -/
def percentDecode : List Char → List UInt8
  | '%' :: a :: b :: l =>
    match Text.hexValue? a, Text.hexValue? b with
    | some x, some y => .ofNat (16 * x + y) :: percentDecode l
    | _, _ => 0x25 :: percentDecode (a :: b :: l)
  | c :: l => Bytes.Utf8.encode (.singleton c) ++ percentDecode l
  | [] => []

/-! ### The characters that a place cannot hold -/

/-- Controls, and what is not ASCII. -/
def isControl (c : Char) : Bool := c.toNat < 0x20 || 0x7E < c.toNat

/-- Not to stand in a fragment. -/
def inFragment (c : Char) : Bool := isControl c || [' ', '"', '<', '>', '\x60'].contains c

/-- Not to stand in a query. -/
def inQuery (c : Char) : Bool := isControl c || [' ', '"', '#', '<', '>'].contains c

/-- Not to stand in the query of a URL whose scheme is special. -/
def inSpecialQuery (c : Char) : Bool := inQuery c || c == '\''

/-- Not to stand in a path. -/
def inPath (c : Char) : Bool := inFragment c || ['#', '?', '\x7b', '\x7d'].contains c

/-- Not to stand in a segment of a path that stands for itself. -/
def inSegment (c : Char) : Bool := inPath c || c == '/' || c == '%'

/-- Not to stand in a user name or password. -/
def inUser (c : Char) : Bool :=
  inPath c || ['/', ':', ';', '=', '@', '[', '\\', ']', '^', '|'].contains c

/-- Not to stand in form data; a space is written as `+`. -/
def inForm (c : Char) : Bool := !(c.isAlphanum || ['*', '-', '.', '_'].contains c)

/-! ### Form data -/

/-- A character in form data. -/
def formChar (c : Char) : List Char :=
  if c == ' ' then ['+'] else if inForm c then percentChar c else [c]

/-- A name or a value in form data. -/
def formText (s : String) : List Char := s.toList.flatMap formChar

/-- A name and a value in form data. -/
def formPair (p : String × String) : List Char := formText p.1 ++ '=' :: formText p.2

/-- **Names and values as form data.** -/
def formData (l : List (String × String)) : List Char := ['&'].intercalate (l.map formPair)

end HttpScript.Url
