/-! # Character classes of the script format

The small classes that the grammar names: blanks, line breaks, digits, white space and combining
marks. Each is given by its code points, so it is decided without a table. -/

namespace HttpScript.Text

/-- A space or a tab. -/
def isBlank (c : Char) : Bool := c == ' ' || c == '\t'

/-- A line feed or a carriage return. -/
def isLineBreak (c : Char) : Bool := c == '\n' || c == '\r'

/-- A hexadecimal digit of either case. -/
def isHexDigit (c : Char) : Bool :=
  c.isDigit || ('a' ≤ c && c ≤ 'f') || ('A' ≤ c && c ≤ 'F')

/-- White space of any script (the Unicode property White_Space). -/
def isWhite (c : Char) : Bool :=
  let n := c.toNat
  (9 ≤ n && n ≤ 13) || n == 0x20 || n == 0x85 || n == 0xA0 || n == 0x1680 ||
    (0x2000 ≤ n && n ≤ 0x200A) || n == 0x2028 || n == 0x2029 || n == 0x202F || n == 0x205F ||
    n == 0x3000

/-- A combining diacritical mark, which takes no column of its own. -/
def isCombining (c : Char) : Bool :=
  let n := c.toNat
  (0x300 ≤ n && n ≤ 0x36F) || (0x1AB0 ≤ n && n ≤ 0x1AFF) || (0x1DC0 ≤ n && n ≤ 0x1DFF) ||
    (0xFE20 ≤ n && n ≤ 0xFE2F)

/-- A text without the white space at either end. -/
def trim (l : List Char) : List Char :=
  ((l.dropWhile isWhite).reverse.dropWhile isWhite).reverse

end HttpScript.Text
