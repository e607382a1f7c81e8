import HttpScript.Bytes.Utf8
import HttpScript.Charset.Table

/-! # Charsets

A `Charset` is found by its label (`Charset.ofLabel?`) and decodes bytes (`Charset.decode?`). Bytes
that are no text in it are refused; a mark of the byte order is kept as a character. -/

namespace HttpScript

/-- A way to read bytes as text. -/
inductive Charset
  | utf8
  | utf16 (bigEndian : Bool)
  | single (charset : Charset.SingleByte)
  /-- Each byte from 128 on is a private character of its own. -/
  | userDefined
  /-- Nothing but the empty text can be read. -/
  | replacement

namespace Charset

/-- The labels of charsets that are not tables. -/
def otherLabels : List (Charset × List String) :=
  [(utf8, ["unicode-1-1-utf-8", "unicode11utf8", "unicode20utf8", "utf-8", "utf8",
      "x-unicode20utf8"]),
   (utf16 false, ["csunicode", "iso-10646-ucs-2", "ucs-2", "unicode", "unicodefeff", "utf-16",
      "utf-16le"]),
   (utf16 true, ["unicodefffe", "utf-16be"]),
   (userDefined, ["x-user-defined"]),
   (replacement, ["csiso2022kr", "hz-gb-2312", "iso-2022-cn", "iso-2022-cn-ext", "iso-2022-kr",
      "replacement"])]

/-- White space that may surround a label. -/
def isLabelSpace (c : Char) : Bool := c == ' ' || c == '\t' || c == '\n' || c == '\x0c' || c == '\r'

/-- **The charset that a label asks for**, in any case of letters. -/
def ofLabel? (label : String) : Option Charset :=
  let l := ((label.toList.dropWhile isLabelSpace).reverse.dropWhile isLabelSpace).reverse
  let label := String.ofList (l.map Char.toLower)
  match singleBytes.find? (·.labels.contains label) with
  | some s => some (single s)
  | none => (otherLabels.find? (·.2.contains label)).map (·.1)

/-- The name of a charset. -/
def name : Charset → String
  | utf8 => "UTF-8"
  | utf16 false => "UTF-16LE"
  | utf16 true => "UTF-16BE"
  | single s => s.name
  | userDefined => "x-user-defined"
  | replacement => "replacement"

/-- The units of two bytes, if the bytes are even in number. -/
def units16? (bigEndian : Bool) : List UInt8 → Option (List Nat)
  | [] => some []
  | [_] => none
  | a :: b :: l => do
    let rest ← units16? bigEndian l
    return (if bigEndian then a.toNat * 256 + b.toNat else a.toNat + b.toNat * 256) :: rest

/-- The characters of units of two bytes: a high surrogate has to be followed by a low one, and
none stands alone. -/
def ofUnits16? : List Nat → Option (List Char)
  | [] => some []
  | u :: l =>
    if u < 0xD800 ∨ 0xE000 ≤ u then (ofUnits16? l).map (.ofNat u :: ·)
    else match l with
      | v :: l =>
        if u < 0xDC00 ∧ 0xDC00 ≤ v ∧ v < 0xE000 then
          (ofUnits16? l).map (.ofNat (0x10000 + (u - 0xD800) * 1024 + (v - 0xDC00)) :: ·)
        else none
      | [] => none

/-- **The text of some bytes**, if they are text. -/
def decode? (c : Charset) (l : List UInt8) : Option String :=
  match c with
  | utf8 => Bytes.Utf8.decode? l
  | utf16 bigEndian => do return .ofList (← ofUnits16? (← units16? bigEndian l))
  | single s => do
    return .ofList (← l.mapM fun b =>
      if b < 0x80 then some (.ofNat b.toNat) else (s.upper[b.toNat - 128]?).join)
  | userDefined =>
    some (.ofList (l.map fun b => .ofNat (if b < 0x80 then b.toNat else 0xF700 + b.toNat)))
  | replacement => if l.isEmpty then some "" else none

end Charset

end HttpScript
