import HttpScript.Decimal.Layout
import HttpScript.Text.Class

/-! # Numbers of path expressions

Numbers are doubles. A text that writes none is not-a-number. Halves are rounded up, and a
remainder has the sign of what is divided. -/

namespace HttpScript.XPath.Number

/-- Not-a-number. -/
def nan : Float := Float.ofBits 0x7FF8000000000000

/-- The number that a text writes, white space around it left out. -/
def ofText (s : String) : Float := (Decimal.read? (Text.trim s.toList)).getD nan

/-- A number as text. -/
def text (x : Float) : String :=
  if x.isInf then (if x < 0 then "-Infinity" else "Infinity") else Decimal.text x

/-- The nearest whole number, of two the greater one. The result keeps the sign, of zero too. -/
def round (x : Float) : Float :=
  let low := x.floor
  if x == low then x
  else
    let y := (2.0 * x - low).floor
    if Decimal.Layout.isNegative x == Decimal.Layout.isNegative y then y else -y

/-- What is left of `|x|` after as many `|y|` as fit into it, both finite and `y` not zero. -/
def magnitudeRemainder (x y : Float) : Float :=
  let a := Decimal.Binary.ofFloat x
  let b := Decimal.Binary.ofFloat y
  let q := min a.q b.q
  let m := (a.m * Nat.pow 2 (a.q - q).toNat) % (b.m * Nat.pow 2 (b.q - q).toNat)
  Float.scaleB (Float.ofNat m) q

/-- The remainder of a division that cuts the quotient. -/
def remainder (x y : Float) : Float :=
  if x.isNaN || y.isNaN || x.isInf || y == 0 then nan
  else if y.isInf then x
  else
    let r := magnitudeRemainder x y
    if Decimal.Layout.isNegative x then -r else r

end HttpScript.XPath.Number
