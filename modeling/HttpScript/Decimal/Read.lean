/-! # Reading decimal numbers

The double nearest to a decimal number, ties going to the even neighbour. `ofDigits` takes digits
and a power of ten; exponents so large that the result is surely zero or infinite are cut off
first, so that no huge power is computed. `read?` is the grammar of number texts: a sign, digits
with an optional point, an optional exponent, or one of the words for infinity and not-a-number. -/

namespace HttpScript.Decimal

/-- The value of a decimal digit. -/
def digitValue (c : Char) : Nat := c.toNat - '0'.toNat

/-- The number written by decimal digits. -/
def natOfDigits (l : List Char) : Nat := l.foldl (fun n c => 10 * n + digitValue c) 0

/-- The double nearest to `m · 10 ^ e`. -/
def ofDigits (m : Nat) (e : Int) : Float :=
  if m = 0 then 0
  else
    let size : Int := (Nat.log2 m / 3 : Nat)
    if e < -400 - size - 1 then 0
    else if 400 < e then Float.ofBits 0x7FF0000000000000
    else if e < 0 then .ofScientific m true (-e).toNat
    else .ofScientific m false e.toNat

/-- The double nearest to `± m · 10 ^ e`. -/
def signed (negative : Bool) (m : Nat) (e : Int) : Float :=
  if negative then -ofDigits m e else ofDigits m e

/-- The double written `whole.fraction` with an exponent. -/
def ofParts (negative : Bool) (whole fraction : List Char) (exponent : Int) : Float :=
  signed negative (natOfDigits (whole ++ fraction)) (exponent - fraction.length)

/-- Splits off a sign: whether it is a minus, and the rest. -/
def takeSign : List Char → Bool × List Char
  | '-' :: l => (true, l)
  | '+' :: l => (false, l)
  | l => (false, l)

/-- The exponent part of a number text, which is nothing or `e` with a sign and digits. -/
def exponent? : List Char → Option Int
  | [] => some 0
  | c :: l =>
    if c = 'e' ∨ c = 'E' then
      let (negative, digits) := takeSign l
      if digits.isEmpty || !digits.all Char.isDigit then none
      else
        let n : Int := natOfDigits digits
        some (if negative then -n else n)
    else none

/-- The number texts without a sign. -/
def readUnsigned? (negative : Bool) (l : List Char) : Option Float :=
  let lower := l.map Char.toLower
  if lower = "inf".toList ∨ lower = "infinity".toList then
    some (Float.ofBits (if negative then 0xFFF0000000000000 else 0x7FF0000000000000))
  else if lower = "nan".toList then some (Float.ofBits 0x7FF8000000000000)
  else
    let (whole, rest) := l.span Char.isDigit
    let (fraction, rest) := match rest with
      | '.' :: rest => rest.span Char.isDigit
      | _ => ([], rest)
    if whole.isEmpty && fraction.isEmpty then none
    else (exponent? rest).map (ofParts negative whole fraction ·)

/-- **The double that a text writes**, if it writes one. -/
def read? (l : List Char) : Option Float :=
  let (negative, l) := takeSign l
  readUnsigned? negative l

end HttpScript.Decimal
