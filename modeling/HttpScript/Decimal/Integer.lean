import HttpScript.Decimal.Read

/-! # Reading whole numbers

Whole numbers in decimal digits with a sign before them. `int64?` and `nat64?` accept what fits into
64 bits, with and without a sign bit. -/

namespace HttpScript.Decimal

/-- The number that digits write, if they are digits and there are any. -/
def nat? (l : List Char) : Option Nat :=
  if l.isEmpty ∨ !l.all Char.isDigit then none else some (natOfDigits l)

/-- A whole number with or without a sign. -/
def int? (l : List Char) : Option Int := do
  let (negative, digits) := takeSign l
  let n ← nat? digits
  return if negative then -n else n

/-- Whether a number fits into 64 bits with a sign. -/
def fits64 (n : Int) : Bool := -9223372036854775808 ≤ n && n ≤ 9223372036854775807

/-- A whole number that fits into 64 bits with a sign. -/
def int64? (l : List Char) : Option Int := (int? l).filter fits64

/-- A whole number without a minus that fits into 64 bits. -/
def nat64? (l : List Char) : Option Nat :=
  let digits := match l with
    | '+' :: l => l
    | l => l
  (nat? digits).filter (· < 18446744073709551616)

end HttpScript.Decimal
