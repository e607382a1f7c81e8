import HttpScript.Decimal.Shortest

/-! # Layouts of decimal numbers

A `Layout` says how the shortest digits of a double are set: between which places of the point
they are written without an exponent, whether a whole number shows its point, and which of two
equally near digits is taken. `Layout.plain` never uses an exponent; `Layout.data` is the layout of
numbers in data documents. -/

namespace HttpScript.Decimal

/-- How the digits of a double are set. -/
structure Layout where
  /-- Whether digits with the point at this place are written without an exponent. -/
  positional : Int → Bool
  /-- Whether a whole number is followed by a point and a zero. -/
  showsPoint : Bool
  tie : Tie

namespace Layout

/-- Never an exponent, and no point after a whole number. -/
def plain : Layout := ⟨fun _ => true, false, .up⟩

/-- An exponent below `10 ^ -5` and from `10 ^ 16` on, and always a point or an exponent. -/
def data : Layout := ⟨fun point => -5 < point && point ≤ 16, true, .even⟩

/-- The digits with the point in its place. -/
def positionalText (showsPoint : Bool) (d : Digits) : List Char :=
  let n := d.digits.length
  if d.point ≤ 0 then
    ['0', '.'] ++ List.replicate (-d.point).toNat '0' ++ d.digits
  else if d.point < n then
    d.digits.take d.point.toNat ++ '.' :: d.digits.drop d.point.toNat
  else
    d.digits ++ List.replicate (d.point.toNat - n) '0' ++ (if showsPoint then ['.', '0'] else [])

/-- The digits with one before the point and an exponent. -/
def exponentText (d : Digits) : List Char :=
  let e := d.point - 1
  let mantissa := match d.digits with
    | [] => ['0']
    | [c] => [c]
    | c :: l => c :: '.' :: l
  mantissa ++ (if e < 0 then ['e', '-'] else ['e', '+']) ++ Nat.toDigits 10 e.natAbs

/-- The text of a double that is not negative. -/
def magnitude (l : Layout) (x : Float) : List Char :=
  if x == 0 then (if l.showsPoint then ['0', '.', '0'] else ['0'])
  else
    let d := shortest l.tie x
    if l.positional d.point then positionalText l.showsPoint d else exponentText d

/-- Whether the sign of a double is set. -/
def isNegative (x : Float) : Bool := Nat.pow 2 63 ≤ x.toBits.toNat

/-- **The text of a double.** -/
def text (l : Layout) (x : Float) : String :=
  if x.isNaN then "NaN"
  else if x.isInf then (if isNegative x then "-inf" else "inf")
  else .ofList (if isNegative x then '-' :: l.magnitude x.abs else l.magnitude x)

end Layout

/-- The shortest text of a number, without an exponent. -/
def text (x : Float) : String := Layout.plain.text x

end HttpScript.Decimal
