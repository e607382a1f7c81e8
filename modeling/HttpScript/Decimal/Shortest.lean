import HttpScript.Decimal.Read

/-! # Shortest decimal digits

The fewest decimal digits that read back as a given double. A finite positive double is `m · 2 ^ q`
(`Binary`); the numbers that read back as it form an interval around it (`Window`, whose ends
belong to it iff `m` is even). `shortest` looks at the grids of 1, 2, … 17 digits in turn and takes
the first one that has a point in the window, of two such points the nearer one. Which way an
exact tie goes is a parameter. -/

namespace HttpScript.Decimal

/-- Which of two equally near digits is taken. -/
inductive Tie
  | up | even
  deriving DecidableEq, Repr

/-- The number `m · 2 ^ q`. -/
structure Binary where
  m : Nat
  q : Int
  deriving DecidableEq, Repr

namespace Binary

/-- The parts of a finite double, its sign dropped. -/
def ofFloat (x : Float) : Binary :=
  let bits : Nat := x.toBits.toNat
  let fraction : Nat := bits % Nat.pow 2 52
  let exponent : Nat := bits / Nat.pow 2 52 % Nat.pow 2 11
  if exponent = 0 then ⟨fraction, -1074⟩ else ⟨Nat.pow 2 52 + fraction, (exponent : Int) - 1075⟩

end Binary

/-- A number `value / unit` between the ends of the interval that reads back as it, all over the
same denominator. -/
structure Window where
  low : Nat
  value : Nat
  high : Nat
  unit : Nat
  /-- Whether the ends belong to the interval. -/
  closed : Bool
  deriving Repr

namespace Window

/-- The window of `b`, in units of `10 ^ k`. The lower end is nearer where `m` is a power of two
that the next smaller double does not share its exponent with. -/
def ofBinary (b : Binary) (k : Int) : Window :=
  let below := if b.m = Nat.pow 2 52 ∧ b.q ≠ -1074 then 1 else 2
  let scale := Nat.pow 2 (b.q - 2).toNat * Nat.pow 10 (-k).toNat
  let unit := Nat.pow 2 (2 - b.q).toNat * Nat.pow 10 k.toNat
  ⟨(4 * b.m - below) * scale, 4 * b.m * scale, (4 * b.m + 2) * scale, unit, b.m % 2 == 0⟩

/-- Whether the grid point `d` lies in the window. -/
def holds (w : Window) (d : Nat) : Bool :=
  if w.closed then w.low ≤ d * w.unit && d * w.unit ≤ w.high
  else w.low < d * w.unit && d * w.unit < w.high

/-- The grid point in the window that is nearest to the value, if there is one. -/
def nearest? (w : Window) (tie : Tie) : Option Nat :=
  let d := w.value / w.unit
  let rest := w.value % w.unit
  match w.holds d, w.holds (d + 1) with
  | false, false => none
  | true, false => some d
  | false, true => some (d + 1)
  | true, true =>
    if 2 * rest < w.unit then some d
    else if w.unit < 2 * rest then some (d + 1)
    else match tie with
      | .up => some (d + 1)
      | .even => some (if d % 2 = 0 then d else d + 1)

end Window

/-- The number of decimal digits before the point of `b`; none or fewer for small numbers. The
estimate from the binary logarithm is off by at most one. -/
def wholeDigits (b : Binary) : Int :=
  let guess : Int := (((Nat.log2 b.m : Int) + b.q) * 30103) / 100000
  let w := Window.ofBinary b guess
  if w.unit * 10 ≤ w.value then guess + 2
  else if w.unit ≤ w.value then guess + 1
  else guess

/-- Decimal digits and the place of the point: `digits · 10 ^ (point - digits.length)`. -/
structure Digits where
  digits : List Char
  point : Int
  deriving Repr

/-- The digits of `d · 10 ^ k`, without zeros at the end. -/
def Digits.ofScaled (d : Nat) (k : Int) : Digits :=
  let l := Nat.toDigits 10 d
  let kept := (l.reverse.dropWhile (· = '0')).reverse
  ⟨kept, k + l.length⟩

/-- The shortest digits with at least `n` of them, of which at most `fuel` more are tried. -/
def shortestFrom (b : Binary) (whole : Int) (tie : Tie) : Nat → Nat → Digits
  | n, fuel + 1 =>
    let k := whole - n
    match (Window.ofBinary b k).nearest? tie with
    | some d => .ofScaled d k
    | none => shortestFrom b whole tie (n + 1) fuel
  | n, 0 => .ofScaled (Window.ofBinary b (whole - n)).value (whole - n)

/-- **The shortest digits of a finite positive double.** Seventeen always suffice. -/
def shortest (tie : Tie) (x : Float) : Digits :=
  let b := Binary.ofFloat x
  shortestFrom b (wholeDigits b) tie 1 17

end HttpScript.Decimal
