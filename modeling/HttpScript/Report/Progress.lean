import HttpScript.Decimal.Shortest
import HttpScript.Report.Style

/-! # Progress of several scripts

One line before and one behind each script, and a summary behind all. Shares are shown in percent
with one decimal place, a half going to the even neighbour. -/

namespace HttpScript.Report

/-- The line before a script. -/
def running (filename : String) (colored : Bool) : String :=
  paint .bold colored filename ++ ": " ++ paint .cyan colored "RUNNING"

/-- The line behind a script. -/
def finished (filename : String) (succeeded : Bool) (milliseconds : Nat) (colored : Bool) :
    String :=
  let state := if succeeded then paint .boldGreen colored "SUCCESS"
    else paint .boldRed colored "FAILED"
  paint .bold colored filename ++ ": " ++ state ++ " " ++
    paint .dim colored ("in " ++ toString milliseconds ++ " ms")

/-- The whole number nearest to `a / b`, a half going to the even one. -/
def roundEven (a b : Nat) : Nat :=
  let q := a / b
  let twice := 2 * (a % b)
  if twice < b ∨ (twice = b ∧ q % 2 = 0) then q else q + 1

/-- A number that is not negative, with one decimal place. -/
def oneDecimal (x : Float) : String :=
  let b := Decimal.Binary.ofFloat x
  let tenths := roundEven (10 * b.m * Nat.pow 2 b.q.toNat) (Nat.pow 2 (-b.q).toNat)
  toString (tenths / 10) ++ "." ++ toString (tenths % 10)

/-- The share of `n` in `total`. -/
def percent (n total : Nat) : String :=
  let share : Float := if total = 0 then 0 else Float.ofNat n * 100 / Float.ofNat total
  oneDecimal share ++ "%"

/-- The summary behind all scripts. -/
def summary (total failed milliseconds : Nat) (colored : Bool) : String :=
  let succeeded := total - failed
  paint .yellow colored ("".pushn '-' 80) ++
    "\nExecuted files:  " ++ toString total ++
    "\nSucceeded files: " ++ toString succeeded ++ " (" ++ percent succeeded total ++ ")" ++
    "\nFailed files:    " ++ toString failed ++ " (" ++ percent failed total ++ ")" ++
    "\nDuration:        " ++ toString milliseconds ++ " ms"

end HttpScript.Report
