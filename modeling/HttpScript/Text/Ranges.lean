/-! # Sets of code points as sorted ranges

`Ranges` is a set of code points given by disjoint ranges in increasing order, both ends included.
`Ranges.ofLines` reads the written form, hexadecimal ranges parted by blanks (`41-5A 5F`), and
`Ranges.contains` finds a code point by halving. -/

namespace HttpScript.Text

/-- Disjoint ranges of code points in increasing order. -/
structure Ranges where
  /-- The first and last code point of each range. -/
  ends : Array (Nat × Nat)
  deriving Inhabited

/-- The value of a hexadecimal digit. -/
def hexValue? (c : Char) : Option Nat :=
  if '0' ≤ c ∧ c ≤ '9' then some (c.toNat - '0'.toNat)
  else if 'a' ≤ c ∧ c ≤ 'f' then some (c.toNat - 'a'.toNat + 10)
  else if 'A' ≤ c ∧ c ≤ 'F' then some (c.toNat - 'A'.toNat + 10)
  else none

/-- The number written by hexadecimal digits; other characters count for nothing. -/
def hexNumber (l : List Char) : Nat :=
  l.foldl (fun n c => match hexValue? c with | some d => 16 * n + d | none => n) 0

namespace Ranges

/-- One more character of the written form: the ranges read so far, the first end of a range whose
second is being read, and the number read so far. -/
def readChar (s : Array (Nat × Nat) × Option Nat × Nat) (c : Char) :
    Array (Nat × Nat) × Option Nat × Nat :=
  match s with
  | (done, first, n) =>
    if c = '-' then (done, some n, 0)
    else if c = ' ' then (done.push (first.getD n, n), none, 0)
    else (done, first, 16 * n + (hexValue? c).getD 0)

/-- The ranges of the lines of a written table. -/
def ofLines (lines : List String) : Ranges :=
  ⟨(lines.foldl (fun s line => (line.toList ++ [' ']).foldl readChar s) (#[], none, 0)).1⟩

/-- Looks for `n` among the ranges with index at least `lo` and below `hi`. -/
def search (t : Ranges) (n lo hi : Nat) : Bool :=
  if _ : lo < hi then
    let mid := (lo + hi) / 2
    match t.ends[mid]? with
    | none => false
    | some (a, b) =>
      if n < a then t.search n lo mid
      else if b < n then t.search n (mid + 1) hi
      else true
  else false
termination_by hi - lo

/-- Whether `n` lies in one of the ranges. -/
def contains (t : Ranges) (n : Nat) : Bool := t.search n 0 t.ends.size

end Ranges

end HttpScript.Text
