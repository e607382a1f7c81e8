import HttpScript.Text.CaseClass
import HttpScript.Text.Category

/-! # Labels of domain names

A label that is not ASCII is written as `xn--` and a code of its characters: the ASCII characters,
and for each of the others, in increasing order, the steps of a walk over all characters and places
as a number of variable length. -/

namespace HttpScript.Url.Label

/-- A digit of the code. -/
def digit (n : Nat) : Char := if n < 26 then .ofNat (97 + n) else .ofNat (22 + n)

/-- The threshold below which the digit at a weight ends a number. -/
def threshold (weight bias : Nat) : Nat :=
  if weight ≤ bias then 1 else if bias + 26 ≤ weight then 26 else weight - bias

theorem threshold_pos (weight bias : Nat) : 1 ≤ threshold weight bias := by
  unfold threshold; split
  · omega
  · split <;> omega

/-- The digits of a number. -/
def number (bias weight n : Nat) : List Char :=
  let t := threshold weight bias
  if n < t then [digit n]
  else digit (t + (n - t) % (36 - t)) :: number bias (weight + 36) ((n - t) / (36 - t))
termination_by n
decreasing_by
  have := threshold_pos weight bias
  have := Nat.div_le_self (n - threshold weight bias) (36 - threshold weight bias)
  omega

/-- Scales a step down to the size of a bias. -/
def scale (step bias : Nat) : Nat :=
  if 455 < step then scale (step / 35) (bias + 36) else bias + 36 * step / (step + 38)
termination_by step
decreasing_by omega

/-- The bias after a step, with so many characters written. -/
def adapt (step written : Nat) (first : Bool) : Nat :=
  let step := if first then step / 700 else step / 2
  scale (step + step / written) 0

/-- The state of the walk: what has been written of the code, the steps since the last character,
the bias, and the number of characters written. -/
structure Walk where
  code : List Char
  steps : Nat
  bias : Nat
  written : Nat

/-- Passes a place in the round for the character `m`; `basic` characters are ASCII. -/
def Walk.pass (basic m : Nat) (w : Walk) (c : Char) : Walk :=
  if c.toNat < m then { w with steps := w.steps + 1 }
  else if c.toNat = m then
    { code := w.code ++ number w.bias 36 w.steps
      steps := 0
      bias := adapt w.steps (w.written + 1) (w.written == basic)
      written := w.written + 1 }
  else w

/-- The rounds for the characters that are not ASCII, in increasing order. -/
def rounds (label : List Char) (basic : Nat) : List Nat → Nat → Walk → Walk
  | [], _, w => w
  | m :: later, n, w =>
    let w := { w with steps := w.steps + (m - n) * (w.written + 1) }
    let w := label.foldl (Walk.pass basic m) w
    rounds label basic later (m + 1) { w with steps := w.steps + 1 }

/-- **The code of a label.** -/
def encode (label : List Char) : List Char :=
  let basic := label.filter fun c => c.toNat < 128
  let others := ((label.map Char.toNat).filter (128 ≤ ·)).mergeSort.eraseDups
  let w := rounds label basic.length others 128 ⟨[], 0, 72, basic.length⟩
  basic ++ (if basic.isEmpty then [] else ['-']) ++ w.code

/-- The small letters. -/
def smallLetters : Text.Ranges :=
  match Text.categories.find? (·.1 == "Ll") with
  | some (_, r) => r
  | none => ⟨#[]⟩

/-- A character in lower case. -/
def lower (c : Char) : Char :=
  if c.toNat < 128 then c.toLower
  else if smallLetters.contains c.toNat then c
  else match Text.caseClasses.find? (·.contains c.toNat) with
    | some l => .ofNat ((l.find? smallLetters.contains).getD c.toNat)
    | none => c

/-- A label as it stands in a URL. -/
def toAscii (label : List Char) : List Char :=
  let l := label.map lower
  if l.all fun c => c.toNat < 128 then l else "xn--".toList ++ encode l

end HttpScript.Url.Label
