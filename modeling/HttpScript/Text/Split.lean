import HttpScript.Text.Class

/-! # Cutting texts

`splitOnce` cuts a text at the first place of a character and `words` at every white space. -/

namespace HttpScript.Text

/-- The texts before and after the first place of a character. -/
def splitOnce (c : Char) (l : List Char) : Option (List Char × List Char) :=
  match l.dropWhile (· != c) with
  | [] => none
  | _ :: after => some (l.takeWhile (· != c), after)

/-- The pieces between white space. -/
def words (l : List Char) : List (List Char) := (l.splitOnP isWhite).filter fun w => !w.isEmpty

/-- The letters of ASCII in lower case. -/
def lowered (l : List Char) : List Char := l.map Char.toLower

/-- What is left of a text without the characters of a class at either end. -/
def strip (p : Char → Bool) (l : List Char) : List Char :=
  ((l.dropWhile p).reverse.dropWhile p).reverse

/-- Cutting where nothing is to be cut. -/
theorem splitOnce_eq_none_iff {c : Char} {l : List Char} : splitOnce c l = none ↔ c ∉ l := by
  induction l with
  | nil => simp [splitOnce]
  | cons d l ih =>
    by_cases h : d = c
    · simp [splitOnce, h]
    · have hd : (d != c) = true := by simpa using h
      have hc : c ≠ d := fun e => h e.symm
      unfold splitOnce at ih ⊢
      simp only [List.dropWhile_cons, hd, if_true, List.mem_cons, hc, false_or]
      rw [← ih]
      cases l.dropWhile (· != c) <;> simp

/-- Cutting at a character that does not stand before. -/
theorem splitOnce_append {c : Char} {a b : List Char} (h : c ∉ a) :
    splitOnce c (a ++ c :: b) = some (a, b) := by
  have hne : ∀ d ∈ a, (d != c) = true := fun d hd => by
    simpa using fun e : d = c => h (e ▸ hd)
  simp [splitOnce, List.dropWhile_append_of_pos hne, List.takeWhile_append_of_pos hne]

/-- **What is cut**: the texts before and after the first place of the character. -/
theorem splitOnce_eq_some_iff {c : Char} {l a b : List Char} :
    splitOnce c l = some (a, b) ↔ c ∉ a ∧ l = a ++ c :: b := by
  constructor
  · intro h
    have hmem : c ∈ l := Decidable.byContradiction fun hc => by
      rw [splitOnce_eq_none_iff.mpr hc] at h
      cases h
    obtain ⟨a', b', rfl, ha'⟩ := List.eq_append_cons_of_mem hmem
    rw [splitOnce_append ha'] at h
    obtain ⟨rfl, rfl⟩ := Prod.mk.inj (Option.some.inj h)
    exact ⟨ha', rfl⟩
  · rintro ⟨ha, rfl⟩
    exact splitOnce_append ha

end HttpScript.Text
