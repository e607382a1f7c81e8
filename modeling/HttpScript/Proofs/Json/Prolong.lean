import HttpScript.Json.Read
import Mathlib.Data.List.TakeDrop
import Mathlib.Data.List.TakeWhile

/-! # Reading JSON with more text behind it

A reader that has read a value does not look at what stands behind it, with one exception: a number
goes on as long as there are characters that it could hold. So all else is read in the same way when
text is added.

* `Prolonged tail x y`: where the result `x` is a value, `y` is the same value, with `tail` behind
  the rest.
* `prolonged_readString`, `prolonged_readArray`, `prolonged_readObject`: strings and containers, the
  latter with any reader for their items. -/

namespace HttpScript.Json

variable {α β : Type} {tail : List Char}

/-- The rest of a text with `tail` behind it. -/
def Rest.append (r : Rest) (tail : List Char) : Rest := ⟨r.chars ++ tail, r.bytes⟩

/-- **The same result, with `tail` behind the rest.** -/
def Prolonged (tail : List Char) (x y : Except Failure (α × Rest)) : Prop :=
  ∀ v r, x = .ok (v, r) → y = .ok (v, r.append tail)

namespace Prolonged

theorem of_error {f : Failure} {y : Except Failure (α × Rest)} :
    Prolonged tail (.error f) y := fun _ _ h => by cases h

theorem ok {v : α} {r : Rest} : Prolonged tail (.ok (v, r)) (.ok (v, r.append tail)) :=
  fun _ _ h => by cases h; rfl

/-- What is done with a result may look at the value and at the rest. -/
theorem bind {x y : Except Failure (α × Rest)} {f g : α × Rest → Except Failure (β × Rest)}
    (h : Prolonged tail x y) (hf : ∀ v r, Prolonged tail (f (v, r)) (g (v, r.append tail))) :
    Prolonged tail (x >>= f) (y >>= g) := by
  cases x with
  | error e => exact of_error
  | ok p =>
    rw [h p.1 p.2 rfl]
    exact hf p.1 p.2

theorem map {x y : Except Failure (α × Rest)} {f : α → β} (h : Prolonged tail x y) :
    Prolonged tail (x.map fun p => (f p.1, p.2)) (y.map fun p => (f p.1, p.2)) := by
  cases x with
  | error e => exact of_error
  | ok p =>
    rw [h p.1 p.2 rfl]
    exact ok

end Prolonged

theorem skipBlanks_chars (r : Rest) : (skipBlanks r).chars = r.chars.dropWhile isBlank := by
  simp [skipBlanks, List.span_eq_takeWhile_dropWhile]

theorem skipBlanks_append {r : Rest} (h : (skipBlanks r).chars ≠ []) :
    skipBlanks (r.append tail) = (skipBlanks r).append tail := by
  rw [skipBlanks_chars] at h
  have htake : (r.chars ++ tail).takeWhile isBlank = r.chars.takeWhile isBlank := by
    rw [List.takeWhile_append, if_neg]
    intro hlength
    have := congrArg List.length (List.takeWhile_append_dropWhile (p := isBlank) (l := r.chars))
    rw [List.length_append, hlength] at this
    exact h (List.eq_nil_of_length_eq_zero (by omega))
  have hdrop : (r.chars ++ tail).dropWhile isBlank = r.chars.dropWhile isBlank ++ tail := by
    rw [List.dropWhile_append]
    simp [h]
  simp [skipBlanks, Rest.append, List.span_eq_takeWhile_dropWhile, htake, hdrop]

/-! ### Words and strings -/

theorem prolonged_readWord (word : List Char) (r : Rest) :
    Prolonged tail (readWord word r) (readWord word (r.append tail)) := by
  induction word generalizing r with
  | nil => exact .ok
  | cons w word ih =>
    obtain ⟨chars, bytes⟩ := r
    cases chars with
    | nil => exact .of_error
    | cons c l =>
      simp only [readWord, Rest.append, List.cons_append]
      split
      · exact ih _
      · exact .of_error

theorem prolonged_readHex (r : Rest) :
    Prolonged tail (readHex r) (readHex (r.append tail)) := by
  obtain ⟨chars, bytes⟩ := r
  intro v r' h
  unfold readHex at h
  split at h
  · rename_i a b c d l hl
    simp only at hl
    subst hl
    split at h
    · rename_i ha hb hc hd
      cases h
      simp [readHex, Rest.append, ha, hb, hc, hd]
    · cases h
  · simp only at h
    split at h <;> cases h

theorem prolonged_readUnit (c : Char) (r : Rest) :
    Prolonged tail (readUnit c r) (readUnit c (r.append tail)) := by
  obtain ⟨chars, bytes⟩ := r
  cases chars with
  | nil => exact .of_error
  | cons d l =>
    simp only [readUnit, Rest.append, List.cons_append]
    split
    · exact .ok
    · exact .of_error

theorem prolonged_readCodeUnits (r : Rest) :
    Prolonged tail (readCodeUnits r) (readCodeUnits (r.append tail)) := by
  refine (prolonged_readHex r).bind fun n r => ?_
  dsimp only
  split
  · exact .of_error
  · split
    · exact .ok
    · refine (prolonged_readUnit _ r).bind fun _ r => (prolonged_readUnit _ r).bind fun _ r => ?_
      refine (prolonged_readHex r).bind fun m r => ?_
      dsimp only
      split
      · exact .of_error
      · exact .ok

theorem prolonged_readEscape (r : Rest) :
    Prolonged tail (readEscape r) (readEscape (r.append tail)) := by
  obtain ⟨chars, bytes⟩ := r
  cases chars with
  | nil => exact .of_error
  | cons c l =>
    simp only [readEscape, Rest.append, List.cons_append]
    split
    all_goals first
      | exact .ok
      | exact prolonged_readCodeUnits _
      | exact .of_error

/-- A string is read in the same way, also with more steps. -/
theorem prolonged_readString {n m : Nat} (h : n ≤ m) (done : List Char) (r : Rest) :
    Prolonged tail (readString n done r) (readString m done (r.append tail)) := by
  induction n generalizing m done r with
  | zero => exact .of_error
  | succ n ih =>
    obtain ⟨m, rfl⟩ : ∃ k, m = k + 1 := ⟨m - 1, by omega⟩
    obtain ⟨chars, bytes⟩ := r
    cases chars with
    | nil => exact .of_error
    | cons c l =>
      simp only [readString, Rest.append, List.cons_append]
      split
      · exact .ok
      · split
        · exact (prolonged_readEscape _).bind fun d r => ih (by omega) _ r
        · split
          · exact .of_error
          · exact ih (by omega) _ _

/-! ### Containers -/

section Containers

variable {item item' : Reader Json}

/-- Behind blanks there is nothing, or a character that is found in the same way. -/
theorem skipBlanks_cases (tail : List Char) (r : Rest) :
    (∃ b, skipBlanks r = ⟨[], b⟩) ∨
    ∃ c l b, skipBlanks r = ⟨c :: l, b⟩ ∧ skipBlanks (r.append tail) = ⟨c :: (l ++ tail), b⟩ := by
  cases hr : (skipBlanks r).chars with
  | nil => exact .inl ⟨(skipBlanks r).bytes, by rw [← hr]⟩
  | cons c l =>
    have heq : skipBlanks r = ⟨c :: l, (skipBlanks r).bytes⟩ := by rw [← hr]
    refine .inr ⟨c, l, (skipBlanks r).bytes, heq, ?_⟩
    rw [skipBlanks_append (by simp [hr]), Rest.append, hr]
    rfl

theorem prolonged_readItems (hitem : ∀ r, Prolonged tail (item r) (item' (r.append tail)))
    {n m : Nat} (h : n ≤ m) (done : List Json) (r : Rest) :
    Prolonged tail (readItems item n done r) (readItems item' m done (r.append tail)) := by
  induction n generalizing m done r with
  | zero => exact .of_error
  | succ n ih =>
    obtain ⟨m, rfl⟩ : ∃ k, m = k + 1 := ⟨m - 1, by omega⟩
    unfold readItems
    rcases skipBlanks_cases tail r with ⟨b, hr⟩ | ⟨c, l, b, hr, hr'⟩
    · rw [hr]
      exact .of_error
    rw [hr, hr']
    dsimp only
    split
    · rename_i heq
      cases heq
    · rename_i heq
      cases heq
      exact .ok
    · rename_i heq
      cases heq
      rcases skipBlanks_cases tail (Rest.skip ⟨',' :: l, b⟩ ',' l) with
        ⟨b', hs⟩ | ⟨c, l', b', hs, hs'⟩
      · rw [hs]
        exact .of_error
      · have hs'' : skipBlanks (Rest.skip ⟨',' :: (l ++ tail), b⟩ ',' (l ++ tail)) =
          ⟨c :: (l' ++ tail), b'⟩ := hs'
        simp only [hs, hs'']
        split
        · rename_i heq
          cases heq
        · exact .of_error
        · rename_i hne
          split
          · rename_i heq
            cases heq
          · rename_i heq
            cases heq
            exact (hne _ rfl).elim
          · exact (hitem ⟨c :: l', b'⟩).bind fun v r => ih (by omega) _ r
    · exact .of_error

theorem prolonged_readArray (hitem : ∀ r, Prolonged tail (item r) (item' (r.append tail)))
    {n m : Nat} (h : n ≤ m) (r : Rest) :
    Prolonged tail (readArray item n r) (readArray item' m (r.append tail)) := by
  unfold readArray
  rcases skipBlanks_cases tail r with ⟨b, hr⟩ | ⟨c, l, b, hr, hr'⟩
  · rw [hr]
    exact .of_error
  rw [hr, hr']
  dsimp only
  split
  · rename_i heq
    cases heq
  · rename_i heq
    cases heq
    exact .ok
  · rename_i hne
    split
    · rename_i heq
      cases heq
    · rename_i heq
      cases heq
      exact (hne _ rfl).elim
    · exact (hitem ⟨c :: l, b⟩).bind fun v r => prolonged_readItems hitem h _ r

theorem prolonged_readMember (hitem : ∀ r, Prolonged tail (item r) (item' (r.append tail)))
    {n m : Nat} (h : n ≤ m) (r : Rest) :
    Prolonged tail (readMember item n r) (readMember item' m (r.append tail)) := by
  refine (prolonged_readString h [] r).bind fun name r => ?_
  dsimp only
  rcases skipBlanks_cases tail r with ⟨b, hr⟩ | ⟨c, l, b, hr, hr'⟩
  · rw [hr]
    exact .of_error
  rw [hr, hr']
  dsimp only
  split
  · rename_i heq
    cases heq
  · rename_i heq
    cases heq
    exact (hitem _).bind fun v r => .ok
  · exact .of_error

theorem prolonged_readMembers (hitem : ∀ r, Prolonged tail (item r) (item' (r.append tail)))
    {n m n' m' : Nat} (h : n ≤ m) (h' : n' ≤ m') (done : List (String × Json)) (r : Rest) :
    Prolonged tail (readMembers item n n' done r)
      (readMembers item' m m' done (r.append tail)) := by
  induction n' generalizing m' done r with
  | zero => exact .of_error
  | succ n' ih =>
    obtain ⟨m', rfl⟩ : ∃ k, m' = k + 1 := ⟨m' - 1, by omega⟩
    unfold readMembers
    rcases skipBlanks_cases tail r with ⟨b, hr⟩ | ⟨c, l, b, hr, hr'⟩
    · rw [hr]
      exact .of_error
    rw [hr, hr']
    dsimp only
    split
    · rename_i heq
      cases heq
    · rename_i heq
      cases heq
      exact .ok
    · rename_i heq
      cases heq
      rcases skipBlanks_cases tail (Rest.skip ⟨',' :: l, b⟩ ',' l) with
        ⟨b', hs⟩ | ⟨c, l', b', hs, hs'⟩
      · rw [hs]
        exact .of_error
      · have hs'' : skipBlanks (Rest.skip ⟨',' :: (l ++ tail), b⟩ ',' (l ++ tail)) =
          ⟨c :: (l' ++ tail), b'⟩ := hs'
        simp only [hs, hs'']
        split
        · rename_i heq
          cases heq
        · rename_i heq
          cases heq
          exact (prolonged_readMember hitem h _).bind fun v r => ih (by omega) _ r
        · exact .of_error
        · exact .of_error
    · exact .of_error

theorem prolonged_readObject (hitem : ∀ r, Prolonged tail (item r) (item' (r.append tail)))
    {n m : Nat} (h : n ≤ m) (r : Rest) :
    Prolonged tail (readObject item n r) (readObject item' m (r.append tail)) := by
  unfold readObject
  rcases skipBlanks_cases tail r with ⟨b, hr⟩ | ⟨c, l, b, hr, hr'⟩
  · rw [hr]
    exact .of_error
  rw [hr, hr']
  dsimp only
  split
  · rename_i heq
    cases heq
  · rename_i heq
    cases heq
    exact .ok
  · rename_i heq
    cases heq
    exact (prolonged_readMember hitem h _).bind fun v r => prolonged_readMembers hitem h h _ r
  · exact .of_error

end Containers

end HttpScript.Json
