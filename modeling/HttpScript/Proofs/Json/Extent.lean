import HttpScript.Proofs.Json.Numeric

/-! # The extent of a JSON value in a longer text

A value that takes a whole text still ends where that text ends when more is written behind it, if
no number goes on there.

* `extent?_append`, `extent?_scalar`: the extent of a value, and the characters of one that is no
  container. -/

namespace HttpScript.Json

variable {tail : List Char}

/-- A character that a value can begin with. -/
def startsValue (c : Char) : Bool := c.isDigit || ['n', 't', 'f', '-', '"', '[', '\x7b'].contains c

theorem startsValue_of_readValue {n depth : Nat} {r s : Rest} {v : Json}
    (h : readValue n depth r = .ok (v, s)) :
    ∃ c l b, skipBlanks r = ⟨c :: l, b⟩ ∧ startsValue c = true := by
  cases depth with
  | zero => cases h
  | succ depth =>
    unfold readValue at h
    rcases skipBlanks_cases [] r with ⟨b, hr⟩ | ⟨c, l, b, hr, -⟩
    · rw [hr] at h
      cases h
    · refine ⟨c, l, b, hr, ?_⟩
      by_contra hc
      simp only [startsValue, Bool.or_eq_true, List.contains_eq_mem, List.mem_cons, not_or,
        List.not_mem_nil, decide_eq_true_eq, or_false] at hc
      simp only [hr] at h
      split at h <;> simp_all [Rest.failNext]

/-- A value that takes a whole text leaves nothing of it. -/
theorem readValue_of_extent? {l : List Char} (h : extent? l = some l.length) :
    ∃ v b, readValue (l.length + 1) deepest ⟨l, 0⟩ = .ok (v, ⟨[], b⟩) := by
  unfold extent? at h
  split at h
  · cases h
  · rename_i v r hr
    split at h
    · refine ⟨v, r.bytes, ?_⟩
      have hl : l ≠ [] := by
        rintro rfl
        cases hr
      have hlength := List.length_pos_iff.mpr hl
      have hzero : r.chars.length = 0 := by
        have := Option.some.inj h
        omega
      rw [hr, show r = ⟨[], r.bytes⟩ from by rw [← List.eq_nil_of_length_eq_zero hzero]]
    · cases h

theorem startsValue_of_extent? {l : List Char} {n : Nat} (h : extent? l = some n) :
    ∃ c k, l.dropWhile isBlank = c :: k ∧ startsValue c = true := by
  unfold extent? at h
  split at h
  · cases h
  · rename_i v r hr
    obtain ⟨c, k, b, hskip, hc⟩ := startsValue_of_readValue hr
    refine ⟨c, k, ?_, hc⟩
    rw [← skipBlanks_chars ⟨l, 0⟩, hskip]

section Extents

variable {l : List Char}

theorem isNumberChar_of_isBlank {c : Char} (h : isBlank c = true) : isNumberChar c = false := by
  simp only [isBlank, Bool.or_eq_true, beq_iff_eq] at h
  rcases h with ((rfl | rfl) | rfl) | rfl <;> decide

/-- **The extent of a value does not depend on what follows**, if that begins with a blank. -/
theorem extent?_append (h : extent? l = some l.length)
    (ht : ∀ c ∈ tail.head?, isBlank c = true) : extent? (l ++ tail) = some l.length := by
  obtain ⟨v, b, hv⟩ := readValue_of_extent? h
  have hsteps : l.length + 1 ≤ (l ++ tail).length + 1 := by
    rw [List.length_append]
    omega
  have hnumber : ∀ c ∈ tail.head?, isNumberChar c = false := fun c hc =>
    isNumberChar_of_isBlank (ht c hc)
  have hread := prolonged_readValue hnumber hsteps _ _ v _ hv
  have hend : ((tail.head?.map endsValue).getD true) = true := by
    cases htail : tail with
    | nil => rfl
    | cons c k => simp [endsValue, ht c (by simp [htail])]
  unfold extent?
  rw [show (⟨l ++ tail, 0⟩ : Rest) = Rest.append ⟨l, 0⟩ tail from rfl, hread]
  simp [Rest.append, hend]

theorem ok_of_map {x : Except Failure (α × Rest)} {f : α → β} {v : β} {r : Rest}
    (h : (x.map fun p => (f p.1, p.2)) = .ok (v, r)) : ∃ a, x = .ok (a, r) := by
  cases x with
  | error e => cases h
  | ok p =>
    refine ⟨p.1, ?_⟩
    rw [← (Prod.mk.inj (Except.ok.inj h)).2]

theorem skipBlanks_cons {c : Char} {k : List Char} {b : Nat} (h : isBlank c = false) :
    skipBlanks ⟨c :: k, b⟩ = ⟨c :: k, b⟩ := by
  simp [skipBlanks, List.span_eq_takeWhile_dropWhile, h]

/-- A list of values begins with its first value, or is empty. -/
theorem startsValue_of_list {k : List Char} (h : extent? ('[' :: k) = some ('[' :: k).length) :
    ∃ c m, k.dropWhile isBlank = c :: m ∧ (c = ']' ∨ startsValue c = true) := by
  obtain ⟨v, b, hv⟩ := readValue_of_extent? h
  rw [show deepest = 126 + 1 + 1 from rfl] at hv
  unfold readValue at hv
  rw [skipBlanks_cons (by decide)] at hv
  simp only [Nat.add_one_ne_zero, if_false] at hv
  obtain ⟨a, ha⟩ := ok_of_map hv
  unfold readArray at ha
  have hskip := skipBlanks_chars (Rest.skip ⟨'[' :: k, 0⟩ '[' k)
  rcases skipBlanks_cases [] (Rest.skip ⟨'[' :: k, 0⟩ '[' k) with ⟨b', hr⟩ | ⟨c, m, b', hr, -⟩
  · rw [hr] at ha
    cases ha
  · rw [hr] at ha hskip
    refine ⟨c, m, hskip.symm, ?_⟩
    by_cases hc : c = ']'
    · exact .inl hc
    · refine .inr ?_
      simp only at ha
      split at ha
      · rename_i heq
        cases heq
      · rename_i heq
        cases heq
        exact (hc rfl).elim
      · cases hitem : readValue (('[' :: k).length + 1) 127 ⟨c :: m, b'⟩ with
        | error e => rw [hitem] at ha; cases ha
        | ok p =>
          obtain ⟨d, l, b'', hs, hd⟩ := startsValue_of_readValue hitem
          have hblank : isBlank c = false := by
            have hnot := List.head?_dropWhile_not isBlank (Rest.skip ⟨'[' :: k, 0⟩ '[' k).chars
            rwa [← hskip] at hnot
          rw [skipBlanks_cons hblank] at hs
          cases hs
          exact hd

theorem chars_of_readWord {word : List Char} {r s : Rest} (h : readWord word r = .ok ((), s)) :
    r.chars = word ++ s.chars := by
  induction word generalizing r with
  | nil => cases h; rfl
  | cons w word ih =>
    obtain ⟨chars, bytes⟩ := r
    cases chars with
    | nil => cases h
    | cons c l =>
      simp only [readWord] at h
      split at h
      · rename_i hc
        rw [hc, List.cons_append, ← ih h]
        rfl
      · cases h

/-- A value that does not show its own end is a word or a number. -/
theorem extent?_scalar (h : extent? l = some l.length)
    (hl : ∀ c ∈ l.head?, isBlank c = false ∧ isSelfDelimiting c = false) :
    ∀ c ∈ l, isNumberChar c = true ∨ c.isAlpha = true := by
  obtain ⟨v, b, hv⟩ := readValue_of_extent? h
  cases l with
  | nil => simp
  | cons c k =>
    obtain ⟨hblank, hself⟩ := hl c rfl
    have hnumber : ∀ {negative : Bool} {s : Rest} {w : List Char}, c :: k = w ++ s.chars →
        (∀ d ∈ w, isNumberChar d = true) →
        ((readNumber negative s).map fun p => (Json.number p.1, p.2)) = .ok (v, ⟨[], b⟩) →
        ∀ d ∈ c :: k, isNumberChar d = true ∨ d.isAlpha = true := by
      intro negative s w hw hchars hx d hd
      obtain ⟨n, hn⟩ := ok_of_map hx
      have hnumeric : Numeric [] s _ _ := numeric_readNumber (by simp) negative s
      obtain ⟨-, u, hu, huchars⟩ := hnumeric n _ hn
      rw [hw, hu, List.append_nil] at hd
      rcases List.mem_append.mp hd with hd | hd
      · exact .inl (hchars d hd)
      · exact .inl (huchars d hd)
    have hword : ∀ {word : List Char} {f : Unit → Json}, (∀ d ∈ c :: word, d.isAlpha = true) →
        ((readWord word (Rest.skip ⟨c :: k, 0⟩ c k)).map fun p => (f p.1, p.2)) =
          .ok (v, ⟨[], b⟩) → ∀ d ∈ c :: k, isNumberChar d = true ∨ d.isAlpha = true := by
      intro word f hword hx d hd
      obtain ⟨a, ha⟩ := ok_of_map hx
      have hk : k = word := by simpa [Rest.skip] using chars_of_readWord ha
      exact .inr (hword d (hk ▸ hd))
    rw [show deepest = 127 + 1 from rfl] at hv
    unfold readValue at hv
    simp only [skipBlanks_cons hblank] at hv
    split at hv
    · exact hword (f := fun _ => null) (List.all_eq_true.mp rfl) hv
    · exact hword (f := fun _ => bool true) (List.all_eq_true.mp rfl) hv
    · exact hword (f := fun _ => bool false) (List.all_eq_true.mp rfl) hv
    · exact hnumber (w := ['-']) rfl (List.all_eq_true.mp rfl) hv
    · cases hself
    · cases hself
    · cases hself
    · split at hv
      · exact hnumber (w := []) rfl (by simp) hv
      · cases hv

end Extents

end HttpScript.Json
