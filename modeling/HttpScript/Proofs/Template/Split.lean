import HttpScript.Template.Basic
import Mathlib.Data.List.TakeWhile

/-! # How a template is split

A text has one split into literal text and placeholders, which is read off its characters alone.
`StartsWith` says what a placeholder at the start of a text is, and `Split` what a split is: behind
a placeholder the text is split anew, and inside a literal no placeholder starts.

* `placeholder?_eq_some_iff`: what is looked for at one place is what `StartsWith` says.
* `segments_split`: the segments of a text split it.
* `Split.unique`: a text has one split only. -/

namespace HttpScript.Template

/-! ### Placeholders -/

/-- **A placeholder at the start of the text `l`**, as it is written and with the name in it: two or
three opening braces, at once a name, and at once two closing braces, with a third if there is
one. -/
def StartsWith (l written name : List Char) : Prop :=
  ∃ n m rest, (n = 2 ∨ n = 3) ∧ (m = 2 ∧ rest.head? ≠ some '\x7d' ∨ m = 3) ∧
    name ≠ [] ∧ (∀ c ∈ name, isNameChar c = true) ∧
    written = List.replicate n '\x7b' ++ name ++ List.replicate m '\x7d' ∧ l = written ++ rest

theorem StartsWith.written_ne_nil {l written name : List Char} (h : StartsWith l written name) :
    written ≠ [] := by
  obtain ⟨n, m, rest, hn, -, -, -, rfl, -⟩ := h
  rcases hn with rfl | rfl <;> simp

theorem StartsWith.exists_rest {l written name : List Char} (h : StartsWith l written name) :
    ∃ rest, l = written ++ rest := by
  obtain ⟨n, m, rest, -, -, -, -, -, hl⟩ := h
  exact ⟨rest, hl⟩

theorem takeWhile_run {p : Char → Bool} {w : List Char} {c : Char} {l : List Char}
    (hw : ∀ x ∈ w, p x = true) (hc : p c = false) : (w ++ c :: l).takeWhile p = w := by
  rw [List.takeWhile_append_of_pos hw, List.takeWhile_cons_of_neg (by simp [hc]), List.append_nil]

theorem takeWhile_eq_replicate (c : Char) (l : List Char) :
    l.takeWhile (· == c) = List.replicate (l.takeWhile (· == c)).length c :=
  List.eq_replicate_of_mem fun x hx => by simpa using List.mem_takeWhile_imp hx

theorem exists_eq_takeWhile_append (p : Char → Bool) (l : List Char) :
    ∃ r, l = l.takeWhile p ++ r ∧ l.drop (l.takeWhile p).length = r ∧
      ∀ c ∈ r.head?, p c = false := by
  have happend : l = l.takeWhile p ++ l.dropWhile p := List.takeWhile_append_dropWhile.symm
  refine ⟨l.dropWhile p, happend, ?_, fun c hc => ?_⟩
  · have hdrop := congrArg (List.drop (l.takeWhile p).length) happend
    rwa [List.drop_left] at hdrop
  · have h := List.head?_dropWhile_not p l
    rw [Option.mem_def.mp hc] at h
    exact h

theorem startsWith_of_placeholder? {l written name : List Char}
    (h : placeholder? l = some (written, name)) : StartsWith l written name := by
  unfold placeholder? at h
  simp only at h
  obtain ⟨l₁, hl₁, hdrop₁, -⟩ := exists_eq_takeWhile_append (· == '\x7b') l
  obtain ⟨l₂, hl₂, hdrop₂, -⟩ := exists_eq_takeWhile_append isNameChar l₁
  obtain ⟨l₃, hl₃, -, hhead⟩ := exists_eq_takeWhile_append (· == '\x7d') l₂
  rw [hdrop₁, hdrop₂, takeWhile_eq_replicate '\x7b' l, takeWhile_eq_replicate '\x7d' l₂,
    List.take_replicate] at h
  rw [takeWhile_eq_replicate '\x7b' l] at hl₁
  rw [takeWhile_eq_replicate '\x7d' l₂] at hl₃
  have hname : ∀ c ∈ l₁.takeWhile isNameChar, isNameChar c = true :=
    fun c hc => List.mem_takeWhile_imp hc
  generalize (l.takeWhile (· == '\x7b')).length = n at h hl₁
  generalize (l₂.takeWhile (· == '\x7d')).length = k at h hl₃
  generalize l₁.takeWhile isNameChar = w at h hl₂ hname
  simp only [List.length_replicate, List.isEmpty_iff] at h
  split at h
  · rename_i hn
    split at h
    · cases h
    · rename_i hw
      rw [not_or] at hw
      cases h
      refine ⟨n, min 3 k, List.replicate (k - 3) '\x7d' ++ l₃, hn, ?_, hw.1, hname, rfl, ?_⟩
      · have hk : ¬ min 3 k < 2 := hw.2
        rcases Nat.lt_or_ge k 3 with hlt | hge
        · refine .inl ⟨by omega, fun hc => ?_⟩
          rw [Nat.sub_eq_zero_of_le (by omega), List.replicate_zero, List.nil_append] at hc
          exact absurd (hhead _ hc) (by simp)
        · exact .inr (by omega)
      · have hclosing : List.replicate k '\x7d' =
            List.replicate (min 3 k) '\x7d' ++ List.replicate (k - 3) '\x7d' := by
          rw [List.replicate_append_replicate]
          congr 1
          omega
        rw [hl₁, hl₂, hl₃, hclosing]
        simp only [List.append_assoc]
  · cases h

theorem placeholder?_of_startsWith {l written name : List Char} (h : StartsWith l written name) :
    placeholder? l = some (written, name) := by
  obtain ⟨n, m, rest, hn, hm, hne, hname, rfl, rfl⟩ := h
  obtain ⟨c, w, rfl⟩ := List.exists_cons_of_ne_nil hne
  have hc : (c == '\x7b') = false := by
    have hc := hname c (by simp)
    refine beq_eq_false_iff_ne.mpr fun h => ?_
    rw [h] at hc
    exact absurd hc (by decide)
  obtain ⟨k, hk⟩ : ∃ k, m = k + 2 := ⟨m - 2, by omega⟩
  -- the three runs: braces, the name and braces
  have hopening : (List.replicate n '\x7b' ++ c :: w ++ List.replicate m '\x7d' ++ rest).takeWhile
      (· == '\x7b') = List.replicate n '\x7b' := by
    simp only [List.append_assoc, List.cons_append]
    exact takeWhile_run (fun x hx => by simp [(List.mem_replicate.mp hx).2]) hc
  have hafter : (List.replicate n '\x7b' ++ c :: w ++ List.replicate m '\x7d' ++ rest).drop n =
      c :: w ++ (List.replicate m '\x7d' ++ rest) := by
    simp only [List.append_assoc]
    exact List.drop_left' List.length_replicate
  have hrun : (c :: w ++ (List.replicate m '\x7d' ++ rest)).takeWhile isNameChar = c :: w := by
    rw [hk, List.replicate_succ, List.cons_append]
    exact takeWhile_run hname (by decide)
  have hclosing : ((List.replicate m '\x7d' ++ rest).takeWhile (· == '\x7d')).take 3 =
      List.replicate m '\x7d' := by
    rw [List.takeWhile_append_of_pos fun x hx => by simp [(List.mem_replicate.mp hx).2]]
    rcases hm with ⟨rfl, hhead⟩ | rfl
    · cases rest with
      | nil => rfl
      | cons d rest =>
        have hd : (d == '\x7d') = false := by simpa using hhead
        rw [List.takeWhile_cons_of_neg (by simp [hd])]
        rfl
    · exact List.take_left' rfl
  unfold placeholder?
  simp only [hopening, List.length_replicate, if_pos hn, hafter, hrun, List.drop_left, hclosing]
  rw [if_neg (by simp [hk])]

/-- What is looked for at one place is a placeholder. -/
theorem placeholder?_eq_some_iff {l written name : List Char} :
    placeholder? l = some (written, name) ↔ StartsWith l written name :=
  ⟨startsWith_of_placeholder?, placeholder?_of_startsWith⟩

/-- At one place at most one placeholder starts. -/
theorem StartsWith.unique {l w n w' n' : List Char} (h : StartsWith l w n)
    (h' : StartsWith l w' n') : w = w' ∧ n = n' := by
  have heq := (placeholder?_of_startsWith h).symm.trans (placeholder?_of_startsWith h')
  exact Prod.mk.inj (Option.some.inj heq)

/-! ### Splits -/

/-- **A split** of a text into segments. -/
inductive Split : List Char → List Segment → Prop
  | nil : Split [] []
  | placeholder {w n l : List Char} {s : List Segment} :
    StartsWith (w ++ l) w n → Split l s → Split (w ++ l) (.placeholder w n :: s)
  /-- No placeholder starts at any place of a literal, and two literals do not follow each
  other. -/
  | literal {t l : List Char} {s : List Segment} :
    t ≠ [] → (∀ v, v ≠ [] → v <:+ t → ∀ w n, ¬ StartsWith (v ++ l) w n) →
      (∀ u r, s ≠ .literal u :: r) → Split l s → Split (t ++ l) (.literal t :: s)

theorem Split.written_eq {l : List Char} {s : List Segment} (h : Split l s) :
    s.flatMap Segment.written = l := by
  induction h with
  | nil => rfl
  | placeholder _ _ ih => rw [List.flatMap_cons, ih, Segment.written]
  | literal _ _ _ _ ih => rw [List.flatMap_cons, ih, Segment.written]

theorem Split.startsWith {l : List Char} {s : List Segment} (h : Split l s) (hl : l ≠ [])
    (hs : ∀ u r, s ≠ .literal u :: r) : ∃ w n, StartsWith l w n := by
  cases h with
  | nil => exact absurd rfl hl
  | placeholder hw _ => exact ⟨_, _, hw⟩
  | literal _ _ _ _ => exact absurd rfl (hs _ _)

/-- A literal in front of a split that begins with no literal ends where the split begins. -/
theorem Split.eq_nil_of_free {t a l : List Char} {s : List Segment} (h : Split (a ++ l) s)
    (hs : ∀ u r, s ≠ .literal u :: r)
    (hfree : ∀ v, v ≠ [] → v <:+ t ++ a → ∀ w n, ¬ StartsWith (v ++ l) w n) : a = [] := by
  by_contra ha
  obtain ⟨w, n, hw⟩ := h.startsWith (fun hnil => ha (List.append_eq_nil_iff.mp hnil).1) hs
  exact hfree a ha (List.suffix_append t a) w n hw

/-- One more character in front of a text where no placeholder starts. -/
theorem Split.consChar {c : Char} {l : List Char} {s : List Segment} (h : Split l s)
    (hc : ∀ w n, ¬ StartsWith (c :: l) w n) : Split (c :: l) (consChar c s) := by
  have halone : (∀ u r, s ≠ .literal u :: r) → Split (c :: l) (.literal [c] :: s) := fun hs => by
    refine .literal (t := [c]) (by simp) (fun v hv hsuffix w n => ?_) hs h
    obtain rfl : v = [c] := by
      rcases List.suffix_cons_iff.mp hsuffix with rfl | hnil
      · rfl
      · exact absurd (List.suffix_nil.mp hnil) hv
    exact hc w n
  cases h with
  | nil => exact halone (by simp)
  | placeholder _ _ => exact halone (by simp)
  | @literal t l s ht hfree hs hrest =>
    refine .literal (t := c :: t) (by simp) (fun v hv hsuffix w n => ?_) hs hrest
    rcases List.suffix_cons_iff.mp hsuffix with rfl | hsuffix
    · exact hc w n
    · exact hfree v hv hsuffix w n

/-- **The segments of a text split it.** -/
theorem segments_split (l : List Char) : Split l (segments l) := by
  fun_induction segments l with
  | case1 => exact .nil
  | case2 c r written name h ih =>
    have hw := placeholder?_eq_some_iff.mp h
    obtain ⟨rest, hrest⟩ := hw.exists_rest
    obtain ⟨d, w, rfl⟩ := List.exists_cons_of_ne_nil hw.written_ne_nil
    have htail : r.drop ((d :: w).length - 1) = rest := by
      obtain ⟨rfl, rfl⟩ := List.cons.inj hrest
      simp
    rw [htail] at ih ⊢
    rw [hrest] at hw ⊢
    exact .placeholder hw ih
  | case3 c r h ih =>
    refine ih.consChar fun w n hw => ?_
    rw [placeholder?_of_startsWith hw] at h
    cases h

/-- Of four braces the first and the last are literal. -/
example : segments "\x7b\x7b\x7b\x7ba\x7d\x7d\x7d\x7d".toList =
    [.literal ['\x7b'], .placeholder "\x7b\x7b\x7ba\x7d\x7d\x7d".toList ['a'],
      .literal ['\x7d']] := by cbv

/-- **A text has one split only.** -/
theorem Split.unique {l : List Char} {s s' : List Segment} (h : Split l s) (h' : Split l s') :
    s = s' := by
  -- the texts of the two splits are only equal, so that the second one can be taken apart
  suffices ∀ {m : List Char} {s' : List Segment}, Split m s' → m = l → s = s' from this h' rfl
  clear h'
  induction h with
  | nil =>
    intro m s' h' hm
    cases h' with
    | nil => rfl
    | placeholder hw _ => exact absurd (List.append_eq_nil_iff.mp hm).1 hw.written_ne_nil
    | literal ht _ _ _ => exact absurd (List.append_eq_nil_iff.mp hm).1 ht
  | @placeholder w n l s hw hs ih =>
    intro m s' h' hm
    cases h' with
    | nil => exact absurd (List.append_eq_nil_iff.mp hm.symm).1 hw.written_ne_nil
    | @placeholder w' n' l' s' hw' hs' =>
      rw [← hm] at hw
      obtain ⟨rfl, rfl⟩ := hw.unique hw'
      rw [ih hs' (List.append_cancel_left hm)]
    | literal ht hfree _ _ =>
      rw [← hm] at hw
      exact absurd hw (hfree _ ht (List.suffix_refl _) _ _)
  | @literal t l s ht hfree hnot hs ih =>
    intro m s' h' hm
    cases h' with
    | nil => exact absurd (List.append_eq_nil_iff.mp hm.symm).1 ht
    | placeholder hw _ =>
      rw [hm] at hw
      exact absurd hw (hfree _ ht (List.suffix_refl _) _ _)
    | @literal t' l' s' ht' hfree' hnot' hs' =>
      -- of the two literals one begins with the other, and then they are the same
      rcases List.append_eq_append_iff.mp hm with ⟨a, rfl, rfl⟩ | ⟨a, rfl, rfl⟩
      · obtain rfl := hs'.eq_nil_of_free hnot' hfree
        rw [ih hs' rfl, List.append_nil]
      · obtain rfl := hs.eq_nil_of_free hnot hfree'
        rw [ih hs' rfl, List.append_nil]

end HttpScript.Template
