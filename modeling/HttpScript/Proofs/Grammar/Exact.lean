import HttpScript.Grammar.Cursor
import Mathlib.Data.List.DropRight

/-! # Exact positions

A position is exact in a text (`Position.IsExact`) if its line and its column are those of the
character that its offset names. Walking keeps positions exact: a cursor only moves over characters
that stand in front of it (`Cursor.Moves`) or back to a place where it has been.

* `Position.after_start`: the position behind a text, by counting its line feeds and the characters
  behind the last of them.
* `Cursor.Moves.isExact`: what a cursor moves to is exact if it stands on an exact position.
* `Cursor.isExact_walk`: the cursor is exact behind every sequence of operations. -/

namespace HttpScript

namespace Position

/-- **An exact position** of a text: the offset lies in the text, the line is one more than the line
feeds before it, and the column is one more than the characters behind the last of these. -/
structure IsExact (p : Position) (text : List Char) : Prop where
  offset_le : p.offset ≤ text.length
  line_eq : p.line = 1 + (text.take p.offset).count '\n'
  column_eq : p.column = 1 + ((text.take p.offset).rtakeWhile (· ≠ '\n')).length

/-- **The position behind a text.** -/
theorem after_start (l : List Char) :
    start.after l = ⟨l.length, 1 + l.count '\n', 1 + (l.rtakeWhile (· ≠ '\n')).length⟩ := by
  induction l using List.reverseRecOn with
  | nil => rfl
  | append_singleton l c ih =>
    rw [after_append, ih, after_cons, after_nil]
    unfold advance
    by_cases hc : c = '\n'
    · subst hc
      rw [if_pos rfl, List.rtakeWhile_concat_neg _ _ _ (by simp)]
      simp [List.count_append, Nat.add_assoc]
    · rw [if_neg hc, List.rtakeWhile_concat_pos _ _ _ (by simpa using hc)]
      simp [List.count_append, hc, Nat.add_assoc]

theorem isExact_iff (p : Position) (text : List Char) :
    p.IsExact text ↔ p.offset ≤ text.length ∧ p = start.after (text.take p.offset) := by
  rw [after_start]
  constructor
  · intro h
    refine ⟨h.offset_le, ?_⟩
    obtain ⟨o, l, c⟩ := p
    have := h.line_eq
    have := h.column_eq
    have := h.offset_le
    simp_all
  · rintro ⟨hle, hp⟩
    exact ⟨hle, congrArg line hp, congrArg column hp⟩

theorem isExact_start (text : List Char) : start.IsExact text :=
  (isExact_iff _ _).mpr ⟨Nat.zero_le _, rfl⟩

theorem IsExact.after {p : Position} {text w l : List Char} (h : p.IsExact text)
    (hw : text.drop p.offset = w ++ l) : (p.after w).IsExact text := by
  obtain ⟨hle, hp⟩ := (isExact_iff _ _).mp h
  have hlength : p.offset + w.length ≤ text.length := by
    have := congrArg List.length hw
    rw [List.length_drop, List.length_append] at this
    omega
  refine (isExact_iff _ _).mpr ⟨by rwa [offset_after], ?_⟩
  rw [offset_after, List.take_add, hw, List.take_left, after_append, ← hp]

end Position

namespace Grammar

namespace Cursor

/-- **A move** of a cursor over characters that stand in front of it. -/
structure Moves (c d : Cursor) : Prop where
  text_eq : d.text = c.text
  along : ∃ w, w <+: c.rest ∧ d.position = c.position.after w

theorem Moves.refl (c : Cursor) : c.Moves c := ⟨rfl, [], List.nil_prefix, rfl⟩

theorem rest_of_after {c d : Cursor} {w l : List Char} (ht : d.text = c.text)
    (hp : d.position = c.position.after w) (hl : c.rest = w ++ l) : d.rest = l := by
  have hd : d.rest = c.rest.drop w.length := by
    unfold rest
    rw [ht, hp, Position.offset_after, List.drop_drop]
  rw [hd, hl, List.drop_left]

theorem Moves.trans {c d e : Cursor} (h : c.Moves d) (k : d.Moves e) : c.Moves e := by
  obtain ⟨w, ⟨l, hl⟩, hp⟩ := h.along
  obtain ⟨v, hv, hq⟩ := k.along
  rw [rest_of_after h.text_eq hp hl.symm] at hv
  refine ⟨k.text_eq.trans h.text_eq, w ++ v, ?_, ?_⟩
  · rw [← hl]
    exact (List.prefix_append_right_inj w).mpr hv
  · rw [hq, hp, Position.after_append]

theorem Moves.offset_le {c d : Cursor} (h : c.Moves d) : c.position.offset ≤ d.position.offset := by
  obtain ⟨w, -, hp⟩ := h.along
  rw [hp, Position.offset_after]
  exact Nat.le_add_right _ _

theorem Moves.isExact {c d : Cursor} (h : c.Moves d) (hc : c.position.IsExact c.text.toList) :
    d.position.IsExact d.text.toList := by
  obtain ⟨w, ⟨l, hl⟩, hp⟩ := h.along
  rw [hp, h.text_eq]
  exact hc.after hl.symm

theorem moves_step {c : Cursor} {x : Char} (h : c.peek? = some x) : c.Moves (c.step x) := by
  rw [peek?_eq_head?] at h
  obtain ⟨l, hl⟩ := List.head?_eq_some_iff.mp h
  exact ⟨rfl, [x], ⟨l, by rw [hl]; rfl⟩, rfl⟩

theorem moves_read (c : Cursor) : c.Moves c.read.2 := by
  unfold read
  split
  · exact .refl c
  · split
    · rename_i h
      exact moves_step h
    · exact ⟨rfl, [], List.nil_prefix, rfl⟩

theorem moves_readN (c : Cursor) (n : Nat) : c.Moves (c.readN n).2 := by
  induction n generalizing c with
  | zero => exact .refl c
  | succ n ih =>
    have hread := moves_read c
    unfold readN
    split
    · rename_i d h
      rw [h] at hread
      exact hread
    · rename_i x d h
      rw [h] at hread
      have hn := ih d
      split <;> rename_i e <;> rw [e] at hn <;> exact hread.trans hn

theorem moves_readWhile (p : Char → Bool) (c : Cursor) : c.Moves (c.readWhile p).2 := by
  fun_induction readWhile p c with
  | case1 c h => exact .refl c
  | case2 c x h hx r ih => exact (moves_step h).trans ih
  | case3 c x h hx => exact .refl c

/-! ### Reading can go on behind what was read -/

theorem exhausted_read {c d : Cursor} {x : Char} (hc : c.exhausted = false)
    (h : c.read = (some x, d)) : d.exhausted = false := by
  unfold read at h
  rw [hc, if_neg (by decide)] at h
  split at h
  · cases h
    exact hc
  · cases h

theorem offset_lt_of_read {c d : Cursor} {x : Char} (h : c.read = (some x, d)) :
    c.position.offset < d.position.offset := by
  unfold read at h
  split at h
  · cases h
  · split at h
    · cases h
      simp [step]
    · cases h

theorem exhausted_readN {n : Nat} {c d : Cursor} {l : List Char} (hc : c.exhausted = false)
    (h : c.readN n = (some l, d)) : d.exhausted = false := by
  induction n generalizing c l with
  | zero => cases h; exact hc
  | succ n ih =>
    unfold readN at h
    split at h
    · cases h
    · rename_i x e he
      split at h
      · cases h
      · rename_i k f hf
        cases h
        exact ih (exhausted_read hc he) hf

theorem exhausted_readWhile (p : Char → Bool) {c : Cursor} (hc : c.exhausted = false) :
    (c.readWhile p).2.exhausted = false := by
  fun_induction readWhile p c with
  | case1 c h => exact hc
  | case2 c x h hx r ih => exact ih hc
  | case3 c x h hx => exact hc

/-! ### Walks -/

/-- An operation on a cursor that goes through a text. -/
inductive Operation
  | read
  | readN (n : Nat)
  | readWhile (p : Char → Bool)
  | clear
  /-- Back to where the cursor was before the operation number `k`. -/
  | back (k : Nat)

/-- A cursor with the positions where it has been, the first one first. -/
structure Walk where
  cursor : Cursor
  passed : List Position

namespace Walk

/-- A walk that begins. -/
def ofText (text : String) : Walk := ⟨.ofText text, []⟩

/-- The cursor behind an operation. -/
def next (w : Walk) : Operation → Cursor
  | .read => w.cursor.read.2
  | .readN n => (w.cursor.readN n).2
  | .readWhile p => (w.cursor.readWhile p).2
  | .clear => w.cursor.clear
  | .back k => match w.passed[k]? with
    | some p => w.cursor.moveTo p
    | none => w.cursor

/-- One step of a walk. -/
def step (w : Walk) (o : Operation) : Walk := ⟨w.next o, w.passed ++ [w.cursor.position]⟩

/-- Every position of a walk is exact. -/
structure IsExact (w : Walk) (text : List Char) : Prop where
  text_eq : w.cursor.text.toList = text
  here : w.cursor.position.IsExact text
  passed : ∀ p ∈ w.passed, p.IsExact text

theorem IsExact.of_moves {w : Walk} {text : List Char} (h : w.IsExact text) {d : Cursor}
    (hd : w.cursor.Moves d) : d.text.toList = text ∧ d.position.IsExact text := by
  have ht : d.text.toList = text := by rw [hd.text_eq, h.text_eq]
  have hx := hd.isExact (by rw [h.text_eq]; exact h.here)
  rw [ht] at hx
  exact ⟨ht, hx⟩

theorem IsExact.step {w : Walk} {text : List Char} (h : w.IsExact text) (o : Operation) :
    (w.step o).IsExact text := by
  have hnext : (w.next o).text.toList = text ∧ (w.next o).position.IsExact text := by
    cases o with
    | read => exact h.of_moves (moves_read _)
    | readN n => exact h.of_moves (moves_readN _ n)
    | readWhile p => exact h.of_moves (moves_readWhile p _)
    | clear => exact ⟨h.text_eq, h.here⟩
    | back k =>
      simp only [next]
      split
      · rename_i p hp
        exact ⟨h.text_eq, h.passed p (List.mem_of_getElem? hp)⟩
      · exact ⟨h.text_eq, h.here⟩
  refine ⟨hnext.1, hnext.2, fun p hp => ?_⟩
  rcases List.mem_append.mp hp with hp | hp
  · exact h.passed p hp
  · rw [List.mem_singleton.mp hp]
    exact h.here

end Walk

/-- **Every walk through a text is exact.** -/
theorem isExact_walk (text : String) (l : List Operation) :
    (l.foldl Walk.step (.ofText text)).IsExact text.toList := by
  have hstart : (Walk.ofText text).IsExact text.toList :=
    ⟨rfl, Position.isExact_start _, by simp [Walk.ofText]⟩
  generalize Walk.ofText text = w at hstart
  induction l generalizing w with
  | nil => exact hstart
  | cons o l ih => exact ih _ (hstart.step o)

end Cursor

end Grammar

end HttpScript
