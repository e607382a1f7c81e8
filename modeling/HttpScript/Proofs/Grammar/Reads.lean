import HttpScript.Grammar.Rule

/-! # Rules that read a known text

What a rule does depends on the characters in front of the cursor. `Reads text r l l' Q` says that
the rule `r`, started before the characters `l` of a text, stops before `l'` with a value of which
`Q` holds; `Rejects text r l` says that it fails. Nothing is said about positions, and nothing about
the errors that alternatives leave behind.

There is one lemma for each operation on the cursor and for each combinator. An alternative that is
rejected gives back what it has read, so `optional` and `choice` go on before the same `l`. -/

namespace HttpScript.Grammar

variable {α β : Type} {text : Array Char} {l l' l'' : List Char}

/-- **A state before the characters `l`** of a text, from which reading can go on. -/
structure State.Before (s : State) (text : Array Char) (l : List Char) : Prop where
  text_eq : s.cursor.text = text
  fresh : s.cursor.exhausted = false
  rest_eq : s.cursor.rest = l

theorem State.before_ofText (text : String) :
    (State.ofText text).Before text.toList.toArray text.toList :=
  ⟨rfl, rfl, rfl⟩

/-- What a rule leaves that stops before `l'`. -/
def Stopped (text : Array Char) (l' : List Char) (Q : α → Prop) :
    EStateM.Result ParseError State α → Prop
  | .ok a t => t.Before text l' ∧ Q a
  | .error _ _ => False

/-- **A rule that reads** from `l` to `l'`. -/
def Reads (text : Array Char) (r : Rule α) (l l' : List Char) (Q : α → Prop) : Prop :=
  ∀ s : State, s.Before text l → Stopped text l' Q (r s)

/-- **A rule that rejects** the characters `l`. -/
def Rejects (text : Array Char) (r : Rule α) (l : List Char) : Prop :=
  ∀ s : State, s.Before text l → ∃ e t, r s = .error e t

/-- A list that does not begin with a character of the class `p`. -/
def HeadNot (p : Char → Bool) (l : List Char) : Prop := ∀ c ∈ l.head?, p c = false

@[simp] theorem headNot_nil (p : Char → Bool) : HeadNot p [] := by simp [HeadNot]

@[simp] theorem headNot_cons {p : Char → Bool} {c : Char} :
    HeadNot p (c :: l) ↔ p c = false := by simp [HeadNot]

theorem HeadNot.mono {p q : Char → Bool} {l : List Char} (h : HeadNot q l)
    (hp : ∀ c, p c = true → q c = true) : HeadNot p l := fun c hc => by
  have hq := h c hc
  exact Bool.eq_false_iff.mpr fun hpc => Bool.eq_false_iff.mp hq (hp c hpc)

theorem headNot_dropWhile (p : Char → Bool) (l : List Char) : HeadNot p (l.dropWhile p) := by
  intro c hc
  have h := List.head?_dropWhile_not p l
  rw [hc] at h
  simpa using h

theorem takeWhile_append_of_headNot {p : Char → Bool} {w : List Char} (hw : ∀ c ∈ w, p c = true)
    (h : HeadNot p l) : (w ++ l).takeWhile p = w := by
  rw [List.takeWhile_append_of_pos hw]
  cases l with
  | nil => simp
  | cons c l => simp [headNot_cons.mp h]

theorem dropWhile_append_of_headNot {p : Char → Bool} {w : List Char} (hw : ∀ c ∈ w, p c = true)
    (h : HeadNot p l) : (w ++ l).dropWhile p = l := by
  rw [List.dropWhile_append_of_pos hw]
  cases l with
  | nil => simp
  | cons c l => simp [headNot_cons.mp h]

namespace Cursor

variable {c : Cursor}

theorem read_of_rest {x : Char} (hf : c.exhausted = false) (h : c.rest = x :: l) :
    c.read = (some x, c.step x) := by
  unfold read
  rw [hf, peek?_of_rest h]
  rfl

/-- Reading while `p` holds reads the longest such beginning. -/
theorem readWhile_spec (p : Char → Bool) (c : Cursor) :
    (c.readWhile p).1 = c.rest.takeWhile p ∧
    (c.readWhile p).2.rest = c.rest.dropWhile p ∧
    (c.readWhile p).2.text = c.text ∧
    (c.readWhile p).2.exhausted = c.exhausted := by
  fun_induction readWhile p c with
  | case1 c h =>
    rw [peek?_eq_head?, List.head?_eq_none_iff] at h
    simp [h]
  | case2 c x h hx r ih =>
    rw [peek?_eq_head?] at h
    obtain ⟨l, hl⟩ := List.head?_eq_some_iff.mp h
    obtain ⟨h₁, h₂, h₃, h₄⟩ := ih
    simp only [rest_step, hl, List.tail_cons] at h₁ h₂
    refine ⟨?_, ?_, h₃, h₄⟩
    · simp [hl, hx, r, h₁]
    · simp [hl, hx, r, h₂]
  | case3 c x h hx =>
    rw [peek?_eq_head?] at h
    obtain ⟨l, hl⟩ := List.head?_eq_some_iff.mp h
    simp [hl, hx]

theorem rest_of_readN {n : Nat} {w : List Char} {d : Cursor} (hf : c.exhausted = false)
    (h : c.readN n = (some w, d)) : c.rest = w ++ d.rest ∧ d.text = c.text ∧
      d.exhausted = false := by
  induction n generalizing c w with
  | zero =>
    cases h
    exact ⟨rfl, rfl, hf⟩
  | succ n ih =>
    unfold readN at h
    cases hrest : c.rest with
    | nil =>
      have hread : c.read = (none, { c with exhausted := true }) := by
        unfold read
        rw [hf, peek?_eq_head?, hrest]
        rfl
      rw [hread] at h
      cases h
    | cons x l =>
      rw [read_of_rest hf hrest] at h
      dsimp only at h
      split at h
      · cases h
      · rename_i v e hv
        cases h
        obtain ⟨hstep, htext, hfresh⟩ := ih (c := c.step x) hf hv
        rw [rest_step, hrest, List.tail_cons] at hstep
        exact ⟨by rw [hstep, List.cons_append], htext, hfresh⟩

theorem readN_spec {w : List Char} (hf : c.exhausted = false) (h : c.rest = w ++ l) :
    ∃ d, c.readN w.length = (some w, d) ∧ d.rest = l ∧ d.text = c.text ∧ d.exhausted = false := by
  induction w generalizing c with
  | nil => exact ⟨c, rfl, h, rfl, hf⟩
  | cons x w ih =>
    rw [List.cons_append] at h
    have hstep : (c.step x).rest = w ++ l := by rw [rest_step, h, List.tail_cons]
    obtain ⟨d, hd, hrest, htext, hfresh⟩ := ih (c := c.step x) hf hstep
    refine ⟨d, ?_, hrest, htext, hfresh⟩
    rw [List.length_cons, readN, read_of_rest hf h]
    simp only [hd]

end Cursor

namespace Reads

variable {r : Rule α} {f : α → Rule β} {Q R : α → Prop} {S : β → Prop}

theorem mono (h : Reads text r l l' Q) (hQ : ∀ a, Q a → R a) : Reads text r l l' R := by
  intro s hs
  have hr := h s hs
  cases heq : r s with
  | error e t => rw [heq] at hr; exact hr.elim
  | ok a t =>
    rw [heq] at hr
    obtain ⟨ht, ha⟩ := hr
    exact ⟨ht, hQ a ha⟩

theorem pure {a : α} (h : Q a) : Reads text (pure a) l l Q := fun _ hs => ⟨hs, h⟩

theorem bind (h : Reads text r l l' Q) (hf : ∀ a, Q a → Reads text (f a) l' l'' S) :
    Reads text (r >>= f) l l'' S := by
  intro s hs
  have hr := h s hs
  show Stopped text l'' S (EStateM.bind r f s)
  unfold EStateM.bind
  cases heq : r s with
  | error e t => rw [heq] at hr; exact hr.elim
  | ok a t =>
    rw [heq] at hr
    obtain ⟨ht, ha⟩ := hr
    have hfa := hf a ha t ht
    show Stopped text l'' S (f a t)
    cases hfe : f a t with
    | error e u => rw [hfe] at hfa; exact hfa.elim
    | ok b u =>
      rw [hfe] at hfa
      exact hfa

theorem map {g : α → β} (h : Reads text r l l' Q) (hg : ∀ a, Q a → S (g a)) :
    Reads text (g <$> r) l l' S := by
  intro s hs
  have hr := h s hs
  show Stopped text l' S (EStateM.map g r s)
  unfold EStateM.map
  cases heq : r s with
  | error e t => rw [heq] at hr; exact hr.elim
  | ok a t =>
    rw [heq] at hr
    obtain ⟨ht, ha⟩ := hr
    exact ⟨ht, hg a ha⟩

theorem ite_pos {c : Prop} [Decidable c] {r r' : Rule α} (hc : c) (h : Reads text r l l' Q) :
    Reads text (if c then r else r') l l' Q := by rwa [if_pos hc]

theorem ite_neg {c : Prop} [Decidable c] {r r' : Rule α} (hc : ¬ c) (h : Reads text r' l l' Q) :
    Reads text (if c then r else r') l l' Q := by rwa [if_neg hc]

/-! ### The cursor -/

theorem cursor : Reads text Rule.cursor l l fun c => c.text = text ∧ c.rest = l :=
  fun _ hs => ⟨hs, hs.text_eq, hs.rest_eq⟩

theorem moveTo {c : Cursor} (h : c.text = text) :
    Reads text (Rule.moveTo c) l c.rest fun _ => True := fun _ _ => ⟨⟨h, rfl, rfl⟩, trivial⟩

theorem position : Reads text Rule.position l l fun p => text.toList.drop p.offset = l :=
  fun _ hs => ⟨hs, by rw [← hs.text_eq]; exact hs.rest_eq⟩

/-- Behind a rule that has read something stands another position. -/
theorem between {r : Rule α} {f : Position → α → Position → Rule β} (h : Reads text r l l' Q)
    (hlt : l'.length < l.length)
    (hf : ∀ p a q, q.offset ≠ p.offset → Q a → Reads text (f p a q) l' l'' S) :
    Reads text (do let p ← Rule.position; let a ← r; let q ← Rule.position; f p a q) l l'' S := by
  intro s hs
  have hr := h s hs
  show Stopped text l'' S (EStateM.bind r (fun a t => f s.cursor.position a t.cursor.position t) s)
  unfold EStateM.bind
  cases heq : r s with
  | error e t => rw [heq] at hr; exact hr.elim
  | ok a t =>
    rw [heq] at hr
    obtain ⟨ht, ha⟩ := hr
    have hne : t.cursor.position.offset ≠ s.cursor.position.offset := fun hoffset => by
      have hrest : t.cursor.rest = s.cursor.rest := by
        unfold Cursor.rest
        rw [ht.text_eq, hs.text_eq, hoffset]
      rw [ht.rest_eq, hs.rest_eq] at hrest
      rw [hrest] at hlt
      exact Nat.lt_irrefl _ hlt
    have hfa := hf _ a _ hne ha t ht
    show Stopped text l'' S (f s.cursor.position a t.cursor.position t)
    cases hfe : f s.cursor.position a t.cursor.position t with
    | error e u => rw [hfe] at hfa; exact hfa.elim
    | ok b u =>
      rw [hfe] at hfa
      exact hfa

theorem peek : Reads text Rule.peek l l (· = l.head?) := by
  intro s hs
  refine ⟨hs, ?_⟩
  rw [Cursor.peek?_eq_head?, hs.rest_eq]

theorem read {x : Char} : Reads text Rule.read (x :: l) l (· = x) := by
  intro s hs
  unfold Rule.read
  rw [Cursor.read_of_rest hs.fresh hs.rest_eq]
  refine ⟨⟨hs.text_eq, hs.fresh, ?_⟩, rfl⟩
  rw [Cursor.rest_step, hs.rest_eq, List.tail_cons]

theorem readN {w : List Char} : Reads text (Rule.readN w.length) (w ++ l) l (· = w) := by
  intro s hs
  obtain ⟨d, hd, hrest, htext, hfresh⟩ := Cursor.readN_spec hs.fresh hs.rest_eq
  unfold Rule.readN
  rw [hd]
  exact ⟨⟨htext.trans hs.text_eq, hfresh, hrest⟩, rfl⟩

theorem readWhile (p : Char → Bool) :
    Reads text (Rule.readWhile p) l (l.dropWhile p) (· = l.takeWhile p) := by
  intro s hs
  obtain ⟨hread, hrest, htext, hfresh⟩ := Cursor.readWhile_spec p s.cursor
  rw [hs.rest_eq] at hread hrest
  exact ⟨⟨htext.trans hs.text_eq, hfresh.trans hs.fresh, hrest⟩, hread⟩

theorem readWhile_append {p : Char → Bool} {w : List Char} (hw : ∀ c ∈ w, p c = true)
    (h : HeadNot p l) : Reads text (Rule.readWhile p) (w ++ l) l (· = w) := by
  intro s hs
  have hread := readWhile p s hs
  rwa [takeWhile_append_of_headNot hw h, dropWhile_append_of_headNot hw h] at hread

theorem mapError {g : ParseError → ParseError} (h : Reads text r l l' Q) :
    Reads text (Rule.mapError g r) l l' Q := by
  intro s hs
  have hr := h s hs
  unfold Rule.mapError
  cases heq : r s with
  | error e t => rw [heq] at hr; exact hr.elim
  | ok a t => rw [heq] at hr; exact hr

theorem readOr {cause : Fault} {x : Char} : Reads text (Rule.readOr cause) (x :: l) l (· = x) :=
  fun s hs => mapError (g := fun _ => .fault cause s.cursor.position) read s hs

end Reads

namespace Rejects

variable {r : Rule α} {f : α → Rule β} {Q : α → Prop}

theorem bind (h : Rejects text r l) : Rejects text (r >>= f) l := by
  intro s hs
  obtain ⟨e, t, heq⟩ := h s hs
  refine ⟨e, t, ?_⟩
  show EStateM.bind r f s = _
  unfold EStateM.bind
  rw [heq]

theorem map {g : α → β} (h : Rejects text r l) : Rejects text (g <$> r) l := by
  intro s hs
  obtain ⟨e, t, heq⟩ := h s hs
  refine ⟨e, t, ?_⟩
  show EStateM.map g r s = _
  unfold EStateM.map
  rw [heq]

theorem ite_pos {c : Prop} [Decidable c] {r r' : Rule α} (hc : c) (h : Rejects text r l) :
    Rejects text (if c then r else r') l := by rwa [if_pos hc]

theorem ite_neg {c : Prop} [Decidable c] {r r' : Rule α} (hc : ¬ c) (h : Rejects text r' l) :
    Rejects text (if c then r else r') l := by rwa [if_neg hc]

theorem failAt {p : Position} {cause : Fault} : Rejects text (Rule.failAt (α := α) p cause) l :=
  fun s _ => ⟨_, s, rfl⟩

theorem failHere {cause : Fault} : Rejects text (Rule.failHere (α := α) cause) l :=
  fun s _ => ⟨_, s, rfl⟩

theorem mapError {g : ParseError → ParseError} (h : Rejects text r l) :
    Rejects text (Rule.mapError g r) l := by
  intro s hs
  obtain ⟨e, t, heq⟩ := h s hs
  unfold Rule.mapError
  rw [heq]
  exact ⟨_, _, rfl⟩

end Rejects

/-- A rule whose beginning reads rejects if what follows does. -/
theorem Reads.rejects {r : Rule α} {f : α → Rule β} {Q : α → Prop} (h : Reads text r l l' Q)
    (hf : ∀ a, Q a → Rejects text (f a) l') : Rejects text (r >>= f) l := by
  intro s hs
  have hr := h s hs
  show ∃ e t, EStateM.bind r f s = _
  unfold EStateM.bind
  cases heq : r s with
  | error e t => exact ⟨e, t, rfl⟩
  | ok a t =>
    rw [heq] at hr
    obtain ⟨ht, ha⟩ := hr
    exact hf a ha t ht

/-! ### Repetition and alternatives -/

/-- Going back to a state gives back what was read since. -/
theorem State.Before.backtrack {s : State} (h : s.Before text l) (t : State) (e : ParseError) :
    (t.backtrack s.cursor e).Before text l := ⟨h.text_eq, rfl, h.rest_eq⟩

namespace Reads

variable {r : Rule α} {Q : α → Prop}

theorem optional (h : Reads text r l l' Q) :
    Reads text (Rule.optional r) l l' fun o => ∃ a, o = some a ∧ Q a := by
  intro s hs
  have hr := h s hs
  unfold Rule.optional
  cases heq : r s with
  | error e t => rw [heq] at hr; exact hr.elim
  | ok a t =>
    rw [heq] at hr
    obtain ⟨ht, ha⟩ := hr
    exact ⟨ht, a, rfl, ha⟩

theorem optional_none (h : Rejects text r l) : Reads text (Rule.optional r) l l (· = none) := by
  intro s hs
  obtain ⟨e, t, heq⟩ := h s hs
  unfold Rule.optional
  rw [heq]
  exact ⟨hs.backtrack t e, rfl⟩

variable {r : Rule (Option α)} {Q : α → Prop} {S : List α → Prop}

theorem collect_nil (h : Reads text r l l' (· = none)) :
    Reads text (Rule.collect r) l l' (· = []) := by
  intro s hs
  have hr := h s hs
  unfold Rule.collect
  cases heq : r s with
  | error e t => rw [heq] at hr; exact hr.elim
  | ok o t =>
    rw [heq] at hr
    obtain ⟨ht, rfl⟩ := hr
    exact ⟨ht, rfl⟩

/-- One round of collecting, which must read something. -/
theorem collect_cons (h : Reads text r l l' fun o => ∃ a, o = some a ∧ Q a)
    (hlt : l'.length < l.length) (hrest : Reads text (Rule.collect r) l' l'' S) :
    Reads text (Rule.collect r) l l'' fun as => ∃ a as', as = a :: as' ∧ Q a ∧ S as' := by
  intro s hs
  have hr := h s hs
  unfold Rule.collect
  cases heq : r s with
  | error e t => rw [heq] at hr; exact hr.elim
  | ok o t =>
    rw [heq] at hr
    obtain ⟨ht, a, rfl, ha⟩ := hr
    have hleft : t.cursor.left < s.cursor.left := by
      rwa [Cursor.left_eq_length, Cursor.left_eq_length, ht.rest_eq, hs.rest_eq]
    have hcollect := hrest t ht
    dsimp only
    rw [if_pos hleft]
    cases hre : Rule.collect r t with
    | error e u => rw [hre] at hcollect; exact hcollect.elim
    | ok as u =>
      rw [hre] at hcollect
      obtain ⟨hu, has⟩ := hcollect
      exact ⟨hu, a, as, rfl, ha, has⟩

section Items

variable {γ δ : Type} {items : List γ} {print : γ → List Char} {g : α → δ} {g' : γ → δ}

/-- Collecting what is printed for some items, each in front of a text with the property `F`. -/
theorem collect_items {F : List Char → Prop}
    (hitem : ∀ b ∈ items, ∀ k, F k →
      Reads text r (print b ++ k) k fun o => ∃ a, o = some a ∧ g a = g' b)
    (hne : ∀ b ∈ items, print b ≠ []) (hF : ∀ b ∈ items, ∀ k, F k → F (print b ++ k)) (hl : F l)
    (hend : Reads text r l l' (· = none)) :
    Reads text (Rule.collect r) (items.flatMap print ++ l) l' fun as =>
      as.map g = items.map g' := by
  suffices F (items.flatMap print ++ l) ∧
      Reads text (Rule.collect r) (items.flatMap print ++ l) l' fun as =>
        as.map g = items.map g' from this.2
  induction items with
  | nil => exact ⟨hl, (collect_nil hend).mono fun as has => by simp [has]⟩
  | cons b items ih =>
    obtain ⟨hk, hrest⟩ := ih (fun b hb => hitem b (by simp [hb])) (fun b hb => hne b (by simp [hb]))
      fun b hb => hF b (by simp [hb])
    have hlt : (items.flatMap print ++ l).length <
        (print b ++ (items.flatMap print ++ l)).length := by
      have := List.length_pos_iff.mpr (hne b (by simp))
      simp only [List.length_append]
      omega
    rw [List.flatMap_cons, List.append_assoc]
    refine ⟨hF b (by simp) _ hk, ?_⟩
    refine (collect_cons (hitem b (by simp) _ hk) hlt hrest).mono fun as has => ?_
    obtain ⟨a, as', rfl, ha, has⟩ := has
    rw [List.map_cons, List.map_cons, ha, has]

/-- Repeating a rule over what is printed for some items, up to what it rejects. -/
theorem zeroOrMore_items {r : Rule α} {F : List Char → Prop}
    (hitem : ∀ b ∈ items, ∀ k, F k → Reads text r (print b ++ k) k fun a => g a = g' b)
    (hne : ∀ b ∈ items, print b ≠ []) (hF : ∀ b ∈ items, ∀ k, F k → F (print b ++ k)) (hl : F l)
    (hend : l ≠ [] → Rejects text r l) :
    Reads text (Rule.zeroOrMore r) (items.flatMap print ++ l) l fun as =>
      as.map g = items.map g' := by
  refine collect_items (F := F) (fun b hb k hk s hs => ?_) hne hF hl fun s hs => ?_
  · have hleft : s.cursor.left ≠ 0 := by
      have := List.length_pos_iff.mpr (hne b hb)
      rw [Cursor.left_eq_length, hs.rest_eq, List.length_append]
      omega
    unfold Rule.optionalBeforeEnd
    rw [if_neg hleft]
    exact (hitem b hb k hk).optional s hs
  · unfold Rule.optionalBeforeEnd
    split
    · exact ⟨hs, rfl⟩
    · rename_i hleft
      rw [Cursor.left_eq_length, hs.rest_eq, List.length_eq_zero_iff] at hleft
      exact optional_none (hend hleft) s hs

theorem zeroOrMore_flatMap {r : Rule α}
    (hitem : ∀ b ∈ items, ∀ k, Reads text r (print b ++ k) k fun a => g a = g' b)
    (hne : ∀ b ∈ items, print b ≠ []) (hend : l ≠ [] → Rejects text r l) :
    Reads text (Rule.zeroOrMore r) (items.flatMap print ++ l) l fun as =>
      as.map g = items.map g' :=
  zeroOrMore_items (F := fun _ => True) (fun b hb k _ => hitem b hb k) hne
    (fun _ _ _ _ => trivial) trivial hend

end Items

/-- **The first alternative that reads**, where those before it reject. -/
theorem choice {r : Rule α} {rules : List (Rule α)} (before : List (Rule α))
    {after : List (Rule α)} (hrules : rules = before ++ r :: after)
    (hbefore : ∀ r' ∈ before, Rejects text r' l) (h : Reads text r l l' Q) :
    Reads text (Rule.choice rules) l l' Q := by
  subst hrules
  intro s₀ hs₀
  suffices ∀ (failures : List ParseError) (s : State), s.Before text l →
      Stopped text l' Q (Rule.choiceFrom s₀.cursor (before ++ r :: after) failures s) from
    this [] s₀ hs₀
  induction before with
  | nil =>
    intro failures s hs
    have hr := h s hs
    rw [List.nil_append]
    unfold Rule.choiceFrom
    cases heq : r s with
    | error e t => rw [heq] at hr; exact hr.elim
    | ok a t =>
      rw [heq] at hr
      exact hr
  | cons r' before ih =>
    intro failures s hs
    obtain ⟨e, t, heq⟩ := hbefore r' (by simp) s hs
    rw [List.cons_append]
    unfold Rule.choiceFrom
    rw [heq]
    exact ih (fun r hr => hbefore r (by simp [hr])) _ _ (hs₀.backtrack t e)

/-- **The only alternative that reads**, where all others reject. -/
theorem choice_of_mem {r : Rule α} {rules : List (Rule α)} (hr : r ∈ rules)
    (hother : ∀ r' ∈ rules, r' = r ∨ Rejects text r' l) (h : Reads text r l l' Q) :
    Reads text (Rule.choice rules) l l' Q := by
  suffices ∃ before after, rules = before ++ r :: after ∧ ∀ r' ∈ before, Rejects text r' l by
    obtain ⟨before, after, hrules, hbefore⟩ := this
    exact choice before hrules hbefore h
  induction rules with
  | nil => cases hr
  | cons r' rules ih =>
    rcases hother r' (by simp) with rfl | hreject
    · exact ⟨[], rules, rfl, by simp⟩
    · rcases List.mem_cons.mp hr with rfl | hr
      · exact ⟨[], rules, rfl, by simp⟩
      · obtain ⟨before, after, hrules, hbefore⟩ := ih hr fun r hr => hother r (by simp [hr])
        refine ⟨r' :: before, after, by rw [hrules, List.cons_append], fun r hr => ?_⟩
        rcases List.mem_cons.mp hr with rfl | hr
        · exact hreject
        · exact hbefore r hr

/-- **The first fixed text that is read**, where those before it are rejected. -/
theorem firstOf {literal : String → Rule Unit} {name : α → String} {b : α} {all : List α}
    (before : List α) {after : List α} (hall : all = before ++ b :: after)
    (hbefore : ∀ b' ∈ before, Rejects text (literal (name b')) l)
    (h : Reads text (literal (name b)) l l' fun _ => True) :
    Reads text (Rule.firstOf literal name all) l l' (· = some b) := by
  subst hall
  induction before with
  | nil =>
    rw [List.nil_append]
    unfold Rule.firstOf
    refine h.optional.bind fun o ho => ?_
    obtain ⟨a, rfl, -⟩ := ho
    exact pure rfl
  | cons b' before ih =>
    rw [List.cons_append]
    unfold Rule.firstOf
    refine (optional_none (hbefore b' (by simp))).bind fun o ho => ?_
    subst ho
    exact ih fun b hb => hbefore b (by simp [hb])

theorem firstOf_none {literal : String → Rule Unit} {name : α → String} {all : List α}
    (h : ∀ b ∈ all, Rejects text (literal (name b)) l) :
    Reads text (Rule.firstOf literal name all) l l (· = none) := by
  induction all with
  | nil => exact pure rfl
  | cons b all ih =>
    unfold Rule.firstOf
    refine (optional_none (h b (by simp))).bind fun o ho => ?_
    subst ho
    exact ih fun b hb => h b (by simp [hb])

end Reads

theorem Rejects.choice {rules : List (Rule α)} (h : ∀ r ∈ rules, Rejects text r l) :
    Rejects text (Rule.choice rules) l := by
  intro s₀ hs₀
  suffices ∀ (failures : List ParseError) (s : State), s.Before text l →
      ∃ e t, Rule.choiceFrom s₀.cursor rules failures s = .error e t from this [] s₀ hs₀
  induction rules with
  | nil =>
    intro failures s hs
    unfold Rule.choiceFrom
    split
    · exact ⟨_, _, rfl⟩
    · exact ⟨_, _, rfl⟩
  | cons r rules ih =>
    intro failures s hs
    obtain ⟨e, t, heq⟩ := h r (by simp) s hs
    unfold Rule.choiceFrom
    rw [heq]
    exact ih (fun r hr => h r (by simp [hr])) _ _ (hs₀.backtrack t e)

end HttpScript.Grammar
