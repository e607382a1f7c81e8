import HttpScript.Grammar.Rule
import HttpScript.Proofs.Grammar.Exact

/-! # Rules that keep track of the text

A rule that starts at the offset `i` of a text *tracks* the text if it ends at an offset behind `i`,
or fails with an exact error. Since a cursor that is exact is known by its offset, `Tracks` speaks
of offsets only: `Tracks text i r Q` says that the rule `r`, started at `i`, yields values `a` and
offsets `j` with `Q a j`.

The rules of the grammar are built from a few operations on the cursor and from the combinators;
there is one lemma for each of these. -/

namespace HttpScript.Grammar

variable {α β : Type} {text : List Char} {i j : Nat}

/-- Errors at exact positions. -/
def ExactErrors (text : List Char) (l : List ParseError) : Prop :=
  ∀ e ∈ l, e.position.IsExact text

/-- **A state at the offset `i` of a text**, from which reading can go on and which has logged exact
errors only. -/
structure State.StandsAt (s : State) (text : List Char) (i : Nat) : Prop where
  text_eq : s.cursor.text.toList = text
  exact : s.cursor.position.IsExact text
  offset_eq : s.cursor.position.offset = i
  fresh : s.cursor.exhausted = false
  log : ExactErrors text s.log

/-- What a rule leaves that was started at the offset `i`. -/
def Tracked (text : List Char) (i : Nat) (Q : α → Nat → Prop) :
    EStateM.Result ParseError State α → Prop
  | .ok a t => ∃ j, i ≤ j ∧ t.StandsAt text j ∧ Q a j
  | .error e t => e.position.IsExact text ∧ ExactErrors text t.log

/-- **A rule that tracks a text** from the offset `i`. -/
def Tracks (text : List Char) (i : Nat) (r : Rule α) (Q : α → Nat → Prop) : Prop :=
  ∀ s : State, s.StandsAt text i → Tracked text i Q (r s)

namespace State.StandsAt

theorem ofText (text : String) : (State.ofText text).StandsAt text.toList 0 where
  text_eq := rfl
  exact := Position.isExact_start _
  offset_eq := rfl
  fresh := rfl
  log := by simp [State.ofText, ExactErrors]

variable {s : State}

theorem move (h : s.StandsAt text i) {c : Cursor} (hc : s.cursor.Moves c)
    (hf : c.exhausted = false) :
    i ≤ c.position.offset ∧ State.StandsAt { s with cursor := c } text c.position.offset := by
  have ht : c.text.toList = text := by rw [hc.text_eq, h.text_eq]
  have hx := hc.isExact (by rw [h.text_eq]; exact h.exact)
  rw [ht] at hx
  exact ⟨h.offset_eq ▸ hc.offset_le, ht, hx, rfl, hf, h.log⟩

theorem isExact_of_moves (h : s.StandsAt text i) {c : Cursor} (hc : s.cursor.Moves c) :
    c.position.IsExact text := by
  have hx := hc.isExact (by rw [h.text_eq]; exact h.exact)
  rwa [hc.text_eq, h.text_eq] at hx

theorem backtrack (h : s.StandsAt text i) {t : State} {e : ParseError}
    (he : e.position.IsExact text) (ht : ExactErrors text t.log) :
    (t.backtrack s.cursor e).StandsAt text i where
  text_eq := h.text_eq
  exact := h.exact
  offset_eq := h.offset_eq
  fresh := rfl
  log := fun e' he' => by
    rcases List.mem_cons.mp he' with rfl | he'
    · exact he
    · exact ht e' he'

end State.StandsAt

namespace Tracks

variable {r : Rule α} {f : α → Rule β} {Q R : α → Nat → Prop} {S : β → Nat → Prop}

theorem ok (h : Tracks text i r Q) {s t : State} {a : α} (hs : s.StandsAt text i)
    (hr : r s = .ok a t) : ∃ j, i ≤ j ∧ t.StandsAt text j ∧ Q a j := by
  have htracked := h s hs
  rwa [hr] at htracked

theorem error (h : Tracks text i r Q) {s t : State} {e : ParseError} (hs : s.StandsAt text i)
    (hr : r s = .error e t) : e.position.IsExact text ∧ ExactErrors text t.log := by
  have htracked := h s hs
  rwa [hr] at htracked

theorem mono (h : Tracks text i r Q) (hQ : ∀ a j, i ≤ j → Q a j → R a j) :
    Tracks text i r R := by
  intro s hs
  have := h s hs
  cases hr : r s with
  | error e t => rw [hr] at this; exact this
  | ok a t =>
    rw [hr] at this
    obtain ⟨j, hj, ht, ha⟩ := this
    exact ⟨j, hj, ht, hQ a j hj ha⟩

/-- What a rule leaves that starts behind an offset is behind that offset. -/
theorem later (h : Tracks text j r Q) (hj : i < j) : Tracks text j r fun _ k => i < k :=
  h.mono fun _ _ hk _ => Nat.lt_of_lt_of_le hj hk

theorem pure {a : α} (h : Q a i) : Tracks text i (pure a) Q :=
  fun _ hs => ⟨i, Nat.le_refl i, hs, h⟩

theorem bind (h : Tracks text i r Q) (hf : ∀ a j, i ≤ j → Q a j → Tracks text j (f a) S) :
    Tracks text i (r >>= f) S := by
  intro s hs
  have hr := h s hs
  show Tracked text i S (EStateM.bind r f s)
  unfold EStateM.bind
  cases heq : r s with
  | error e t => rw [heq] at hr; exact hr
  | ok a t =>
    rw [heq] at hr
    obtain ⟨j, hj, ht, ha⟩ := hr
    have hfa := hf a j hj ha t ht
    show Tracked text i S (f a t)
    cases hfe : f a t with
    | error e u => rw [hfe] at hfa; exact hfa
    | ok b u =>
      rw [hfe] at hfa
      obtain ⟨k, hk, hu, hb⟩ := hfa
      exact ⟨k, Nat.le_trans hj hk, hu, hb⟩

theorem map {g : α → β} (h : Tracks text i r Q) (hg : ∀ a j, i ≤ j → Q a j → S (g a) j) :
    Tracks text i (g <$> r) S := by
  intro s hs
  have hr := h s hs
  show Tracked text i S (EStateM.map g r s)
  unfold EStateM.map
  cases heq : r s with
  | error e t => rw [heq] at hr; exact hr
  | ok a t =>
    rw [heq] at hr
    obtain ⟨j, hj, ht, ha⟩ := hr
    exact ⟨j, hj, ht, hg a j hj ha⟩

theorem ite {c : Prop} [Decidable c] {r r' : Rule α} (h : c → Tracks text i r Q)
    (h' : ¬ c → Tracks text i r' Q) : Tracks text i (if c then r else r') Q := by
  split
  · exact h ‹_›
  · exact h' ‹_›

/-! ### The cursor -/

theorem cursor : Tracks text i Rule.cursor fun c j =>
    j = i ∧ c.text.toList = text ∧ c.position.IsExact text ∧ c.position.offset = i :=
  fun _ hs => ⟨i, Nat.le_refl i, hs, rfl, hs.text_eq, hs.exact, hs.offset_eq⟩

theorem position : Tracks text i Rule.position fun p j =>
    j = i ∧ p.IsExact text ∧ p.offset = i :=
  fun _ hs => ⟨i, Nat.le_refl i, hs, rfl, hs.exact, hs.offset_eq⟩

theorem peek : Tracks text i Rule.peek fun _ j => j = i :=
  fun _ hs => ⟨i, Nat.le_refl i, hs, rfl⟩

/-- Going back, behind a rule, to a cursor that stood where the rule began or further. -/
theorem goBack {r : Rule α} {c : α → Cursor} (h : Tracks text i r Q)
    (hc : ∀ a j, i ≤ j → Q a j → (c a).text.toList = text ∧ (c a).position.IsExact text ∧
      i ≤ (c a).position.offset)
    (hf : ∀ a j, i ≤ j → Q a j → Tracks text (c a).position.offset (f a) S) :
    Tracks text i (r >>= fun a => Rule.moveTo (c a) >>= fun _ => f a) S := by
  intro s hs
  have hr := h s hs
  show Tracked text i S (EStateM.bind r _ s)
  unfold EStateM.bind
  cases heq : r s with
  | error e t => rw [heq] at hr; exact hr
  | ok a t =>
    rw [heq] at hr
    obtain ⟨j, hj, ht, ha⟩ := hr
    obtain ⟨htext, hexact, hi⟩ := hc a j hj ha
    have hfa := hf a j hj ha ⟨(c a).clear, t.log⟩ ⟨htext, hexact, rfl, rfl, ht.log⟩
    show Tracked text i S (f a ⟨(c a).clear, t.log⟩)
    cases hfe : f a ⟨(c a).clear, t.log⟩ with
    | error e u => rw [hfe] at hfa; exact hfa
    | ok b u =>
      rw [hfe] at hfa
      obtain ⟨k, hk, hu, hb⟩ := hfa
      exact ⟨k, Nat.le_trans hi hk, hu, hb⟩

theorem failAt {p : Position} {cause : Fault} (h : p.IsExact text) :
    Tracks text i (Rule.failAt p cause) Q := fun _ hs => ⟨h, hs.log⟩

theorem failHere {cause : Fault} : Tracks text i (Rule.failHere cause) Q :=
  fun _ hs => ⟨hs.exact, hs.log⟩

theorem read : Tracks text i Rule.read fun _ j => i < j := by
  intro s hs
  have hm := Cursor.moves_read s.cursor
  unfold Rule.read
  cases h : s.cursor.read with
  | mk o c =>
    rw [h] at hm
    cases o with
    | none => exact ⟨hs.isExact_of_moves hm, hs.log⟩
    | some x =>
      obtain ⟨hle, ht⟩ := hs.move hm (Cursor.exhausted_read hs.fresh h)
      exact ⟨_, hle, ht, hs.offset_eq ▸ Cursor.offset_lt_of_read h⟩

theorem readN (n : Nat) : Tracks text i (Rule.readN n) fun _ _ => True := by
  intro s hs
  have hm := Cursor.moves_readN s.cursor n
  unfold Rule.readN
  cases h : s.cursor.readN n with
  | mk o c =>
    rw [h] at hm
    cases o with
    | none => exact ⟨hs.isExact_of_moves hm, hs.log⟩
    | some l =>
      obtain ⟨hle, ht⟩ := hs.move hm (Cursor.exhausted_readN hs.fresh h)
      exact ⟨_, hle, ht, trivial⟩

theorem readWhile (p : Char → Bool) : Tracks text i (Rule.readWhile p) fun _ _ => True := by
  intro s hs
  obtain ⟨hle, ht⟩ := hs.move (Cursor.moves_readWhile p s.cursor)
    (Cursor.exhausted_readWhile p hs.fresh)
  exact ⟨_, hle, ht, trivial⟩

theorem mapError {g : ParseError → ParseError} (h : Tracks text i r Q)
    (hg : ∀ e : ParseError, e.position.IsExact text → (g e).position.IsExact text) :
    Tracks text i (Rule.mapError g r) Q := by
  intro s hs
  have hr := h s hs
  unfold Rule.mapError
  cases heq : r s with
  | error e t => rw [heq] at hr; exact ⟨hg e hr.1, hr.2⟩
  | ok a t => rw [heq] at hr; exact hr

theorem readOr (cause : Fault) : Tracks text i (Rule.readOr cause) fun _ j => i < j :=
  fun s hs => mapError (g := fun _ => .fault cause s.cursor.position) read
    (fun _ _ => hs.exact) s hs

/-! ### Repetition and alternatives -/

/-- A rule that fails under `optional` leaves no trace but an exact error. -/
theorem optional (h : Tracks text i r Q) :
    Tracks text i (Rule.optional r) fun o j => (o = none ∧ j = i) ∨ ∃ a, o = some a ∧ Q a j := by
  intro s hs
  have hr := h s hs
  unfold Rule.optional
  cases heq : r s with
  | error e t =>
    rw [heq] at hr
    exact ⟨i, Nat.le_refl i, hs.backtrack hr.1 hr.2, .inl ⟨rfl, rfl⟩⟩
  | ok a t =>
    rw [heq] at hr
    obtain ⟨j, hj, ht, ha⟩ := hr
    exact ⟨j, hj, ht, .inr ⟨a, rfl, ha⟩⟩

/-- **What is collected**, from what a round does between the places where it begins and ends. -/
theorem collect_along {r : Rule (Option α)} {S : List α → Nat → Nat → Prop}
    (h : ∀ j, i ≤ j → Tracks text j r fun o k => (o = none → S [] j k) ∧
      ∀ a ∈ o, S [a] j k ∧ ∀ l m, k ≤ m → S l k m → S (a :: l) j m) :
    Tracks text i (Rule.collect r) fun l j => S l i j := by
  -- by induction on what is left to read
  suffices ∀ n (s : State), s.cursor.left = n → ∀ j, i ≤ j → s.StandsAt text j →
      Tracked text j (fun l k => S l j k) (Rule.collect r s) from
    fun s hs => this _ s rfl i (Nat.le_refl i) hs
  intro n
  induction n using Nat.strongRecOn with
  | ind n ih =>
    intro s hn j hj hs
    have hr := h j hj s hs
    unfold Rule.collect
    cases heq : r s with
    | error e t => rw [heq] at hr; exact hr
    | ok o t =>
      rw [heq] at hr
      obtain ⟨k, hk, ht, hnil, hcons⟩ := hr
      cases o with
      | none => exact ⟨k, hk, ht, hnil rfl⟩
      | some a =>
        obtain ⟨hone, hmore⟩ := hcons a rfl
        show Tracked text j _ (if t.cursor.left < s.cursor.left then _ else _)
        split
        · rename_i hlt
          have hrest := ih _ (by omega) t rfl k (Nat.le_trans hj hk) ht
          cases hre : Rule.collect r t with
          | error e u => rw [hre] at hrest; exact hrest
          | ok l u =>
            rw [hre] at hrest
            obtain ⟨m, hm, hu, hl⟩ := hrest
            exact ⟨m, Nat.le_trans hk hm, hu, hmore l m hm hl⟩
        · exact ⟨k, hk, ht, hone⟩

/-- What is collected has the property that every round gives its value. -/
theorem collect {r : Rule (Option α)} {P : α → Prop}
    (h : ∀ j, i ≤ j → Tracks text j r fun o _ => ∀ a ∈ o, P a) :
    Tracks text i (Rule.collect r) fun l _ => ∀ a ∈ l, P a :=
  collect_along (S := fun l _ _ => ∀ a ∈ l, P a) fun j hj => (h j hj).mono fun o _ _ ho =>
    ⟨by simp, fun a ha => ⟨List.forall_mem_singleton.mpr (ho a ha),
      fun l _ _ hl => List.forall_mem_cons.mpr ⟨ho a ha, hl⟩⟩⟩

/-- **What a repetition yields**, from what every round does between the places where it begins and
ends. -/
theorem zeroOrMore_along {S : List α → Nat → Nat → Prop} (hnil : ∀ j, S [] j j)
    (h : ∀ j, i ≤ j → Tracks text j r fun a k => ∀ l m, k ≤ m → S l k m → S (a :: l) j m) :
    Tracks text i (Rule.zeroOrMore r) fun l j => S l i j := by
  refine collect_along fun j hj s hs => ?_
  unfold Rule.optionalBeforeEnd
  split
  · exact ⟨j, Nat.le_refl j, hs, fun _ => hnil j, by simp⟩
  · refine ((optional (h j hj)).mono fun o k _ ho => ?_) s hs
    rcases ho with ⟨rfl, rfl⟩ | ⟨a, rfl, ha⟩
    · exact ⟨fun _ => hnil k, by simp⟩
    · refine ⟨by simp, fun b hb => ?_⟩
      cases hb
      exact ⟨ha [] k (Nat.le_refl k) (hnil k), ha⟩

theorem zeroOrMore {P : α → Prop} (h : ∀ j, i ≤ j → Tracks text j r fun a _ => P a) :
    Tracks text i (Rule.zeroOrMore r) fun l _ => ∀ a ∈ l, P a :=
  zeroOrMore_along (S := fun l _ _ => ∀ a ∈ l, P a) (by simp) fun j hj =>
    (h j hj).mono fun _ _ _ ha _ _ _ hl => List.forall_mem_cons.mpr ⟨ha, hl⟩

theorem choice {rules : List (Rule α)} (h : ∀ r ∈ rules, Tracks text i r Q) :
    Tracks text i (Rule.choice rules) Q := by
  intro s₀ hs₀
  -- the errors of the alternatives before are exact, and each of them has gone back to the start
  suffices ∀ (failures : List ParseError) (s : State), ExactErrors text failures →
      s.StandsAt text i → Tracked text i Q (Rule.choiceFrom s₀.cursor rules failures s) from
    this [] s₀ (by simp [ExactErrors]) hs₀
  induction rules with
  | nil =>
    intro failures s hfailures hs
    unfold Rule.choiceFrom
    split
    · rename_i e he
      exact ⟨hfailures e (mem_of_deepest? he), hs.log⟩
    · exact ⟨hs₀.exact, hs.log⟩
  | cons r rules ih =>
    intro failures s hfailures hs
    have hr := h r (by simp) s hs
    unfold Rule.choiceFrom
    cases heq : r s with
    | ok a t => rw [heq] at hr; exact hr
    | error e t =>
      rw [heq] at hr
      refine ih (fun r' hr' => h r' (by simp [hr'])) _ _ (fun e' he' => ?_)
        (hs₀.backtrack hr.1 hr.2)
      rcases List.mem_append.mp he' with he' | he'
      · exact hfailures e' he'
      · rw [List.mem_singleton.mp he']
        exact hr.1

theorem firstOf {literal : String → Rule Unit} {name : β → String} {l : List β}
    (h : ∀ b ∈ l, ∀ j, i ≤ j → Tracks text j (literal (name b)) fun _ _ => True) :
    Tracks text i (Rule.firstOf literal name l) fun _ _ => True := by
  induction l with
  | nil => exact pure trivial
  | cons b l ih =>
    unfold Rule.firstOf
    refine (optional (h b (by simp) i (Nat.le_refl i))).bind fun o j hj ho => ?_
    rcases ho with ⟨rfl, rfl⟩ | ⟨a, rfl, -⟩
    · exact ih fun b' hb' => h b' (by simp [hb'])
    · exact pure trivial

end Tracks

end HttpScript.Grammar
