import HttpScript.JsonPath.Read
import HttpScript.Proofs.JsonPath.Written

/-! # Reading a path ends and stays in the text

The readers of paths are given a number of steps, and what they leave is a list of characters. Both
are harmless, on every text:

* `StaysIn`, `Shortens`: what a reader leaves is the end of what it was given, for some readers a
  shorter one.
* `Bounded`: a reader that stays in the text and to which the number of steps makes no difference as
  long as there are more of them than characters. There is a lemma for each way to put readers
  together, and one for each reader with steps.
* `read?_steps`: no text is rejected for want of steps. -/

namespace HttpScript.JsonPath

open Text

variable {α β : Type}

/-! ### Staying in the text -/

/-- **A reader that stays in the text**: it leaves an end of what it is given. -/
def StaysIn (r : Reader α) : Prop := ∀ l a k, r l = some (a, k) → k <:+ l

/-- **A reader that reads something** wherever it succeeds. -/
def Shortens (r : Reader α) : Prop := ∀ l a k, r l = some (a, k) → k <:+ l ∧ k.length < l.length

theorem Shortens.staysIn {r : Reader α} (h : Shortens r) : StaysIn r :=
  fun l a k hr => (h l a k hr).1

theorem skipWhite_suffix (l : List Char) : skipWhite l <:+ l := List.dropWhile_suffix _

theorem suffix_of_tail {c : Char} {k l : List Char} (h : k <:+ l) :
    k <:+ c :: l ∧ k.length < (c :: l).length :=
  ⟨h.trans (List.suffix_cons c l), Nat.lt_succ_of_le h.length_le⟩

theorem expect_suffix {c : Char} {l k : List Char} (h : expect c l = some k) :
    k <:+ l ∧ k.length < l.length := by
  cases l with
  | nil => cases h
  | cons d l =>
    simp only [expect] at h
    split at h
    · cases h
      exact suffix_of_tail (List.suffix_refl _)
    · cases h

theorem strip?_suffix {word : String} {l k : List Char} (h : strip? word l = some k) : k <:+ l := by
  unfold strip? at h
  split at h
  · cases h
    exact List.drop_suffix _ _
  · cases h

theorem length_dropWhile_lt {p : Char → Bool} {l : List Char}
    (h : ¬ (l.takeWhile p).isEmpty = true) : (l.dropWhile p).length < l.length := by
  have hpos : 0 < (l.takeWhile p).length := List.length_pos_iff.mpr (by simpa using h)
  have hsum := congrArg List.length (List.takeWhile_append_dropWhile (p := p) (l := l))
  rw [List.length_append] at hsum
  omega

theorem shortens_readName : Shortens readName := by
  intro l a k h
  unfold readName at h
  dsimp only at h
  split at h
  · cases h
  · rename_i hne
    cases h
    exact ⟨List.dropWhile_suffix _, length_dropWhile_lt hne⟩

theorem shortens_readQuoted (quote : Char) : Shortens (readQuoted quote) := by
  intro l
  fun_induction readQuoted quote l with
  | case1 => intro a k h; cases h
  | case2 => intro a k h; cases h
  | case3 c l ih =>
    intro a k h
    obtain ⟨p, hp, heq⟩ := Option.map_eq_some_iff.mp h
    cases heq
    exact suffix_of_tail ((ih _ _ hp).1.trans (List.suffix_cons c l))
  | case4 l _ _ =>
    intro a k h
    cases h
    exact suffix_of_tail (List.suffix_refl _)
  | case5 c l _ _ _ ih =>
    intro a k h
    obtain ⟨p, hp, heq⟩ := Option.map_eq_some_iff.mp h
    cases heq
    exact suffix_of_tail (ih _ _ hp).1

theorem shortens_readString : Shortens readString := by
  intro l a k h
  cases l with
  | nil => cases h
  | cons c l =>
    obtain ⟨p, hp, heq⟩ := Option.map_eq_some_iff.mp h
    cases heq
    exact suffix_of_tail (shortens_readQuoted c l _ _ hp).1

theorem splitMinus_suffix (l : List Char) : (splitMinus l).2 <:+ l := by
  unfold splitMinus
  split
  · exact List.suffix_cons _ _
  · exact List.suffix_refl _

/-- An integer is not empty; where there is none, nothing is read. -/
theorem readInteger_suffix {l k : List Char} {o : Option Int} (h : readInteger l = some (o, k)) :
    k <:+ l ∧ (o ≠ none → k.length < l.length) := by
  rw [readInteger_eq] at h
  dsimp only at h
  split at h
  · cases h
    exact ⟨List.suffix_refl _, fun hne => (hne rfl).elim⟩
  · rename_i hne
    -- whatever the value is
    generalize (if (splitMinus l).1 = true then _ else _ : Int) = n at h
    split at h
    · cases h
    · cases h
      have hminus := splitMinus_suffix l
      exact ⟨(List.dropWhile_suffix _).trans hminus, fun _ =>
        Nat.lt_of_lt_of_le (length_dropWhile_lt hne) hminus.length_le⟩

theorem shortens_readKey : Shortens readKey := by
  intro l a k h
  unfold readKey at h
  split at h
  · obtain ⟨p, hp, heq⟩ := Option.map_eq_some_iff.mp h
    cases heq
    exact shortens_readString l _ _ hp
  · split at h
    · rename_i hinteger
      cases h
      have := readInteger_suffix hinteger
      exact ⟨this.1, this.2 (by simp)⟩
    · cases h

theorem staysIn_readWord (words : List (String × α)) : StaysIn (readWord words) := by
  intro l a k h
  obtain ⟨w, -, hw⟩ := List.exists_of_findSome?_eq_some h
  obtain ⟨r, hr, heq⟩ := Option.map_eq_some_iff.mp hw
  cases heq
  exact strip?_suffix hr

theorem staysIn_readLiteral : StaysIn readLiteral := by
  intro l a k h
  unfold readLiteral at h
  split at h
  · obtain ⟨p, hp, heq⟩ := Option.map_eq_some_iff.mp h
    cases heq
    exact (shortens_readString l _ _ hp).1
  · split at h
    · rename_i hword
      cases h
      exact staysIn_readWord _ l _ _ hword
    · obtain ⟨x, -, heq⟩ := Option.map_eq_some_iff.mp h
      cases heq
      exact List.dropWhile_suffix _

theorem shortens_readMember : Shortens readMember := by
  intro l a k h
  unfold readMember at h
  split at h
  · cases h
    exact suffix_of_tail (List.suffix_refl _)
  · obtain ⟨p, hp, heq⟩ := Option.map_eq_some_iff.mp h
    cases heq
    exact shortens_readName _ _ _ hp

/-! ### Numbers of steps -/

/-- **A reader to which the number of steps makes no difference**, as long as there are more of them
than characters, and that stays in the text. -/
structure Bounded (f : Nat → Reader α) : Prop where
  staysIn : ∀ n, StaysIn (f n)
  steps : ∀ n m l, l.length < n → l.length < m → f n l = f m l

namespace Bounded

variable {f : Nat → Reader α} {g : α → Nat → Reader β}

theorem of_staysIn {r : Reader α} (h : StaysIn r) : Bounded fun _ => r :=
  ⟨fun _ => h, fun _ _ _ _ _ => rfl⟩

theorem pure (a : α) : Bounded fun _ l => some (a, l) := of_staysIn fun l b k h => by
  cases h
  exact List.suffix_refl _

theorem bind (h : Bounded f) (hg : ∀ a, Bounded (g a)) :
    Bounded fun n l => (f n l).bind fun p => g p.1 n p.2 where
  staysIn n l b k hk := by
    obtain ⟨p, hp, hq⟩ := Option.bind_eq_some_iff.mp hk
    exact ((hg p.1).staysIn n p.2 b k hq).trans (h.staysIn n l p.1 p.2 hp)
  steps n m l hn hm := by
    rw [h.steps n m l hn hm]
    refine Option.bind_congr fun p hp => ?_
    have hle := (h.staysIn m l p.1 p.2 hp).length_le
    exact (hg p.1).steps n m p.2 (by omega) (by omega)

theorem map (h : Bounded f) (u : α → β) :
    Bounded fun n l => (f n l).map fun p => (u p.1, p.2) where
  staysIn n l b k hk := by
    obtain ⟨p, hp, heq⟩ := Option.map_eq_some_iff.mp hk
    cases heq
    exact h.staysIn n l p.1 p.2 hp
  steps n m l hn hm := by rw [h.steps n m l hn hm]

theorem expect (h : Bounded f) (c : Char) :
    Bounded fun n l => (JsonPath.expect c l).bind (f n) where
  staysIn n l b k hk := by
    obtain ⟨r, hr, hk⟩ := Option.bind_eq_some_iff.mp hk
    exact (h.staysIn n r b k hk).trans (expect_suffix hr).1
  steps n m l hn hm := Option.bind_congr fun r hr => by
    have hlt := (expect_suffix hr).2
    exact h.steps n m r (by omega) (by omega)

theorem ite {f' : Nat → Reader α} {c : List Char → Prop} [DecidablePred c] (h : Bounded f)
    (h' : Bounded f') : Bounded fun n l => if c l then f n l else f' n l where
  staysIn n l b k hk := by
    dsimp only at hk
    split at hk
    · exact h.staysIn n l b k hk
    · exact h'.staysIn n l b k hk
  steps n m l hn hm := by
    split
    · exact h.steps n m l hn hm
    · exact h'.steps n m l hn hm

theorem staysIn_cons (h : Bounded f) {n : Nat} {c : Char} {l k : List Char} {a : α}
    (hr : f n l = some (a, k)) : k <:+ c :: l :=
  (h.staysIn n l a k hr).trans (List.suffix_cons c l)

theorem steps_cons (h : Bounded f) {n m : Nat} {c : Char} {l : List Char}
    (hn : (c :: l).length < n) (hm : (c :: l).length < m) : f n l = f m l :=
  h.steps n m l (Nat.lt_of_succ_lt hn) (Nat.lt_of_succ_lt hm)

theorem skipWhite (h : Bounded f) : Bounded fun n l => f n (JsonPath.skipWhite l) where
  staysIn n l b k hk := (h.staysIn n _ b k hk).trans (skipWhite_suffix l)
  steps n m l hn hm := by
    have hle := (skipWhite_suffix l).length_le
    exact h.steps n m _ (by omega) (by omega)

end Bounded

/-- The keys of a union: each of them takes a step, and at least two characters. -/
theorem bounded_readKeys (done : List Key) : Bounded fun n => readKeys n done where
  staysIn n := by
    induction n generalizing done with
    | zero => intro l a k h; cases h
    | succ n ih =>
      intro l a k h
      unfold readKeys at h
      have hskip := skipWhite_suffix l
      split at h
      · rename_i r heq
        rw [heq] at hskip
        obtain ⟨p, hp, h⟩ := Option.bind_eq_some_iff.mp h
        have hkey := (shortens_readKey _ _ _ hp).1.trans (skipWhite_suffix r)
        exact (ih _ p.2 a k h).trans (hkey.trans ((List.suffix_cons _ _).trans hskip))
      · cases h
        exact hskip
  steps n m l hn hm := by
    induction n generalizing m done l with
    | zero => cases hn
    | succ n ih =>
      obtain ⟨m, rfl⟩ := Nat.exists_eq_succ_of_ne_zero (Nat.ne_zero_of_lt hm)
      unfold readKeys
      have hskip := (skipWhite_suffix l).length_le
      split
      · rename_i r heq
        rw [heq, List.length_cons] at hskip
        refine Option.bind_congr fun p hp => ?_
        have hkey := (shortens_readKey _ _ _ hp).2
        have hwhite := (skipWhite_suffix r).length_le
        exact ih _ m p.2 (by omega) (by omega)
      · rfl

/-- The path of a filter: each step of it takes a step, and at least two characters. -/
theorem bounded_readPath (done : List Key) : Bounded fun n => readPath n done where
  staysIn n := by
    induction n generalizing done with
    | zero => intro l a k h; cases h
    | succ n ih =>
      intro l a k h
      unfold readPath at h
      split at h
      · obtain ⟨p, hp, h⟩ := Option.bind_eq_some_iff.mp h
        have hname := (shortens_readName _ _ _ hp).1
        exact (ih _ p.2 a k h).trans (hname.trans (List.suffix_cons _ _))
      · obtain ⟨p, hp, h⟩ := Option.bind_eq_some_iff.mp h
        obtain ⟨r, hr, h⟩ := Option.bind_eq_some_iff.mp h
        have hkey := (expect_suffix hr).1.trans (shortens_readKey _ _ _ hp).1
        exact (ih _ r a k h).trans (hkey.trans (List.suffix_cons _ _))
      · cases h
        exact List.suffix_refl _
  steps n m l hn hm := by
    induction n generalizing m done l with
    | zero => cases hn
    | succ n ih =>
      obtain ⟨m, rfl⟩ := Nat.exists_eq_succ_of_ne_zero (Nat.ne_zero_of_lt hm)
      unfold readPath
      split
      · rw [List.length_cons] at hn hm
        refine Option.bind_congr fun p hp => ?_
        have hname := (shortens_readName _ _ _ hp).2
        exact ih _ m p.2 (by omega) (by omega)
      · rw [List.length_cons] at hn hm
        refine Option.bind_congr fun p hp => Option.bind_congr fun r hr => ?_
        have hkey := (shortens_readKey _ _ _ hp).2
        have hend := (expect_suffix hr).2
        exact ih _ m r (by omega) (by omega)
      · rfl

theorem bounded_readFilter : Bounded readFilter := by
  have hcondition (path : List Key) : Bounded fun n l =>
      if l.head? = some ')' then some (Filter.mk path none, l)
      else (readWord relations l).bind fun p => (readLiteral (skipWhite p.2)).bind fun q =>
        some (Filter.mk path (some (p.1, q.1)), q.2) := by
    refine .ite (.pure _) ((Bounded.of_staysIn (staysIn_readWord relations)).bind
      (g := fun r n l => (readLiteral (skipWhite l)).bind fun q =>
        some (Filter.mk path (some (r, q.1)), q.2)) fun r => ?_)
    exact ((Bounded.of_staysIn staysIn_readLiteral).bind fun b =>
      .pure (Filter.mk path (some (r, b)))).skipWhite
  exact Bounded.skipWhite (Bounded.expect ((bounded_readPath []).bind fun path =>
    (hcondition path).skipWhite) '@')

theorem staysIn_readInteger : StaysIn readInteger := fun _ _ _ h => (readInteger_suffix h).1

theorem bounded_readBehindInteger (first : Option Int) :
    Bounded fun n => readBehindInteger n first := by
  have hslice : Bounded fun _ r =>
      (readInteger r).bind fun p => some (Selector.slice first p.1, p.2) :=
    (Bounded.of_staysIn staysIn_readInteger).bind fun last => .pure (Selector.slice first last)
  have hindex (i : Int) : Bounded fun n r =>
      (readKeys n [.index i] r).bind fun p => some (Selector.keys p.1, p.2) :=
    (bounded_readKeys [.index i]).bind fun keys => .pure (Selector.keys keys)
  have hname : Bounded fun n r => (readKey r).bind fun p => (readKeys n [p.1] p.2).bind fun q =>
      some (Selector.keys q.1, q.2) :=
    (Bounded.of_staysIn shortens_readKey.staysIn).bind
      (g := fun k n r => (readKeys n [k] r).bind fun q => some (Selector.keys q.1, q.2))
      fun k => (bounded_readKeys [k]).bind fun keys => .pure (Selector.keys keys)
  constructor
  · intro n r a k h
    unfold readBehindInteger at h
    split at h
    · exact hslice.staysIn_cons (n := n) h
    · exact (hindex _).staysIn n _ a k h
    · exact hname.staysIn n _ a k h
  · intro n m r hn hm
    unfold readBehindInteger
    split
    · rfl
    · exact (hindex _).steps n m _ hn hm
    · exact hname.steps n m _ hn hm

theorem bounded_readBracketed : Bounded readBracketed := by
  have hfilter : Bounded fun n l => (expect '(' l).bind fun l => (readFilter n l).bind fun p =>
      (expect ')' (skipWhite p.2)).bind fun l => some (Selector.filter p.1, l) :=
    .expect (bounded_readFilter.bind fun f =>
      .skipWhite (.expect (.pure (Selector.filter f)) ')')) '('
  have hother : Bounded fun n l =>
      (readInteger l).bind fun p => readBehindInteger n p.1 p.2 :=
    (Bounded.of_staysIn staysIn_readInteger).bind bounded_readBehindInteger
  constructor
  · intro n l a k h
    unfold readBracketed at h
    split at h
    · cases h
      exact List.suffix_cons _ _
    · exact hfilter.staysIn_cons h
    · exact hother.staysIn n l a k h
  · intro n m l hn hm
    unfold readBracketed
    split
    · rfl
    · exact hfilter.steps_cons hn hm
    · exact hother.steps n m l hn hm

theorem bounded_readBracket : Bounded readBracket :=
  .skipWhite (bounded_readBracketed.bind fun s => .skipWhite (.expect (.pure s) ']'))

theorem bounded_bracketSegment (u : Selector → Segment) : Bounded fun n l =>
    (readBracket n l).map fun p => (u p.1, p.2) := bounded_readBracket.map u

theorem bounded_memberSegment (u : Selector → Segment) : Bounded fun _ l =>
    (readMember l).map fun p => (u p.1, p.2) :=
  (Bounded.of_staysIn shortens_readMember.staysIn).map u

/-- **A segment is not empty.** -/
theorem shortens_readSegment (n : Nat) : Shortens (readSegment n) := by
  intro l a k h
  unfold readSegment at h
  split at h
  · rename_i r
    have hk := (bounded_bracketSegment .descendant).staysIn n r a k h
    exact suffix_of_tail (hk.trans (List.suffix_append ['.', '['] r))
  · rename_i r _
    have hk := (bounded_memberSegment .descendant).staysIn n r a k h
    exact suffix_of_tail (hk.trans (List.suffix_cons '.' r))
  · exact suffix_of_tail ((bounded_memberSegment .child).staysIn n _ a k h)
  · exact suffix_of_tail ((bounded_bracketSegment .child).staysIn n _ a k h)
  · cases h

theorem bounded_readSegment : Bounded readSegment where
  staysIn n := (shortens_readSegment n).staysIn
  steps n m l hn hm := by
    unfold readSegment
    split
    · simp only [List.length_cons] at hn hm
      exact (bounded_bracketSegment .descendant).steps n m _ (by omega) (by omega)
    · rfl
    · rfl
    · exact (bounded_bracketSegment .child).steps_cons hn hm
    · rfl

/-- The segments of a text: each takes a step, and at least one character. -/
theorem readSegments_steps {bound bound' n m : Nat} {l : List Char} (hbound : l.length < bound)
    (hbound' : l.length < bound') (hn : l.length ≤ n) (hm : l.length ≤ m) (done : List Segment) :
    readSegments bound n done l = readSegments bound' m done l := by
  induction n generalizing m done l with
  | zero =>
    obtain rfl := List.eq_nil_of_length_eq_zero (Nat.le_zero.mp hn)
    simp [readSegments]
  | succ n ih =>
    by_cases hl : l = []
    · subst hl
      simp [readSegments]
    · have hpos := Nat.lt_of_lt_of_le (List.length_pos_iff.mpr hl) hm
      obtain ⟨m, rfl⟩ := Nat.exists_eq_succ_of_ne_zero (Nat.ne_zero_of_lt hpos)
      rw [readSegments_succ hl, readSegments_succ hl,
        bounded_readSegment.steps bound bound' l hbound hbound']
      refine Option.bind_congr fun p hp => ?_
      have hlt := (shortens_readSegment _ _ _ _ hp).2
      exact ih (by omega) (by omega) (by omega) (by omega) _

/-- **No text is rejected for want of steps**: more of them change nothing. -/
theorem read?_steps {text : String} {l : List Char} (h : text.toList = '$' :: l) {n m : Nat}
    (hn : text.length < n) (hm : text.length < m) : readSegments n m [] l = read? text := by
  have hlength : text.length = l.length + 1 := by
    rw [← String.length_toList, h, List.length_cons]
  unfold read?
  simp only [h, List.length_cons]
  exact readSegments_steps (by omega) (by omega) (by omega) (by omega) []

end HttpScript.JsonPath
