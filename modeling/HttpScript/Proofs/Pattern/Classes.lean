import HttpScript.Proofs.Pattern.Prolong

/-! # Classes and escapes with a parenthesis behind them

No escape and no class looks at a closing text: what begins with a brace or a bracket ends with one,
and the operations and names of a class have no parenthesis.

* `prolongs_readEscape`, `prolongs_readClass`: escapes and classes.
* `classOp?_append`, `namedClass?_append`: what is recognized at the front of a class. -/

namespace HttpScript.Pattern

open Text

/-! ### Sets -/

theorem prolongs_permitted (s : CharSet) : Prolongs (permitted s) fun _ => permitted s :=
  Prolongs.flags.bind fun _ => .ite (fun _ => .pure) fun _ => .refuse

theorem prolongs_readBraced {n : Nat} {m : List Char → Nat} (hm : ∀ k, Closing k → n ≤ m k)
    (done : List Char) : Prolongs (readBraced n done) fun k => readBraced (m k) done := by
  induction n generalizing m done with
  | zero => exact .refuse
  | succ n ih =>
    refine Prolongs.step (r := fun n => readBraced n done) hm ?_
    refine prolongs_nextSkip.bind fun c => .ite (fun _ => .pure) fun _ => ih (fun k hk => ?_) _
    exact Nat.le_sub_one_of_lt (hm k hk)

variable {D : Dialect}

theorem prolongs_readProperty (negated : Bool) :
    Prolongs (readProperty D negated) fun _ => readProperty D negated := by
  refine prolongs_skip.bind fun _ => Prolongs.flags.bind fun f => ?_
  refine .ite (fun _ => .refuse_bind) fun _ => ?_
  refine Prolongs.peek (fun c => .ite (fun _ => ?_) fun _ => ?_) ?_ ?_
  · refine prolongs_nextSkip.bind fun _ => Prolongs.rest (fun l => ?_) ?_
    · refine (prolongs_readBraced (m := fun k => (l ++ k).length + 1) (fun k _ => ?_) _).bind
        fun name => ?_
      · simp
      · cases D.property? name with
        | some s => exact .pure
        | none => exact .refuse_bind
    · refine (prolongs_readBraced (fun _ _ => le_rfl) _).bind fun name => ?_
      cases D.property? name with
      | some s => exact .pure
      | none => exact .refuse_bind
  all_goals
    refine Prolongs.next.bind fun c => .ite (fun _ => .refuse_bind) fun _ => ?_
    cases D.property? [c] with
    | some s => exact .pure
    | none => exact .refuse_bind

/-! ### Escapes -/

theorem prolongs_readBoundary : Prolongs (readBoundary D) fun _ => readBoundary D := by
  refine Prolongs.flags.bind fun f => Prolongs.peek (fun c => ?_) .pure .pure
  refine .ite (fun _ => .pure) fun _ => Prolongs.mark fun l l' hback => ?_
  refine prolongs_nextSkip.bind fun _ => Prolongs.peek (fun c => ?_) .refuse .refuse
  refine .ite (fun _ => hback.bind fun _ => .pure) fun _ => ?_
  refine (prolongs_readDigits rfl _).rest_bind fun kind => (Prolongs.expect _).bind fun _ => ?_
  split
  · exact .pure
  · exact .pure
  · exact .pure
  · exact .pure
  · exact .refuse

theorem prolongs_readEscape : Prolongs (readEscape D) fun _ => readEscape D := by
  refine Prolongs.flags.bind fun f => Prolongs.next.bind fun c => .ite (fun _ => .pure) fun _ => ?_
  split
  · exact (prolongs_readCodePoint _).bind fun _ => .pure
  · exact (prolongs_readCodePoint _).bind fun _ => .pure
  · exact (prolongs_readCodePoint _).bind fun _ => .pure
  · exact (prolongs_readProperty _).bind fun _ => .pure
  · exact (prolongs_readProperty _).bind fun _ => .pure
  all_goals first
    | exact .pure
    | exact (prolongs_permitted _).bind fun _ => .pure
    | exact prolongs_readBoundary.bind fun _ => .pure
    | exact .refuse

/-! ### Classes -/

theorem prolongs_readClassAtom : Prolongs (readClassAtom D) fun _ => readClassAtom D :=
  Prolongs.next.bind fun _ => .ite (fun _ => prolongs_readEscape) fun _ => .pure

theorem prolongs_classChar (x : Atom) : Prolongs (classChar x) fun _ => classChar x := by
  cases x with
  | char c b => exact Prolongs.flags.bind fun f => .ite (fun _ => .pure) fun _ => .refuse
  | set s => exact .refuse
  | look l => exact .refuse

theorem prolongs_atomSet (x : Atom) : Prolongs (atomSet x) fun _ => atomSet x := by
  cases x with
  | char c b => exact (prolongs_classChar _).bind fun _ => .pure
  | set s => exact .pure
  | look l => exact .refuse

/-- The next character to be seen is the same with a closing text behind, unless that has it. -/
theorem head_visibleRest_append (f : Flags) (l : List Char) {k : List Char} (hk : Closing k)
    {c : Char} (hc : c ≠ ')') :
    (visibleRest f (l ++ k)).head? = some c ↔ (visibleRest f l).head? = some c := by
  rcases visibleRest_append f l with h | ⟨hnil, h⟩
  · rw [h k hk]
    cases visibleRest f l with
    | nil =>
      obtain ⟨r, rfl⟩ := hk.eq_cons
      simp [Ne.symm hc]
    | cons d r => rfl
  · rw [h k hk, hnil]

theorem cons_ne_cons {c d : Char} (h : c ≠ d) (l : List Char) : ∀ r, c :: l = d :: r → False :=
  fun _ he => h (List.cons.inj he).1

theorem prolongs_readClassRange : Prolongs (readClassRange D) fun _ => readClassRange D := by
  refine prolongs_readClassAtom.bind fun first => prolongs_skip.bind fun _ => ?_
  refine Prolongs.flags.bind fun f => Prolongs.rest_of_cons rfl fun c l => ?_
  by_cases hc : c = '-'
  · subst hc
    refine .ite_iff (fun k hk => ?_) (fun _ => prolongs_atomSet _) fun _ => ?_
    · rw [head_visibleRest_append f l hk (by decide), head_visibleRest_append f l hk (by decide)]
    · refine prolongs_nextSkip.bind fun _ => prolongs_readClassAtom.bind fun second => ?_
      refine (prolongs_classChar _).bind fun a => (prolongs_classChar _).bind fun b => ?_
      exact .ite (fun _ => .refuse_bind) fun _ => .pure
  · refine Prolongs.congr (x := fun _ => atomSet first) ?_ fun k _ => ?_
    · have := cons_ne_cons hc l
      simp only
      exact prolongs_atomSet _
    · have := cons_ne_cons hc (l ++ k)
      simp only

theorem isLoop_readHyphens :
    IsLoop readHyphens (· == '-') id fun _ _ => do
      let _ ← nextSkip
      if (← peek).isNone then refuse
      return [(45, 45)] where
  stops n x s h := by
    obtain ⟨chars, f, g, names⟩ := s
    cases n with
    | zero => rfl
    | succ n =>
      cases chars with
      | nil => rfl
      | cons c l =>
        have hc : some c ≠ some '-' := by simpa using h c rfl
        change (if some c = some '-' then _ else _ : Reader CharSet) _ = _
        rw [if_neg hc]
        rfl
  goes n x s c h hc := by
    obtain ⟨chars, f, g, names⟩ := s
    cases chars with
    | nil => cases h
    | cons d l =>
      cases h
      have hc : some c = some '-' := by simpa using hc
      change (if some c = some '-' then _ else _ : Reader CharSet) _ = _
      rw [if_pos hc]
      obtain rfl := Option.some.inj hc
      have hnext : nextSkip ⟨'-' :: l, f, g, names⟩
          = some ('-', ⟨visibleRest f l, f, g, names⟩) := rfl
      rw [bind_apply, bind_apply, bind_apply, hnext]
      cases visibleRest f l <;> rfl
  shortens c x s y t h := by
    obtain ⟨⟨d, t'⟩, hnext, h⟩ := Option.bind_eq_some_iff.1 h
    have hshort := nextSkip_length hnext
    obtain ⟨chars, f, g, names⟩ := t'
    cases chars with
    | nil => cases h
    | cons e l =>
      cases h
      exact hshort
  prolongs c x := by
    refine prolongs_nextSkip.bind fun _ => Prolongs.peek (fun _ => .pure) .refuse_bind .refuse_bind

theorem prolongs_openClass : Prolongs openClass fun _ => openClass := by
  refine prolongs_skip.bind fun _ => (Prolongs.accept (by decide)).bind fun negated => ?_
  refine prolongs_skip.bind fun _ => (isLoop_readHyphens.prolongs_rest rfl _).rest_bind ?_
  refine fun hyphens => Prolongs.peek (fun c => ?_) ?_ ?_
  · exact .ite (fun _ => prolongs_nextSkip.bind fun _ => .pure) fun _ => .pure
  · simp only [reduceCtorEq, and_false, if_false]
    exact .pure
  · refine .ite_iff (fun k hk => by simp) (fun h => ?_) fun _ => .pure
    cases h.2

theorem classOp?_append {k : List Char} (hk : Closing k) (l : List Char) :
    classOp? (l ++ k) = classOp? l := by
  cases h : classOp? l with
  | some op =>
    unfold classOp? at h
    split at h
    all_goals cases h
    all_goals rfl
  | none =>
    unfold classOp? at h ⊢
    split at h
    case h_4 hinter hdiff hsymm =>
      have hinter' : ∀ r, l ++ k = '&' :: '&' :: r → False :=
        hk.not_prefix ['&', '&'] (by decide) hinter
      have hdiff' : ∀ r, l ++ k = '-' :: '-' :: r → False :=
        hk.not_prefix ['-', '-'] (by decide) hdiff
      have hsymm' : ∀ r, l ++ k = '~' :: '~' :: r → False :=
        hk.not_prefix ['~', '~'] (by decide) hsymm
      simp only
    all_goals cases h

/-- The class named by what stands before the first colon, if a bracket stands behind that. -/
def nameEnd? (negated : Bool) (l : List Char) : Option (CharSet × List Char) :=
  match l.drop (l.takeWhile (· != ':')).length with
  | ':' :: ']' :: r =>
    (CharSet.asciiClass? (.ofList (l.takeWhile (· != ':')))).map fun s => (signed negated s, r)
  | _ => none

theorem nameEnd?_append {k : List Char} (hk : Closing k) (negated : Bool) (l : List Char) :
    nameEnd? negated (l ++ k) = (nameEnd? negated l).map fun p => (p.1, p.2 ++ k) := by
  have hdrop : ∀ l : List Char,
      l.drop (l.takeWhile (· != ':')).length = l.dropWhile (· != ':') := fun l => by
    have h : (l.takeWhile (· != ':') ++ l.dropWhile (· != ':')).drop
        (l.takeWhile (· != ':')).length = l.dropWhile (· != ':') := List.drop_left
    rwa [List.takeWhile_append_dropWhile] at h
  have hclosing : k.dropWhile (· != ':') = [] := by rcases hk with rfl | rfl <;> rfl
  unfold nameEnd?
  simp only [hdrop]
  rw [List.dropWhile_append, List.takeWhile_append, hclosing]
  cases hname : l.dropWhile (· != ':') with
  | nil => rfl
  | cons c r =>
    have hlength : (l.takeWhile (· != ':')).length ≠ l.length := by
      have h := congrArg List.length (List.takeWhile_append_dropWhile (p := (· != ':')) (l := l))
      rw [hname, List.length_append, List.length_cons] at h
      omega
    rw [if_neg hlength]
    simp only [List.isEmpty_cons, Bool.false_eq_true, if_false]
    obtain ⟨d, q, rfl⟩ := hk.eq_cons
    by_cases hc : c = ':'
    · cases r with
      | nil =>
        obtain ⟨d, q, rfl⟩ := hk.eq_cons
        simp
      | cons e r =>
        by_cases he : e = ']'
        · subst hc he
          simp [Function.comp_def]
        · simp [hc, he]
    · simp [hc]

theorem namedClass?_plain {l : List Char} (h : ∀ r, l = '^' :: r → False) :
    namedClass? ('[' :: ':' :: l) = nameEnd? false l := by
  simp only [namedClass?]
  rfl

theorem namedClass?_append {k : List Char} (hk : Closing k) (l : List Char) :
    namedClass? (l ++ k) = (namedClass? l).map fun p => (p.1, p.2 ++ k) := by
  rcases l with _ | ⟨c, _ | ⟨d, l⟩⟩
  · rcases hk with rfl | rfl <;> rfl
  · obtain ⟨r, rfl⟩ := hk.eq_cons
    simp [namedClass?]
  · by_cases hcd : c = '[' ∧ d = ':'
    · obtain ⟨rfl, rfl⟩ := hcd
      rcases l with _ | ⟨e, l⟩
      · rcases hk with rfl | rfl <;> rfl
      · by_cases he : e = '^'
        · subst he
          exact nameEnd?_append hk true l
        · simp only [List.cons_append]
          rw [namedClass?_plain (cons_ne_cons he _), namedClass?_plain (cons_ne_cons he _)]
          exact nameEnd?_append hk false (e :: l)
    · have hnone : ∀ l, namedClass? (c :: d :: l) = none := fun l => by
        unfold namedClass?
        split
        · rename_i h
          cases h
          exact absurd ⟨rfl, rfl⟩ hcd
        · rfl
      simp only [List.cons_append, hnone, Option.map_none]

theorem prolongs_readClassItems {n : Nat} {m : List Char → Nat} (hm : ∀ k, Closing k → n ≤ m k)
    (negated : Bool) (waiting : Option (CharSet × ClassOp)) (items : CharSet) :
    Prolongs (readClassItems D n negated waiting items) fun k =>
      readClassItems D (m k) negated waiting items := by
  induction n generalizing m negated waiting items with
  | zero => exact .refuse
  | succ n ih =>
    have hn : ∀ k, Closing k → n ≤ m k - 1 := fun k hk => Nat.le_sub_one_of_lt (hm k hk)
    refine Prolongs.step (r := fun n => readClassItems D n negated waiting items) hm ?_
    refine prolongs_skip.bind fun _ => Prolongs.flags.bind fun f => ?_
    refine Prolongs.rest_of_cons rfl fun c l => ?_
    cases hop : classOp? (c :: l) with
    | some op =>
      refine Prolongs.congr (x := fun k => do
        goTo ((c :: l).drop 2 ++ k)
        readClassItems D (m k - 1) negated (some (closeOperand D f waiting items, op)) []) ?_ ?_
      · exact (Prolongs.goTo _).bind fun _ => ih hn _ _ _
      · intro k hk
        have hop' : classOp? (c :: (l ++ k)) = some op := (classOp?_append hk (c :: l)).trans hop
        have hdrop : (c :: (l ++ k)).drop 2 = (c :: l).drop 2 ++ k := by
          cases l with
          | nil => simp [classOp?] at hop
          | cons d l => rfl
        simp only [hop', hdrop]
    | none =>
      have hop' : ∀ k, Closing k → classOp? (c :: (l ++ k)) = none := fun k hk =>
        (classOp?_append hk (c :: l)).trans hop
      by_cases hclose : c = ']'
      · subst hclose
        refine Prolongs.congr (x := fun k => do
          goTo (l ++ k)
          permitted (signed negated (folded D f (closeOperand D f waiting items)))) ?_ ?_
        · exact (Prolongs.goTo _).bind fun _ => prolongs_permitted _
        · intro k hk
          simp only [hop' k hk]
      · by_cases hopen : c = '['
        · subst hopen
          cases hnamed : namedClass? ('[' :: l) with
          | some p =>
            obtain ⟨s, r⟩ := p
            refine Prolongs.congr (x := fun k => do
              goTo (r ++ k)
              readClassItems D (m k - 1) negated waiting (items.union (folded D f s))) ?_ ?_
            · dsimp only
              exact (Prolongs.goTo _).bind fun _ => ih hn _ _ _
            · intro k hk
              have hnamed' : namedClass? ('[' :: (l ++ k)) = some (s, r ++ k) := by
                rw [← List.cons_append, namedClass?_append hk, hnamed]
                rfl
              simp only [hop' k hk, hnamed']
          | none =>
            refine Prolongs.congr (x := fun k => do
              goTo (l ++ k)
              let x ← openClass
              let inner ← readClassItems D (m k - 1) x.1 none x.2
              readClassItems D (m k - 1) negated waiting (items.union inner)) ?_ ?_
            · dsimp only
              refine (Prolongs.goTo _).bind fun _ => prolongs_openClass.bind fun x => ?_
              exact (ih hn _ _ _).bind fun inner => ih hn _ _ _
            · intro k hk
              have hnamed' : namedClass? ('[' :: (l ++ k)) = none := by
                rw [← List.cons_append, namedClass?_append hk, hnamed]
                rfl
              simp only [hop' k hk, hnamed']
        · refine Prolongs.congr (x := fun k => do
            let s ← readClassRange D
            readClassItems D (m k - 1) negated waiting (items.union s)) ?_ ?_
          · have := cons_ne_cons hclose l
            have := cons_ne_cons hopen l
            simp only
            exact prolongs_readClassRange.bind fun s => ih hn _ _ _
          · intro k hk
            have := cons_ne_cons hclose (l ++ k)
            have := cons_ne_cons hopen (l ++ k)
            simp only [hop' k hk]

theorem prolongs_readClass : Prolongs (readClass D) fun _ => readClass D := by
  refine prolongs_openClass.bind fun x => Prolongs.rest (fun l => ?_) ?_
  · exact prolongs_readClassItems (m := fun k => (l ++ k).length + 1) (fun k _ => by simp) _ _ _
  · exact prolongs_readClassItems (fun _ _ => le_rfl) _ _ _

end HttpScript.Pattern
