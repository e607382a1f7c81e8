import HttpScript.Proofs.Grammar.Backtracking
import HttpScript.Proofs.Grammar.Logging

/-! # Which error is reported

While a text is read only those errors are kept that can still be the deepest one
(`State.candidates`). That is enough: the error reported for a text is the one that all errors
ever logged call for.

* `Selects`: the error that a list of errors calls for, said without a search for it.
* `State.candidates_eq`: what is kept are the deepest errors of the history, in order, whatever the
  order in which they came.
* `IsRule.alike`: what was kept at some time can stand in for the history before it in everything
  that follows.
* `reported_deepest`: all of this for a text that is not a script, with where the error stands. -/

namespace HttpScript.Grammar

open Script

variable {α : Type} {text : List Char} {l k : List ParseError} {e e' : ParseError} {m : Nat}

/-! ### The deepest errors -/

/-- **The highest offset** of some errors. -/
structure IsDepth (l : List ParseError) (m : Nat) : Prop where
  attained : ∃ e ∈ l, e.offset = m
  le : ∀ e ∈ l, e.offset ≤ m

theorem depth?_eq_some_iff : depth? l = some m ↔ IsDepth l m := by
  unfold depth?
  rw [List.max?_eq_some_iff]
  constructor
  · rintro ⟨hmem, hle⟩
    obtain ⟨e, he, rfl⟩ := List.mem_map.mp hmem
    exact ⟨⟨e, he, rfl⟩, fun e' he' => hle _ (List.mem_map_of_mem he')⟩
  · rintro ⟨⟨e, he, rfl⟩, hle⟩
    refine ⟨List.mem_map_of_mem he, fun n hn => ?_⟩
    obtain ⟨e', he', rfl⟩ := List.mem_map.mp hn
    exact hle e' he'

theorem IsDepth.unique {n : Nat} (h : IsDepth l m) (hn : IsDepth l n) : m = n :=
  Option.some.inj ((depth?_eq_some_iff.mpr h).symm.trans (depth?_eq_some_iff.mpr hn))

theorem exists_isDepth (h : l ≠ []) : ∃ m, IsDepth l m := by
  have hdepth : depth? l ≠ none := by simpa [depth?] using h
  obtain ⟨m, hm⟩ := Option.ne_none_iff_exists'.mp hdepth
  exact ⟨m, depth?_eq_some_iff.mp hm⟩

theorem IsDepth.candidates_eq (h : IsDepth l m) :
    candidates l = l.filter (·.offset = m) := by
  unfold candidates
  rw [depth?_eq_some_iff.mpr h]
  simp only [Option.some.injEq]

/-- The deepest errors are as deep as all of them. -/
theorem IsDepth.candidates (h : IsDepth l m) : IsDepth (candidates l) m := by
  rw [h.candidates_eq]
  obtain ⟨e, he, hm⟩ := h.attained
  exact ⟨⟨e, List.mem_filter.mpr ⟨he, decide_eq_true hm⟩, hm⟩,
    fun e' he' => h.le e' (List.mem_of_mem_filter he')⟩

theorem isDepth_candidates_iff : IsDepth (candidates l) m ↔ IsDepth l m := by
  refine ⟨fun h => ?_, IsDepth.candidates⟩
  have hl : l ≠ [] := by
    rintro rfl
    obtain ⟨e, he, -⟩ := h.attained
    cases he
  obtain ⟨n, hn⟩ := exists_isDepth hl
  rwa [h.unique hn.candidates]

theorem candidates_candidates (l : List ParseError) :
    candidates (candidates l) = candidates l := by
  by_cases hl : l = []
  · subst hl
    rfl
  · obtain ⟨m, hm⟩ := exists_isDepth hl
    rw [hm.candidates.candidates_eq, hm.candidates_eq, List.filter_filter]
    simp only [Bool.and_self]

/-! ### What is kept while errors come in -/

/-- The depth with one more error: it is higher up, at the depth, or deeper. -/
theorem IsDepth.concat (h : IsDepth l m) (e : ParseError) :
    IsDepth (l ++ [e]) (max m e.offset) := by
  obtain ⟨d, hd, rfl⟩ := h.attained
  constructor
  · rcases Nat.le_total d.offset e.offset with hle | hle
    · exact ⟨e, by simp, by omega⟩
    · exact ⟨d, List.mem_append_left _ hd, by omega⟩
  · intro e' he'
    rcases List.mem_append.mp he' with he' | he'
    · have := h.le e' he'
      omega
    · rw [List.mem_singleton.mp he']
      omega

/-- **One more error.** If only the deepest errors were kept before it, those are kept that are the
deepest with it. -/
theorem candidates_concat (l : List ParseError) (e : ParseError) :
    candidates (l ++ [e]) = State.keepDeepest (candidates l) e := by
  by_cases hl : l = []
  · subst hl
    simp [candidates, depth?, State.keepDeepest]
  obtain ⟨m, hm⟩ := exists_isDepth hl
  -- the first error kept stands at the depth
  obtain ⟨d, kept, hkept⟩ : ∃ d kept, candidates l = d :: kept := by
    obtain ⟨d, hd, -⟩ := hm.candidates.attained
    exact List.exists_cons_of_ne_nil (List.ne_nil_of_mem hd)
  have hd : d.offset = m := by
    have hmem : d ∈ l.filter (·.offset = m) := by
      rw [← hm.candidates_eq, hkept]
      exact List.mem_cons_self ..
    exact of_decide_eq_true (List.mem_filter.mp hmem).2
  rw [(hm.concat e).candidates_eq, List.filter_append]
  unfold State.keepDeepest
  rw [hkept]
  dsimp only
  rw [← hkept, hm.candidates_eq, hd]
  rcases Nat.lt_trichotomy e.offset m with hlt | heq | hgt
  · -- dropped
    rw [if_pos hlt, Nat.max_eq_left (Nat.le_of_lt hlt), List.filter_cons_of_neg (by simp; omega)]
    simp
  · -- it joins them
    rw [if_neg (by omega), if_neg (by omega), Nat.max_eq_left (by omega),
      List.filter_cons_of_pos (by simpa using heq)]
    rfl
  · -- it replaces them
    have hnone : l.filter (·.offset = e.offset) = [] :=
      List.filter_eq_nil_iff.mpr fun e' he' => by
        have := hm.le e' he'
        simp
        omega
    rw [if_neg (by omega), if_pos hgt, Nat.max_eq_right (Nat.le_of_lt hgt), hnone,
      List.filter_cons_of_pos (by simp)]
    rfl

/-- **What is kept are the deepest errors of the history**, in order. -/
theorem State.candidates_eq (s : State) : s.candidates = Grammar.candidates s.history := by
  unfold State.candidates
  induction s.history using List.reverseRecOn with
  | nil => rfl
  | append_singleton l e ih => rw [List.foldl_append, ih, candidates_concat]; rfl

/-- What is kept of the errors that follow others depends on what was kept of those only. -/
theorem candidates_append (l k : List ParseError) :
    candidates (l ++ k) = k.foldl State.keepDeepest (candidates l) := by
  induction k using List.reverseRecOn with
  | nil => simp
  | append_singleton k e ih =>
    rw [← List.append_assoc, candidates_concat, ih, List.foldl_append]
    rfl

theorem candidates_candidates_concat (l : List ParseError) (e : ParseError) :
    candidates (candidates l ++ [e]) = candidates (l ++ [e]) := by
  rw [candidates_concat, candidates_concat, candidates_candidates]

/-! ### Rules and what is kept -/

/-- States that differ in their histories only, and not in what was kept of these. -/
structure State.Alike (s t : State) : Prop where
  cursor_eq : t.cursor = s.cursor
  candidates_eq : t.candidates = s.candidates

/-- Results that differ in the histories only. -/
inductive AlikeResults :
    EStateM.Result ParseError State α → EStateM.Result ParseError State α → Prop
  | ok {a : α} {s t : State} (h : s.Alike t) : AlikeResults (.ok a s) (.ok a t)
  | error {e : ParseError} {s t : State} (h : s.Alike t) : AlikeResults (.error e s) (.error e t)

theorem State.Alike.logged {s t : State} (h : s.Alike t) (c : Cursor) (log : List ParseError) :
    State.Alike ⟨c, log ++ s.log⟩ ⟨c, log ++ t.log⟩ where
  cursor_eq := rfl
  candidates_eq := by
    have hkept : Grammar.candidates t.history = Grammar.candidates s.history := by
      rw [← t.candidates_eq, ← s.candidates_eq, h.candidates_eq]
    rw [State.candidates_eq, State.candidates_eq]
    unfold State.history at hkept ⊢
    rw [List.reverse_append, List.reverse_append, candidates_append, candidates_append, hkept]

/-- A run is the one without errors before it, with these put below what it logs. -/
theorem IsRule.run_eq {r : Rule α} (hr : IsRule r) (s : State) :
    r s = loggedAfter s.log (r ⟨s.cursor, []⟩) :=
  hr.writesLog ⟨s.cursor, []⟩ s.log

/-- **A rule does the same in states of whose histories the same was kept.** -/
theorem IsRule.alike {r : Rule α} (hr : IsRule r) {s t : State} (h : s.Alike t) :
    AlikeResults (r s) (r t) := by
  rw [hr.run_eq s, hr.run_eq t, h.cursor_eq]
  cases r ⟨s.cursor, []⟩ with
  | ok a u => exact .ok (h.logged u.cursor u.log)
  | error e u => exact .error (h.logged u.cursor u.log)

/-! ### The error that is called for -/

/-- **The error that the errors `l` of a text call for**, where `m` is their highest offset: the
only one there, or what stands there in the text. Equal errors are several. -/
inductive Selects (text : List Char) (l : List ParseError) (m : Nat) : ParseError → Prop
  | alone {e : ParseError} (h : l.filter (·.offset = m) = [e]) : Selects text l m e
  | char (h : 2 ≤ (l.filter (·.offset = m)).length) {c : Char} (hc : text[m]? = some c) :
    Selects text l m (.fault (.unexpectedChar c) (Position.start.after (text.take m)))
  | atEnd (h : 2 ≤ (l.filter (·.offset = m)).length) (hm : m = text.length) :
    Selects text l m (.fault .unexpectedEnd (Position.start.after text))

theorem Selects.unique (h : Selects text l m e) (h' : Selects text l m e') : e = e' := by
  cases h with
  | alone h =>
    cases h' with
    | alone h' => exact (List.cons.inj (h.symm.trans h')).1
    | char h' _ => simp [h] at h'
    | atEnd h' _ => simp [h] at h'
  | char h hc =>
    cases h' with
    | alone h' => simp [h'] at h
    | char _ hc' => rw [Option.some.inj (hc.symm.trans hc')]
    | atEnd _ hm => simp [hm] at hc
  | atEnd h hm =>
    cases h' with
    | alone h' => simp [h'] at h
    | char _ hc => simp [hm] at hc
    | atEnd _ _ => rfl

theorem Selects.offset_eq (h : Selects text l m e) : e.offset = m := by
  cases h with
  | alone h =>
    have hmem : e ∈ l.filter (·.offset = m) := h ▸ List.mem_singleton_self e
    exact of_decide_eq_true (List.mem_filter.mp hmem).2
  | char _ hc =>
    have hlt := (List.getElem?_eq_some_iff.mp hc).1
    simp only [ParseError.offset, ParseError.position, Position.offset_after, List.length_take]
    simp only [Position.start]
    omega
  | atEnd _ hm =>
    simp only [ParseError.offset, ParseError.position, Position.offset_after]
    simp only [Position.start]
    omega

/-- What is called for depends on the deepest errors only. -/
theorem Selects.of_filter_eq (h : Selects text l m e)
    (hk : k.filter (·.offset = m) = l.filter (·.offset = m)) : Selects text k m e := by
  cases h with
  | alone h => exact .alone (hk.trans h)
  | char h hc => exact .char (hk ▸ h) hc
  | atEnd h hm => exact .atEnd (hk ▸ h) hm

theorem le_offset_lastDeepest (first : ParseError) (l : List ParseError) :
    ∀ e ∈ first :: l, e.offset ≤ (lastDeepest first l).offset := by
  unfold lastDeepest
  induction l generalizing first with
  | nil => simp
  | cons d l ih =>
    intro e he
    rw [List.foldl_cons]
    have hbest := ih (if first.offset ≤ d.offset then d else first)
    have hstep : e.offset ≤ (if first.offset ≤ d.offset then d else first).offset ∨ e ∈ l := by
      simp only [List.mem_cons] at he
      rcases he with rfl | rfl | he
      · left; split_ifs <;> omega
      · left; split_ifs <;> omega
      · exact .inr he
    rcases hstep with hle | he
    · exact Nat.le_trans hle (hbest _ (List.mem_cons_self ..))
    · exact hbest e (List.mem_cons_of_mem _ he)

theorem lastDeepest_mem_of_mem {first : ParseError} (h : first ∈ l) : lastDeepest first l ∈ l := by
  rcases lastDeepest_mem first l with hfirst | hmem
  · rwa [hfirst]
  · exact hmem

theorem IsDepth.offset_lastDeepest {first : ParseError} (h : IsDepth l m) (hfirst : first ∈ l) :
    (lastDeepest first l).offset = m := by
  obtain ⟨e, he, rfl⟩ := h.attained
  exact Nat.le_antisymm (h.le _ (lastDeepest_mem_of_mem hfirst))
    (le_offset_lastDeepest _ _ e (List.mem_cons_of_mem _ he))

/-- The character at the depth of several errors, or the end of the text, is called for. -/
theorem Selects.unexpectedAt {chars : Array Char} {p : Position} (hchars : chars.toList = text)
    (hp : p.IsExact text) (hm : p.offset = m) (h : 2 ≤ (l.filter (·.offset = m)).length) :
    Selects text l m (unexpectedAt chars p) := by
  obtain ⟨hle, hposition⟩ := (Position.isExact_iff _ _).mp hp
  subst hm hchars
  unfold Script.unexpectedAt
  split
  · rename_i c hc
    have hselects : Selects chars.toList l p.offset _ := .char h (by rwa [Array.getElem?_toList])
    rwa [← hposition] at hselects
  · rename_i hnone
    have hend : p.offset = chars.toList.length := by
      rw [Array.getElem?_eq_none_iff] at hnone
      rw [Array.length_toList] at hle ⊢
      omega
    rw [hend, List.take_length] at hposition
    have hselects : Selects chars.toList l p.offset _ := .atEnd h hend
    rwa [← hposition] at hselects

/-- **The error reported for exact errors of a text is the one that they call for.** -/
theorem selects_reported {chars : Array Char} {terminal : ParseError}
    (hchars : chars.toList = text) (hexact : ExactErrors text (l ++ [terminal]))
    (h : IsDepth (l ++ [terminal]) m) :
    Selects text (l ++ [terminal]) m (reported chars l terminal) := by
  unfold reported deepest?
  rw [h.candidates_eq]
  generalize hdeepest : (l ++ [terminal]).filter (·.offset = m) = deepest
  have hlength : deepest ≠ [] := by
    obtain ⟨e, he, hm⟩ := h.attained
    rw [← hdeepest]
    exact List.ne_nil_of_mem (List.mem_filter.mpr ⟨he, decide_eq_true hm⟩)
  match deepest, hlength with
  | [e], _ => exact .alone hdeepest
  | d :: d' :: rest, _ =>
    have hseveral : 2 ≤ ((l ++ [terminal]).filter (·.offset = m)).length := by
      rw [hdeepest]
      simp
    have hterminal : terminal ∈ l ++ [terminal] := by simp
    exact .unexpectedAt hchars (hexact _ (lastDeepest_mem_of_mem hterminal))
      (h.offset_lastDeepest hterminal) hseveral

/-- **Pruned errors are as good as all of them.** -/
theorem reported_candidates {chars : Array Char} {terminal : ParseError}
    (hchars : chars.toList = text) (hexact : ExactErrors text (l ++ [terminal])) :
    reported chars (candidates l) terminal = reported chars l terminal := by
  obtain ⟨m, hm⟩ := exists_isDepth (l := l ++ [terminal]) (by simp)
  have hpruned : IsDepth (candidates l ++ [terminal]) m := by
    rw [← isDepth_candidates_iff, candidates_candidates_concat]
    exact hm.candidates
  have hsame : (l ++ [terminal]).filter (·.offset = m) =
      (candidates l ++ [terminal]).filter (·.offset = m) := by
    rw [← hm.candidates_eq, ← hpruned.candidates_eq, candidates_candidates_concat]
  have hexactPruned : ExactErrors text (candidates l ++ [terminal]) := fun e he => hexact e <| by
    rcases List.mem_append.mp he with he | he
    · exact List.mem_append_left _ (List.mem_of_mem_filter he)
    · exact List.mem_append_right _ he
  exact ((selects_reported hchars hexactPruned hpruned).of_filter_eq hsame).unique
    (selects_reported hchars hexact hm)

/-! ### Texts that are not scripts -/

/-- All errors logged, in order, and the one that the character `c` is for what comes next. -/
def State.errorsAt (s : State) (c : Char) : List ParseError :=
  s.history ++ [.fault (.unexpectedChar c) s.cursor.position]

/-- **How the error `e` of a text comes about**: entries and lines are read up to the state `t`,
where the character `c` is next. -/
structure Rejection (text : String) (e : ParseError) (t : State) (c : Char) : Prop where
  stopped : ∃ script, Script.rule (.ofText text) = .ok script t
  next : t.cursor.peek? = some c
  /-- The error is the one that all errors call for. -/
  selects : ∃ m, IsDepth (t.errorsAt c) m ∧ Selects text.toList (t.errorsAt c) m e
  /-- The errors kept call for the same one as the history. -/
  kept : Script.reported t.cursor.text t.candidates
      (.fault (.unexpectedChar c) t.cursor.position) =
    Script.reported t.cursor.text t.history (.fault (.unexpectedChar c) t.cursor.position)
  behind : t.cursor.position.offset ≤ e.offset
  inside : e.offset ≤ text.length

/-- What is kept of the errors while a text is read. -/
structure Pruning : Prop where
  /-- No rule takes an error away that was logged before it. -/
  kept : ∀ {α : Type} {r : Rule α} {s t : State}, IsRule r →
    ((∃ a, r s = .ok a t) ∨ ∃ e, r s = .error e t) → s.log <:+ t.log
  /-- What is kept after one more error is made from what was kept before it. -/
  step : ∀ (s : State) (c : Cursor) (e : ParseError),
    (s.backtrack c e).candidates = State.keepDeepest s.candidates e
  /-- These are the deepest errors of the history, in order. -/
  deepest : ∀ s : State, s.candidates = candidates s.history
  /-- Where the same was kept, rules do the same, and the same is kept behind them. -/
  alike : ∀ {α : Type} {r : Rule α} {s t : State}, IsRule r → s.Alike t → AlikeResults (r s) (r t)

theorem IsRule.log_suffix {r : Rule α} (hr : IsRule r) {s t : State}
    (h : (∃ a, r s = .ok a t) ∨ ∃ e, r s = .error e t) : s.log <:+ t.log := by
  rw [hr.run_eq s] at h
  cases hrun : r ⟨s.cursor, []⟩ with
  | ok a u =>
    rw [hrun] at h
    rcases h with ⟨b, h⟩ | ⟨e, h⟩ <;> cases h
    exact List.suffix_append _ _
  | error e u =>
    rw [hrun] at h
    rcases h with ⟨a, h⟩ | ⟨e', h⟩ <;> cases h
    exact List.suffix_append _ _

/-- **Pruned errors select the same error as the full history.** Nothing that rules do depends on
the errors that were pruned, and the error of a text that is not a script is the one that all
errors logged while it was read call for. It stands behind what was read and in the text. -/
theorem reported_deepest {text : String} {e : ParseError} (h : Script.read? text = .error e) :
    Pruning ∧ ∃ t c, Rejection text e t c := by
  refine ⟨⟨fun hr h => hr.log_suffix h, ?_, State.candidates_eq, fun hr h => hr.alike h⟩, ?_⟩
  · intro s c e
    rw [State.candidates_eq, State.candidates_eq, ← candidates_concat]
    simp [State.history, State.backtrack]
  · obtain ⟨entries, s, comments, t, -, -, hrule, i, ht⟩ := script_repeats text
    unfold Script.read? at h
    rw [hrule] at h
    cases hnext : t.cursor.peek? with
    | none => simp [hnext] at h
    | some c =>
      simp only [hnext, Except.error.injEq] at h
      have hexact : ExactErrors text.toList (t.errorsAt c) := by
        intro e he
        simp only [State.errorsAt, State.history, List.mem_append, List.mem_reverse,
          List.mem_singleton] at he
        rcases he with he | rfl
        · exact ht.log e he
        · exact ht.exact
      have hkept := reported_candidates ht.text_eq hexact
      rw [← State.candidates_eq] at hkept
      obtain ⟨m, hm⟩ := exists_isDepth (l := t.errorsAt c) (by simp [State.errorsAt])
      have hselects := selects_reported ht.text_eq hexact hm
      rw [← hkept, h] at hselects
      refine ⟨t, c, ⟨⟨_, hrule⟩, hnext, ⟨m, hm, hselects⟩, hkept, ?_, ?_⟩⟩
      · rw [hselects.offset_eq]
        exact hm.le (.fault (.unexpectedChar c) t.cursor.position) (by simp [State.errorsAt])
      · rw [hselects.offset_eq, ← String.length_toList]
        obtain ⟨d, hd, rfl⟩ := hm.attained
        exact (hexact d hd).offset_le

/-- A section that breaks off is logged twice, by the choice of sections and by the repetition. -/
theorem reported_deepest_twice :
    Script.read? "GET x\n[Q" = .error (.fault .unexpectedEnd ⟨8, 2, 3⟩) ∧
      Pruning ∧ ∃ t c, Rejection "GET x\n[Q" (.fault .unexpectedEnd ⟨8, 2, 3⟩) t c := by
  have herror : (Script.read? "GET x\n[Q").map (fun _ => ()) =
      .error (.fault .unexpectedEnd ⟨8, 2, 3⟩) := by
    decide +kernel
  have hread : Script.read? "GET x\n[Q" = .error (.fault .unexpectedEnd ⟨8, 2, 3⟩) := by
    cases h : Script.read? "GET x\n[Q" with
    | ok script => rw [h] at herror; cases herror
    | error e => rw [h] at herror; exact congrArg _ (Except.error.inj herror)
  exact ⟨hread, reported_deepest hread⟩

end HttpScript.Grammar
