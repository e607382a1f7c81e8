import HttpScript.Proofs.Grammar.Conditions

/-! # Queries read back

A query is followed by a line end or by a predicate. The subquery `count` begins a condition too;
the grammar looks at the character behind it.

* `Reads.source`: what is read.
* `Reads.query`: a query, in front of what `EndsQuery` allows. -/

namespace HttpScript.Grammar

open Script Text

variable {text : Array Char} {l : List Char}

/-! ### Sources -/

/-- The alternatives for what a query reads. -/
def sourceRules : List (Rule Source) :=
  [bareSource .status, quotedSource .header, quotedSource .cookie, bareSource .body,
    quotedSource .xpath, quotedSource .jsonpath, quotedSource .regex, quotedSource .stored,
    bareSource .duration]

/-- The words that queries begin with, in the order of the alternatives. -/
def sourceNames : List String :=
  ["status", "header", "cookie", "body", "xpath", "jsonpath", "regex", "variable", "duration"]

theorem opens_sources : List.Forall₂ (Opens text l l) sourceRules sourceNames := by
  have hbare : ∀ s : Source, Opens text l l (bareSource s) s.name := fun s h => .bind (.literal h)
  have hquoted : ∀ make : Template → Source,
      Opens text l l (quotedSource make) (make default).name := fun make h => .bind (.literal h)
  refine .cons (hbare .status) (.cons (hquoted .header) (.cons (hquoted .cookie) ?_))
  refine .cons (hbare .body) (.cons (hquoted .xpath) (.cons (hquoted .jsonpath) ?_))
  exact .cons (hquoted .regex) (.cons (hquoted .stored) (.cons (hbare .duration) .nil))

theorem name_mem_sourceNames (s : Source) : s.name ∈ sourceNames := by
  cases s <;> simp [Source.name, sourceNames]

theorem Reads.source (s : Source) :
    Reads text source (s.name.toList ++ (s.argument?.elim [] (' ' :: quotedText ·) ++ l)) l
      fun a => a.unplaced = s.unplaced := by
  have hbare : ∀ s : Source, Reads text (bareSource s) (s.name.toList ++ l) l
      fun a => a.unplaced = s.unplaced := fun s => (Reads.literal _).bind fun _ _ => .pure rfl
  have hquoted : ∀ (make : Template → Source) (t : Template),
      (∀ t, (make t).unplaced = make t.unplaced) → Reads text (quotedSource make)
        ((make default).name.toList ++ ' ' :: (quotedText t ++ l)) l fun a =>
        a.unplaced = (make t).unplaced := fun make t hmake => by
    refine (Reads.literal _).bind fun _ _ =>
      (Reads.someBlanks (headNot_quotedText rfl t)).bind fun _ _ => ?_
    exact (Reads.quotedString t).bind fun a ha => .pure (by rw [hmake, hmake, ha])
  have hpick : ∀ (i : Nat) (name : String) {r : Rule Source} {k : List Char},
      sourceRules[i]? = some r → TellsApart name.toList (sourceNames.take i) →
      Reads text r (name.toList ++ k) l (fun a => a.unplaced = s.unplaced) →
      Reads text Grammar.source (name.toList ++ k) l fun a => a.unplaced = s.unplaced :=
    fun i name _ _ hi hname h =>
      Reads.choice_opens opens_sources i hi (not_prefix_of_tellsApart _ hname) h
  cases s with
  | status => exact hpick 0 "status" rfl (by decide) (hbare .status)
  | header t => exact hpick 1 "header" rfl (by decide) (hquoted .header t fun _ => rfl)
  | cookie t => exact hpick 2 "cookie" rfl (by decide) (hquoted .cookie t fun _ => rfl)
  | body => exact hpick 3 "body" rfl (by decide) (hbare .body)
  | xpath t => exact hpick 4 "xpath" rfl (by decide) (hquoted .xpath t fun _ => rfl)
  | jsonpath t => exact hpick 5 "jsonpath" rfl (by decide) (hquoted .jsonpath t fun _ => rfl)
  | regex t => exact hpick 6 "regex" rfl (by decide) (hquoted .regex t fun _ => rfl)
  | stored t => exact hpick 7 "variable" rfl (by decide) (hquoted .stored t fun _ => rfl)
  | duration => exact hpick 8 "duration" rfl (by decide) (hbare .duration)

/-- **What may stand behind a query**: nothing that is taken for a subquery. -/
structure EndsQuery (text : Array Char) (l : List Char) : Prop where
  rejects : Rejects text (Rule.choice [regexSubquery, countSubquery]) l
  count : HeadNot (!endsCount ·) l

theorem endsQuery_ending (e : LineEnding) : EndsQuery text (e.text ++ l) where
  rejects := by
    have hblank : Rejects text someBlanks (e.text ++ l) :=
      .someBlanks (headNot_ending rfl rfl e)
    refine .choice fun r hr => ?_
    rcases List.mem_pair.mp hr with rfl | rfl
    · exact .bind hblank
    · exact .bind hblank
  count := headNot_ending rfl rfl e

/-- No word of a predicate can be taken for the subquery `regex`. -/
theorem tellsApart_regex : ∀ name ∈ predicateNames, TellsApart name.toList ["regex"] := by
  decide

/-- Only one word of a predicate begins like the subquery `count`. -/
theorem tellsApart_count : ∀ name ∈ predicateNames,
    name.toList = "count".toList ++ "Equals".toList ∨ TellsApart name.toList ["count"] := by
  decide

theorem endsQuery_predicate (w : Layout) (p : Predicate) :
    EndsQuery text (' ' :: (w.predicate p ++ l)) where
  rejects := by
    obtain ⟨name, hname, k, hk⟩ := predicate_names w p
    have hblank : Reads text someBlanks (' ' :: (w.predicate p ++ l)) (name.toList ++ (k ++ l))
        fun _ => True := by
      rw [hk, List.append_assoc]
      exact Reads.someBlanks (headNot_name (by decide) hname)
    refine .choice fun r hr => ?_
    rcases List.mem_pair.mp hr with rfl | rfl
    · exact hblank.rejects fun _ _ => .bind (.literal
        (not_prefix_of_tellsApart _ (tellsApart_regex name hname) _ (by simp)))
    · refine hblank.rejects fun _ _ => ?_
      rcases tellsApart_count name hname with hcount | hcount
      · rw [hcount, List.append_assoc]
        refine (Reads.literal "count").rejects fun _ _ => Reads.peek.rejects fun o ho => ?_
        subst ho
        exact .ite_neg (by decide) .failHere
      · exact .bind (.literal (not_prefix_of_tellsApart _ hcount _ (by simp)))
  count := headNot_cons.mpr rfl

theorem Reads.subquery {s : Subquery} (h : EndsQuery text l) :
    Reads text (Rule.choice [regexSubquery, countSubquery]) (Layout.subquery s ++ l) l fun a =>
      a.unplaced = s.unplaced := by
  have hblanks : ∀ (word : String) {k : List Char}, HeadNot isBlank (word.toList ++ k) →
      Reads text Grammar.someBlanks (' ' :: (word.toList ++ k)) (word.toList ++ k) fun _ => True :=
    fun _ _ hword => Reads.someBlanks hword
  cases s with
  | regex t =>
    refine Reads.choice [] rfl (by simp) ?_
    rw [show Layout.subquery (.regex t) ++ l = ' ' :: ("regex".toList ++ ' ' :: (quotedText t ++ l))
      by simp [Layout.subquery]]
    refine (hblanks "regex" (headNot_cons.mpr rfl)).bind fun _ _ => ?_
    refine (Reads.literal _).bind fun _ _ => ?_
    refine (Reads.someBlanks (headNot_quotedText rfl t)).bind fun _ _ => ?_
    exact (Reads.quotedString t).bind fun a ha => .pure (by simp [Subquery.unplaced, ha])
  | count =>
    rw [show Layout.subquery .count ++ l = ' ' :: ("count".toList ++ l) by simp [Layout.subquery]]
    have hcount := hblanks "count" (k := l) (headNot_cons.mpr rfl)
    refine Reads.choice [regexSubquery] rfl (fun r hr => ?_) ?_
    · rw [List.mem_singleton.mp hr]
      exact hcount.rejects fun _ _ => .bind (.literal (not_prefix_append (by decide) (by decide)))
    · refine hcount.bind fun _ _ => (Reads.literal "count").bind fun _ _ => ?_
      refine Reads.peek.bind fun o ho => ?_
      subst ho
      cases l with
      | nil => exact .pure rfl
      | cons c l =>
        have hc := headNot_cons.mp h.count
        exact .ite_pos (by simpa using hc) (.pure rfl)

/-- **A query is read back.** -/
theorem Reads.query {q : Query} (h : EndsQuery text l) :
    Reads text query (Layout.query q ++ l) l fun a => a.unplaced = q.unplaced := by
  refine Reads.position.bind fun p _ => ?_
  unfold Layout.query
  rw [List.append_assoc, List.append_assoc]
  refine (Reads.source q.source).bind fun s hs => ?_
  have hsubquery : Reads text (Rule.optional (Rule.choice [regexSubquery, countSubquery]))
      (q.subquery.elim [] Layout.subquery ++ l) l fun o =>
        o.map (·.unplaced) = q.subquery.map (·.unplaced) := by
    cases q.subquery with
    | none => exact (Reads.optional_none h.rejects).mono fun o ho => by rw [ho]
    | some s =>
      refine (Reads.subquery h).optional.mono fun o ho => ?_
      obtain ⟨a, rfl, ha⟩ := ho
      exact congrArg some ha
  refine hsubquery.bind fun o ho => .pure ?_
  simp [Query.unplaced, hs, ho]

end HttpScript.Grammar
