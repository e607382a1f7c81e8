import HttpScript.Proofs.Grammar.Leaves
import HttpScript.Proofs.Grammar.Logging

/-! # Strings decoded

A string can be spelled in many ways: a character as it is, where the kind of string allows that,
by its letter or by its number. Whichever is taken, and wherever in a text the string stands, the
rules yield the string and stop exactly behind it.

* `Takes r w rest Q`: the rule `r` takes the characters `w` from in front of `rest`.
* `Takes.of_reads`: what `Reads` says of the characters and `Tracks` of the places, put together.
* `takes_spelled`: **the three kinds of string**, in all spellings. -/

namespace HttpScript

/-- A place in a text is known by what stands behind it. -/
theorem Position.IsExact.eq_after {p : Position} {u v : List Char} (h : p.IsExact (u ++ v))
    (hv : (u ++ v).drop p.offset = v) : p = start.after u := by
  obtain ⟨hle, hp⟩ := (isExact_iff _ _).mp h
  have hoffset : p.offset = u.length := by
    have hlength := congrArg List.length hv
    rw [List.length_append] at hle
    rw [List.length_drop, List.length_append] at hlength
    omega
  rwa [hoffset, List.take_left] at hp

namespace Grammar

open Script Text

variable {α : Type} {w rest : List Char}

theorem Reads.leaving {text : Array Char} {r : Rule α} {Q : α → Prop}
    {R : α → List Char → Prop} (h : Reads text r w rest Q) (h' : Leaves text w r R) :
    Reads text r w rest fun a => Q a ∧ R a rest := by
  intro s hs
  have hr := h s hs
  cases heq : r s with
  | error e t => rw [heq] at hr; exact hr.elim
  | ok a t =>
    rw [heq] at hr
    obtain ⟨ht, ha⟩ := hr
    obtain ⟨k, hk, hR⟩ := h' hs heq
    obtain rfl : rest = k := ht.rest_eq.symm.trans hk.rest_eq
    exact ⟨ht, ha, hR⟩

/-- **The state between two pieces of a text.** -/
def State.between (before after : List Char) (log : List ParseError) : State :=
  ⟨⟨(before ++ after).toArray, Position.start.after before, false⟩, log⟩

/-- **A rule that takes the characters `w`** from in front of `rest`, whatever stands before them
and has been logged. What it yields may depend on the position before `w`. -/
def Takes (r : Rule α) (w rest : List Char) (Q : Position → α → Prop) : Prop :=
  ∀ before log, ∃ a log', r (.between before (w ++ rest) log) =
    .ok a (.between (before ++ w) rest log') ∧ Q (Position.start.after before) a

theorem State.before_between (before after : List Char) (log : List ParseError) :
    (State.between before after log).Before (before ++ after).toArray after := by
  refine ⟨rfl, rfl, ?_⟩
  show (before ++ after).drop (Position.start.after before).offset = after
  rw [Position.after_start]
  exact List.drop_left

theorem State.standsAt_between (before after : List Char) :
    (State.between before after []).StandsAt (before ++ after) before.length where
  text_eq := rfl
  exact := (Position.isExact_start _).after (w := before) (l := after) rfl
  offset_eq := by
    show (Position.start.after before).offset = before.length
    rw [Position.after_start]
  fresh := rfl
  log := by simp [State.between, ExactErrors]

/-- The state in which a rule stops that has read `w` and kept track of the text. -/
theorem State.eq_between {t : State} {before after : List Char} {j : Nat}
    (h : t.Before (before ++ after).toArray after) (h' : t.StandsAt (before ++ after) j) :
    t = .between before after t.log := by
  obtain ⟨⟨text, p, exhausted⟩, log⟩ := t
  obtain ⟨rfl, rfl, hrest⟩ := h
  obtain rfl : p = Position.start.after before := h'.exact.eq_after hrest
  rfl

/-- What a rule reads wherever it stands, it takes, if it keeps track of the text and of the log. -/
theorem Takes.of_reads {r : Rule α} {P : Array Char → α → Prop} {R : List Char → α → Prop}
    {Q : Position → α → Prop} (hreads : ∀ text, Reads text r (w ++ rest) rest (P text))
    (htracks : ∀ text i, Tracks text i r fun a _ => R text a) (hlog : WritesLog r)
    (hQ : ∀ before a, P (before ++ (w ++ rest)).toArray a → R (before ++ (w ++ rest)) a →
      Q (Position.start.after before) a) : Takes r w rest Q := by
  intro before log
  have hr := hreads _ _ (State.before_between before (w ++ rest) [])
  cases heq : r (.between before (w ++ rest) []) with
  | error e t => rw [heq] at hr; exact hr.elim
  | ok a t =>
    rw [heq] at hr
    obtain ⟨ht, hP⟩ := hr
    obtain ⟨j, -, ht', hR⟩ := (htracks _ _).ok (State.standsAt_between before (w ++ rest)) heq
    rw [← List.append_assoc] at ht ht'
    rw [State.eq_between ht ht'] at heq
    obtain ⟨log', hrun⟩ := hlog.ok heq log
    exact ⟨a, log', hrun, hQ before a hP hR⟩

/-! ### The three kinds of string -/

/-- A rule that takes a template is known by the value that it reads where it stands. -/
theorem Takes.template {r : Rule Template} {v : List Char}
    (hreads : ∀ text, Reads text r (w ++ rest) rest fun t =>
      t.value.toList = v ∧ text.toList.drop t.position.offset = w ++ rest)
    (htracks : ∀ text i, Tracks text i r fun t _ => ExactIn text t.positions)
    (hlog : WritesLog r) : Takes r w rest fun p t => t = ⟨.ofList v, p⟩ := by
  refine .of_reads hreads htracks hlog fun before t ⟨hvalue, hplace⟩ hexact => ?_
  have hp : t.position = Position.start.after before :=
    (hexact t.position (List.mem_singleton_self _)).eq_after hplace
  rw [← hp, ← hvalue, String.ofList_toList]

theorem takes_quotedString {v : List Char} (hw : Spells isQuotedChar quotedEscapes v w) :
    Takes quotedString ('"' :: (w ++ ['"'])) rest fun p t => t = ⟨.ofList v, p⟩ := by
  refine .template (fun text => ?_) (fun _ _ => .quotedString) IsRule.quotedString.writesLog
  rw [show '"' :: (w ++ ['"']) ++ rest = '"' :: (w ++ '"' :: rest) by simp]
  exact Reads.spelledQuoted hw

theorem takes_keyString {v : List Char} (hv : v ≠ []) (hw : Spells isKeyChar keyEscapes v w)
    (hrest : HeadNot (!endsKey ·) rest) :
    Takes keyString w rest fun _ key => key = .ofList v := by
  refine .of_reads (P := fun _ key => key.toList = v) (R := fun _ _ => True)
    (fun _ => Reads.spelledKey hv hw hrest) (fun _ _ => ?_) IsRule.keyString.writesLog
    fun _ key hkey _ => ?_
  · exact Tracks.keyString.mono fun _ _ _ _ => trivial
  · rw [← hkey, String.ofList_toList]

/-- Where a value stands there is no blank, if none follows the empty value. -/
theorem WritesValue.headNot {v b : List Char} (hw : WritesValue v w) (hb : v = [] → b = [])
    (hrest : HeadNot goesOn rest) : HeadNot isBlank (w ++ (b ++ rest)) := by
  cases hw' : w with
  | nil =>
    obtain rfl : v = [] := by
      by_contra hv
      exact hw.spells.ne_nil hv hw'
    rw [hb rfl]
    refine hrest.mono fun c hc => ?_
    simp only [isBlank, Bool.or_eq_true, beq_iff_eq] at hc
    rcases hc with rfl | rfl <;> rfl
  | cons c l =>
    have hhead := hw.head
    rw [hw'] at hhead
    exact headNot_cons.mpr (headNot_cons.mp hhead)

theorem takes_valueString {v b : List Char} (hw : WritesValue v w)
    (hblank : ∀ c ∈ b, isBlank c = true) (hb : v = [] → b = []) (hrest : HeadNot goesOn rest) :
    Takes valueString w (b ++ rest) fun p t => t = ⟨.ofList v, p⟩ := by
  refine .template (fun text => ?_) (fun _ _ => .valueString) IsRule.valueString.writesLog
  have hvalue : Reads text valueString (w ++ (b ++ rest)) (b ++ rest) fun t => t.value.toList = v :=
    .value hw hblank (hw.headNot hb hrest) hrest
  exact (hvalue.leaving .valueString).mono fun t ⟨ht, hplace, _⟩ => ⟨ht, hplace⟩

/-- **Strings are decoded in all their spellings**, and the cursor stops exactly behind them: a
quoted string behind its quote, a key in front of what ends it, and a value in front of the blanks
that follow it. Every text can be spelled in each of the three ways. -/
theorem takes_spelled (v rest : List Char) :
    ((∃ w, Spells isQuotedChar quotedEscapes v w) ∧
      ∀ w, Spells isQuotedChar quotedEscapes v w →
        Takes quotedString ('"' :: (w ++ ['"'])) rest fun p t => t = ⟨.ofList v, p⟩) ∧
    ((∃ w, Spells isKeyChar keyEscapes v w) ∧
      ∀ w, v ≠ [] → Spells isKeyChar keyEscapes v w → HeadNot (!endsKey ·) rest →
        Takes keyString w rest fun _ key => key = .ofList v) ∧
    (∃ w, WritesValue v w) ∧
      ∀ w b, WritesValue v w → (∀ c ∈ b, isBlank c = true) → (v = [] → b = []) →
        HeadNot goesOn rest → Takes valueString w (b ++ rest) fun p t => t = ⟨.ofList v, p⟩ := by
  have htext : (String.ofList v).toList = v := String.toList_ofList
  refine ⟨⟨⟨_, spells_quotedWords v⟩, fun w hw => takes_quotedString hw⟩,
    ⟨⟨keyText (.ofList v), ?_⟩, fun w hv hw hrest => takes_keyString hv hw hrest⟩,
    ⟨valueText (.ofList v), ?_⟩,
    fun w b hw hblank hb hrest => takes_valueString hw hblank hb hrest⟩
  · have hspells := spells_keyText (.ofList v)
    rwa [htext] at hspells
  · have hwrites := writesValue_valueText (.ofList v)
    rwa [htext] at hwrites

end Grammar

end HttpScript
