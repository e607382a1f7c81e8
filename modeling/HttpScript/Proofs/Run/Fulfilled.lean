import HttpScript.Proofs.Run.Agreement
import HttpScript.Proofs.Run.Threading

/-! # What a run that went well says of a script

What an entry demands of a response is said here without the checks that a run makes: a version is
covered by a pattern, a header has a value, a body has its bytes, a predicate holds.

* `Meets`: an exchange meets what an expected response says. `Fulfilled`: it meets all demands of an
  entry.
* `passes_checks`: just then all checks of the entry hold.
* `succeeded_sound`: a run that went well, and was not given up, has a response for every entry of
  the script, and each of these meets all demands of its entry. -/

namespace HttpScript

namespace Script

/-- **The versions that a pattern covers.** -/
inductive VersionPattern.Covers : VersionPattern → Http.Version → Prop
  | http10 : Covers .http10 .http10
  | http11 : Covers .http11 .http11
  | http2 : Covers .http2 .http2
  | any (v : Http.Version) : Covers .any v

/-- A version is covered by its own pattern and by that of any version. -/
theorem VersionPattern.covers_iff (p : VersionPattern) (v : Http.Version) :
    p.Covers v ↔ p = .any ∨ p.name = v.name := by
  constructor
  · intro h
    cases h with
    | any v => exact .inl rfl
    | _ => exact .inr rfl
  · rintro (rfl | h)
    · exact .any v
    · cases p <;> cases v <;> first | constructor | exact absurd h (by decide)

/-- **The statuses that a pattern covers.** -/
inductive StatusPattern.Covers : StatusPattern → UInt16 → Prop
  | code (c : UInt16) : Covers (.code c) c
  | any (c : UInt16) : Covers .any c

theorem StatusPattern.covers_iff (p : StatusPattern) (c : UInt16) :
    p.Covers c ↔ p = .any ∨ p = .code c := by
  constructor
  · intro h
    cases h with
    | code c => exact .inr rfl
    | any c => exact .inl rfl
  · rintro (rfl | rfl)
    · exact .any c
    · exact .code c

/-- **A predicate holds of a value.** Its condition applies to the value and is met. If it is
negated, nothing was found, or the condition is not met, or it is one whose negation holds of all
values that it does not apply to and the value is one of these. -/
def Predicate.Holds (p : Predicate) (actual : Value) (vars : Variables) : Prop :=
  ∃ d, p.condition.expectation vars actual = .ok d ∧
    if p.negated then actual = .none ∨ d.holds = some false ∨
      (d.holds = none ∧ p.condition.negationAcceptsMismatch = true)
    else d.holds = some true

theorem Condition.succeeds_iff (c : Condition) (negated : Bool) (actual : Value)
    (holds : Option Bool) : c.succeeds negated actual holds = true ↔
      if negated then actual = .none ∨ holds = some false ∨
        (holds = none ∧ c.negationAcceptsMismatch = true)
      else holds = some true := by
  unfold Condition.succeeds
  cases negated with
  | false => simp
  | true =>
    cases actual with
    | none => simp
    | _ =>
      cases holds with
      | none => simp
      | some b => cases b <;> simp

theorem Predicate.holds_iff_judge (p : Predicate) (actual : Value) (vars : Variables) :
    p.Holds actual vars ↔
      ∃ j, judge p.condition p.negated actual vars = .ok j ∧ j.succeeded = true := by
  unfold Predicate.Holds judge
  cases p.condition.expectation vars actual with
  | error e => simp [bind, Except.bind]
  | ok d =>
    simp only [← p.condition.succeeds_iff p.negated actual d.holds, Except.ok.injEq, exists_eq_left',
      bind, Except.bind, pure, Except.pure]

end Script

namespace Run

open Script (Entry)

/-! ### Demands -/

/-- **An exchange meets what an expected response says.** -/
structure Meets (m : Material) (r : Script.Response) (x : Exchange) : Prop where
  version : r.version.value.Covers x.response.version
  status : r.status.value.Covers x.response.status
  /-- Each header has the expected value among the received ones. -/
  header : ∀ f ∈ r.headers,
    ∃ expected, fillText x.store f.value = .ok expected ∧ expected ∈ x.response.header f.key
  /-- The body, once its codings are undone, is the expected one. -/
  body : ∀ b ∈ r.body,
    ∃ bytes, fillContent m x.store b.content = .ok bytes ∧ x.response.content = .ok bytes

/-- **An exchange meets all demands of an entry.** -/
structure Fulfilled (m : Material) (e : Entry) (x : Exchange) : Prop where
  expected : ∀ r ∈ e.response, Meets m r x
  /-- Each assert has a value to judge, and its predicate holds of it. -/
  assert : ∀ a ∈ e.asserts, ∃ v, a.query.eval x = .ok v ∧ a.predicate.Holds v x.store

/-! ### Checks that hold -/

/-- A check could be made and holds. -/
def Passes (outcome : Except Error Verdict) : Prop :=
  ∃ a, outcome = .ok a ∧ a.succeeded = true

@[simp] theorem passes_ok (a : Verdict) : Passes (.ok a) ↔ a.succeeded = true := by
  simp [Passes]

@[simp] theorem not_passes_error (e : Error) : ¬ Passes (.error e) := by
  simp [Passes]

/-- A check passes if what it needs can be had and the rest of it passes. -/
theorem passes_bind {α : Type} (o : Except Error α) (f : α → Except Error Verdict) :
    Passes (o >>= f) ↔ ∃ a, o = .ok a ∧ Passes (f a) := by
  cases o <;> simp [bind, Except.bind]

theorem mapError_eq_ok_iff {ε ε' α : Type} (o : Except ε α) (f : ε → ε') (a : α) :
    o.mapError f = .ok a ↔ o = .ok a := by
  cases o with
  | error e => exact ⟨fun h => (nomatch h), fun h => (nomatch h)⟩
  | ok b =>
    refine ⟨fun h => ?_, fun h => ?_⟩
    · cases h
      rfl
    · cases h
      rfl

theorem checkVersion_succeeded_iff (v : Script.Located Script.VersionPattern) (r : Http.Response) :
    (checkVersion v r).succeeded = true ↔ v.value.Covers r.version := by
  unfold checkVersion
  cases v.value <;> cases r.version <;>
    simp [Script.VersionPattern.covers_iff, Script.VersionPattern.name, Http.Version.name]

theorem checkStatus_succeeded_iff (s : Script.Located Script.StatusPattern) (r : Http.Response) :
    (checkStatus s r).succeeded = true ↔ s.value.Covers r.status := by
  unfold checkStatus
  cases s.value with
  | any => simp [Script.StatusPattern.covers_iff]
  | code c => by_cases h : c = r.status <;> simp [Script.StatusPattern.covers_iff, h]

theorem passes_checkHeader (f : Script.Field) (x : Exchange) :
    Passes (checkHeader f x) ↔
      ∃ expected, fillText x.store f.value = .ok expected ∧ expected ∈ x.response.header f.key := by
  rw [checkHeader, passes_bind]
  refine exists_congr fun expected => and_congr_right fun _ => ?_
  by_cases h : expected ∈ x.response.header f.key <;> simp [pure, Except.pure, h]

theorem passes_checkBody (b : Script.Body) (x : Exchange) (m : Material) :
    Passes (checkBody b x m) ↔
      ∃ bytes, fillContent m x.store b.content = .ok bytes ∧ x.response.content = .ok bytes := by
  rw [checkBody, passes_bind]
  refine exists_congr fun expected => and_congr_right fun _ => ?_
  rw [passes_bind]
  simp only [mapError_eq_ok_iff]
  constructor
  · rintro ⟨actual, hactual, h⟩
    by_cases he : actual = expected
    · rw [← he]; exact hactual
    · simp [pure, Except.pure, he] at h
  · intro h
    exact ⟨expected, h, by simp [pure, Except.pure]⟩

theorem passes_checkAssert (a : Script.Assert) (x : Exchange) :
    Passes (checkAssert a x) ↔ ∃ v, a.query.eval x = .ok v ∧ a.predicate.Holds v x.store := by
  unfold checkAssert
  cases a.query.eval x with
  | error fault => cases fault <;> simp
  | ok v =>
    simp only [passes_bind, mapError_eq_ok_iff, Except.ok.injEq, exists_eq_left',
      Script.Predicate.holds_iff_judge, pure, Except.pure, passes_ok]

theorem passes_checkExpected (m : Material) (r : Script.Response) (x : Exchange) :
    (∀ outcome ∈ checkExpected r x m, Passes outcome) ↔ Meets m r x := by
  simp only [checkExpected, List.cons_append, List.forall_mem_cons, List.forall_mem_append,
    List.forall_mem_map, passes_ok, checkVersion_succeeded_iff, checkStatus_succeeded_iff,
    passes_checkHeader, passes_checkBody, Option.mem_toList]
  exact ⟨fun ⟨hversion, hstatus, hheader, hbody⟩ => ⟨hversion, hstatus, hheader, hbody⟩,
    fun h => ⟨h.version, h.status, h.header, h.body⟩⟩

/-- **All checks of an entry hold just if its demands are met.** -/
theorem passes_checks (m : Material) (e : Entry) (x : Exchange) :
    (∀ outcome ∈ checks e x m, Passes outcome) ↔ Fulfilled m e x := by
  have hasserts : (∀ outcome ∈ e.asserts.map fun a => checkAssert a x, Passes outcome) ↔
      ∀ a ∈ e.asserts, ∃ v, a.query.eval x = .ok v ∧ a.predicate.Holds v x.store := by
    simp only [List.forall_mem_map, passes_checkAssert]
  have hexpected : (∀ outcome ∈ e.response.elim [] fun r => checkExpected r x m,
      Passes outcome) ↔ ∀ r ∈ e.response, Meets m r x := by
    cases e.response with
    | none => simp
    | some r => simpa using passes_checkExpected m r x
  rw [checks, List.forall_mem_append, hasserts, hexpected]
  exact ⟨fun ⟨hexpected, hasserts⟩ => ⟨hexpected, hasserts⟩, fun h => ⟨h.expected, h.assert⟩⟩

/-! ### Entries that went well -/

/-- Checks without an error, all of which hold, pass. -/
theorem passes_of_values {l : List (Except Error Verdict)} (herrors : errors l = [])
    (hvalues : ∀ a ∈ values l, a.succeeded = true) : ∀ outcome ∈ l, Passes outcome := by
  intro outcome ho
  cases outcome with
  | error e =>
    have he : e ∈ errors l := List.mem_filterMap.mpr ⟨.error e, ho, rfl⟩
    rw [herrors] at he
    cases he
  | ok a => exact (passes_ok a).mpr (hvalues a (List.mem_filterMap.mpr ⟨.ok a, ho, rfl⟩))

theorem Threaded.fulfilled {m : Material} {e : Entry} {s : Variables} {r : EntryResult}
    (h : Threaded m e s r) {p : Http.Response} (hp : r.response = some p)
    (hr : r.succeeded = true) : Fulfilled m e ⟨p, s.withCaptured r.captures⟩ := by
  obtain ⟨outcomes, -, -, -, hasserts, herrors⟩ := h.answered p hp
  obtain ⟨hno, hall⟩ := r.succeeded_iff.mp hr
  rw [herrors, List.append_eq_nil_iff] at hno
  rw [hasserts] at hall
  exact (passes_checks m e _).mp (passes_of_values hno.2 hall)

theorem runEntry_answered {σ : Type} {c : Client σ} {m : Material} {e : Entry} {s : Variables}
    {w : σ} (h : (runEntry c m e s w).1.succeeded = true) :
    ∃ p, (runEntry c m e s w).1.response = some p := by
  refine Option.ne_none_iff_exists'.mp fun hnone => ?_
  obtain ⟨-, -, error, herror⟩ := runEntry_unanswered c m e s w hnone
  have hno := (EntryResult.succeeded_iff _).mp h
  rw [herror] at hno
  cases hno.1

/-! ### Runs that went well -/

variable {σ : Type}

theorem runEntries_state (c : Client σ) (m : Material) (toEntry : Option Nat) (number : Nat)
    (l : List Entry) (s : Variables) (w : σ) :
    (runEntries c m toEntry number l s w).2.2 =
      c.replay w ((l.zip (runEntries c m toEntry number l s w).1).flatMap callsOf) := by
  refine runEntries_induction c m toEntry (P := fun _ l _ w out =>
    out.2.2 = c.replay w ((l.zip out.1).flatMap callsOf)) ?stop ?last ?next number l s w
  case stop =>
    intro _ l _ w _
    rw [List.zip_nil_right]
    rfl
  case last =>
    intro _ e l s w _ _
    rw [List.zip_cons_cons, List.zip_nil_right, List.flatMap_singleton]
    exact runEntry_state c m e s w
  case next =>
    intro _ e l s w out _ _ hout
    rw [List.zip_cons_cons, List.flatMap_cons, Client.replay_append, ← runEntry_state]
    exact hout

/-- The variables behind an entry are those before the next one. -/
theorem storeBefore_add_one (s : Variables) {results : List EntryResult} {i : Nat}
    (hi : i < results.length) :
    storeBefore s results (i + 1) = (storeBefore s results i).withCaptured results[i].captures := by
  unfold storeBefore
  rw [← List.take_append_getElem hi, List.flatMap_append, Variables.withCaptured_append,
    List.flatMap_singleton]

theorem stateBefore_length (c : Client σ) (w : σ) (l : List Entry) (results : List EntryResult) :
    stateBefore c w l results results.length = c.replay w ((l.zip results).flatMap callsOf) := by
  have hzip : (l.zip results).length ≤ results.length := by
    rw [List.length_zip]
    exact Nat.min_le_right _ _
  rw [stateBefore, callsBefore, List.take_of_length_le hzip]

namespace Course

variable {c : Client σ} {m : Material} {l : List Entry} {s : Variables} {w : σ}
  {results : List EntryResult}

theorem responses (h : Course c m none 1 l s w results) (hwell : ∀ r ∈ results, r.succeeded = true)
    {i : Nat} (hi : i < results.length) : ∃ p, results[i].response = some p := by
  have hr := hwell _ (List.getElem_mem hi)
  rw [h.entry i hi] at hr ⊢
  exact runEntry_answered hr

/-- A run up to no entry in particular, in which all recorded entries went well, is complete unless
it was given up. -/
theorem complete (h : Course c m none 1 l s w results)
    (hgoing : c.isCancelled (stateBefore c w l results results.length) = false)
    (hwell : ∀ r ∈ results, r.succeeded = true) : results.length = l.length := by
  rcases h.ended with hlength | ⟨r, hr, hnone⟩ | hlast | hcancelled
  · exact hlength
  · obtain ⟨i, hi, rfl⟩ := List.getElem_of_mem (List.mem_of_getLast? hr)
    obtain ⟨p, hp⟩ := h.responses hwell hi
    rw [hnone] at hp
    cases hp
  · cases hlast
  · rw [hgoing] at hcancelled
    cases hcancelled

theorem fulfilled (h : Course c m none 1 l s w results)
    (hwell : ∀ r ∈ results, r.succeeded = true) {i : Nat} (hi : i < results.length) :
    ∃ p, results[i].response = some p ∧
      Fulfilled m (l.get ⟨i, Nat.lt_of_lt_of_le hi h.length_le⟩)
        ⟨p, storeBefore s results (i + 1)⟩ := by
  obtain ⟨p, hp⟩ := h.responses hwell hi
  have hthreaded : Threaded m (l.get ⟨i, Nat.lt_of_lt_of_le hi h.length_le⟩)
      (storeBefore s results i) results[i] := by
    rw [h.entry i hi]
    exact runEntry_threaded c m _ _ _
  refine ⟨p, hp, ?_⟩
  rw [storeBefore_add_one s hi]
  exact hthreaded.fulfilled hp (hwell _ (List.getElem_mem hi))

end Course

/-- **What a run that went well says.** All verdicts on a result agree. If a script was run up to no
entry in particular, was not given up and went well, then every entry has a response, and it meets
all demands of the entry on the variables behind the captures of the entry. -/
theorem succeeded_sound : (∀ r : Result, Agreement r) ∧
    ∀ {σ : Type} (script : Script) (c : Client σ) (m : Material) (s : Variables) (w : σ),
      c.isCancelled (script.run c m none s w).2.2 = false →
      (script.run c m none s w).1.succeeded = true →
      let results := (script.run c m none s w).1.entries
      ∃ hlength : results.length = script.entries.length, ∀ i (hi : i < results.length),
        ∃ p, results[i].response = some p ∧
          Fulfilled m (script.entries.get ⟨i, hlength ▸ hi⟩) ⟨p, storeBefore s results (i + 1)⟩ := by
  refine ⟨Result.agreement, fun {σ} script c m s w hgoing hsucceeded => ?_⟩
  have hcourse := runEntries_course c m none 1 script.entries s w
  have hwell : ∀ r ∈ (runEntries c m none 1 script.entries s w).1, r.succeeded = true :=
    List.all_eq_true.mp hsucceeded
  have hbehind : c.isCancelled (stateBefore c w script.entries
      (runEntries c m none 1 script.entries s w).1
      (runEntries c m none 1 script.entries s w).1.length) = false := by
    rw [stateBefore_length, ← runEntries_state]
    exact hgoing
  exact ⟨hcourse.complete hbehind hwell, fun i hi => hcourse.fulfilled hwell hi⟩

/-- A client that gives one response to every request. -/
def answering (r : Http.Response) : Client Unit where
  execute _ _ := (.ok r, ())
  addCookie _ _ := ()
  clearCookies _ := ()
  isCancelled _ := false

/-- An entry that captures a header and demands that the header has the captured value. -/
theorem succeeded_sound_answering :
    let text (s : String) : Script.Template := ⟨s, .start⟩
    let token : Script.Query := ⟨.header (text "token"), none, .start⟩
    let expected : Script.Response := { (default : Script.Response) with
      version := ⟨.http11, .start⟩
      status := ⟨.code 200, .start⟩
      headers := [⟨"Token", text "\x7b\x7bt\x7d\x7d", .start⟩]
      captures := [⟨"t", token, .start⟩]
      asserts := [⟨token, ⟨false, .present, .start⟩, .start⟩] }
    let entry : Entry := ⟨default, some expected⟩
    let c := answering ⟨.http11, 200, [("token", "x")], [], 0⟩
    let m : Material := ⟨⟨fun _ => .error .missing⟩, "."⟩
    let run := Script.run ⟨[entry, entry]⟩ c m none .empty ()
    (c.isCancelled run.2.2 = false ∧ run.1.succeeded = true) ∧ run.1.entries.length = 2 :=
  have hsucceeded := by decide +kernel
  ⟨⟨rfl, hsucceeded⟩, (succeeded_sound.2 _ (answering _) _ .empty () rfl hsucceeded).1⟩

end Run

end HttpScript
