import HttpScript.Proofs.Run.Trace

/-! # The shape of a run

A run records a result for each entry up to where it ends, in the order of the script. Three things
end it early: an entry without a response, the last entry that was asked for, and being given up.

* `Course`: which entries are recorded, on which variables and in which state of the client each of
  them is run, and why the run ends.
* `Shape`: the same together with what is recorded and what the client is asked for.
* `run_shape`: every run has this shape. -/

namespace HttpScript.Run

open Script (Entry)

variable {σ : Type}

/-- The variables on which the entry number `i` (from 0) is run: those at the beginning and what
the entries before it captured. -/
def storeBefore (s : Variables) (results : List EntryResult) (i : Nat) : Variables :=
  s.withCaptured ((results.take i).flatMap (·.captures))

/-- The calls for the entries before the number `i` (from 0). -/
def callsBefore (entries : List Entry) (results : List EntryResult) (i : Nat) : List Call :=
  ((entries.zip results).take i).flatMap callsOf

/-- The state of a client in which the entry number `i` (from 0) is run. -/
def stateBefore (c : Client σ) (w : σ) (entries : List Entry) (results : List EntryResult)
    (i : Nat) : σ := c.replay w (callsBefore entries results i)

theorem storeBefore_succ (s : Variables) (r : EntryResult) (results : List EntryResult) (i : Nat) :
    storeBefore s (r :: results) (i + 1) = storeBefore (s.withCaptured r.captures) results i := by
  unfold storeBefore
  rw [List.take_succ_cons, List.flatMap_cons, Variables.withCaptured_append]

theorem stateBefore_succ (c : Client σ) (w : σ) (e : Entry) (entries : List Entry)
    (r : EntryResult) (results : List EntryResult) (i : Nat) :
    stateBefore c w (e :: entries) (r :: results) (i + 1) =
      stateBefore c (c.replay w (callsOf (e, r))) entries results i := by
  unfold stateBefore callsBefore
  rw [List.zip_cons_cons, List.take_succ_cons, List.flatMap_cons, Client.replay_append]

/-- **The course of a run** through `entries`, the first of which has the number `number`, from the
variables `s` and the client state `w`. -/
structure Course (c : Client σ) (m : Material) (toEntry : Option Nat) (number : Nat)
    (entries : List Entry) (s : Variables) (w : σ) (results : List EntryResult) : Prop where
  /-- There is at most one result for each entry. -/
  length_le : results.length ≤ entries.length
  /-- Each result is that of its entry, on what the entries before it have left. -/
  entry : ∀ i (hi : i < results.length),
    results[i] = (runEntry c m (entries.get ⟨i, Nat.lt_of_lt_of_le hi length_le⟩)
      (storeBefore s results i) (stateBefore c w entries results i)).1
  /-- A run that was given up by the time an entry is reached does not record it. -/
  going : ∀ i < results.length, c.isCancelled (stateBefore c w entries results i) = false
  /-- Behind an entry without a response there is no other. -/
  answered : ∀ i (hi : i + 1 < results.length), results[i].response.isSome
  /-- Behind the last entry that was asked for there is no other. -/
  within : ∀ n, toEntry = some n → number ≤ n → number + results.length ≤ n + 1
  /-- A run ends behind the last entry of the script, behind an entry without a response, behind
  the last entry asked for or where it is given up. -/
  ended : results.length = entries.length ∨ (∃ r ∈ results.getLast?, r.response = none) ∨
    toEntry = some (number + results.length - 1) ∨
    c.isCancelled (stateBefore c w entries results results.length) = true

namespace Course

variable {c : Client σ} {m : Material} {toEntry : Option Nat} {number : Nat} {e : Entry}
  {l : List Entry} {s : Variables} {w : σ} {results : List EntryResult}

theorem empty (hl : l = [] ∨ c.isCancelled w = true) : Course c m toEntry number l s w [] where
  length_le := Nat.zero_le _
  entry i hi := absurd hi (Nat.not_lt_zero i)
  going i hi := absurd hi (Nat.not_lt_zero i)
  answered i hi := absurd hi (Nat.not_lt_zero _)
  within n _ hn := by simp only [List.length_nil]; omega
  ended := by
    rcases hl with rfl | h
    · exact .inl rfl
    · exact .inr (.inr (.inr h))

theorem single (hc : c.isCancelled w = false)
    (he : endsBehind toEntry number (runEntry c m e s w).1 = true) :
    Course c m toEntry number (e :: l) s w [(runEntry c m e s w).1] where
  length_le := by simp
  entry i hi := by
    obtain rfl : i = 0 := by simpa using hi
    rfl
  going i hi := by
    obtain rfl : i = 0 := by simpa using hi
    exact hc
  answered i hi := by simp at hi
  within n _ hn := by simp only [List.length_singleton]; omega
  ended := by
    simp only [endsBehind, Bool.or_eq_true, Option.isNone_iff_eq_none, beq_iff_eq] at he
    rcases he with hr | hn
    · exact .inr (.inl ⟨_, rfl, hr⟩)
    · exact .inr (.inr (.inl (by simpa using hn)))

theorem cons (hc : c.isCancelled w = false)
    (he : endsBehind toEntry number (runEntry c m e s w).1 = false)
    (h : Course c m toEntry (number + 1) l (runEntry c m e s w).2.1 (runEntry c m e s w).2.2
      results) :
    Course c m toEntry number (e :: l) s w ((runEntry c m e s w).1 :: results) := by
  simp only [endsBehind, Bool.or_eq_false_iff, Option.isNone_eq_false_iff, beq_eq_false_iff_ne]
    at he
  obtain ⟨hr, hn⟩ := he
  rw [runEntry_store, runEntry_state] at h
  exact {
    length_le := Nat.succ_le_succ h.length_le
    entry := fun i hi => by
      cases i with
      | zero => rfl
      | succ i =>
        simp only [List.getElem_cons_succ, storeBefore_succ, stateBefore_succ]
        exact h.entry i (Nat.lt_of_succ_lt_succ hi)
    going := fun i hi => by
      cases i with
      | zero => exact hc
      | succ i => rw [stateBefore_succ]; exact h.going i (Nat.lt_of_succ_lt_succ hi)
    answered := fun i hi => by
      cases i with
      | zero => exact hr
      | succ i => exact h.answered i (Nat.lt_of_succ_lt_succ hi)
    within := fun n ht hle => by
      have hne : number ≠ n := fun e => hn (by rw [ht, e])
      have := h.within n ht (by omega)
      simp only [List.length_cons]
      omega
    ended := by
      rcases h.ended with h' | ⟨r, hr', h'⟩ | h' | h'
      · exact .inl (congrArg (· + 1) h')
      · refine .inr (.inl ⟨r, ?_, h'⟩)
        cases results with
        | nil => simp at hr'
        | cons r' results => rw [List.getLast?_cons_cons]; exact hr'
      · refine .inr (.inr (.inl (h'.trans (congrArg some ?_))))
        simp only [List.length_cons]
        omega
      · refine .inr (.inr (.inr ?_))
        rw [List.length_cons, stateBefore_succ]
        exact h' }

end Course

/-- **Every run has a course.** -/
theorem runEntries_course (c : Client σ) (m : Material) (toEntry : Option Nat) (number : Nat)
    (l : List Entry) (s : Variables) (w : σ) :
    Course c m toEntry number l s w (runEntries c m toEntry number l s w).1 := by
  refine runEntries_induction c m toEntry (P := fun number l s w out =>
    Course c m toEntry number l s w out.1) ?stop ?last ?next number l s w
  case stop => exact fun _ _ _ _ hl => .empty hl
  case last => exact fun _ _ _ _ _ hc he => .single hc he
  case next => exact fun _ _ _ _ _ _ hc he hout => .cons hc he hout

/-- **The shape of a run** of `entries` from the variables `s` and the client state `w`, in which
`calls` are made. -/
structure Shape (c : Client σ) (m : Material) (toEntry : Option Nat) (entries : List Entry)
    (s : Variables) (w : σ) (results : List EntryResult) (calls : List Call) : Prop extends
    Course c m toEntry 1 entries s w results where
  /-- An entry without a response is the last one recorded and has one error and nothing else. -/
  unanswered : ∀ i (hi : i < results.length), results[i].response = none →
    i + 1 = results.length ∧ results[i].captures = [] ∧ results[i].asserts = [] ∧
      ∃ error, results[i].errors = [error]
  /-- A recorded request is what the script describes; it is missing where that cannot be made. -/
  request : ∀ i (hi : i < results.length), results[i].request =
    ((entries.get ⟨i, Nat.lt_of_lt_of_le hi length_le⟩).request.fill m
      (storeBefore s results i)).toOption
  /-- No more entries are recorded than were asked for. -/
  length_le_toEntry : ∀ n, toEntry = some n → results.length ≤ n
  /-- For each recorded entry, and for no other, the commands among its comments are carried out in
  their order and then its request is sent. -/
  calls_eq : calls = (entries.zip results).flatMap callsOf
  /-- The requests sent are the recorded ones. -/
  executed : calls.filterMap Call.request? = results.filterMap (·.request)

theorem filterMap_request?_callsOf {entries : List Entry} {results : List EntryResult}
    (h : results.length ≤ entries.length) :
    ((entries.zip results).flatMap callsOf).filterMap Call.request? =
      results.filterMap (·.request) := by
  have hcommand : ∀ l, (commandCalls l).filterMap Call.request? = [] := fun l => by
    simp only [commandCalls, List.filterMap_map, List.filterMap_eq_nil_iff, Function.comp_apply]
    intro k _
    cases k <;> rfl
  induction results generalizing entries with
  | nil => simp
  | cons r results ih =>
    obtain ⟨e, entries, rfl⟩ := List.exists_cons_of_length_pos (Nat.lt_of_lt_of_le (by simp) h)
    rw [List.zip_cons_cons, List.flatMap_cons, List.filterMap_append,
      ih (Nat.le_of_succ_le_succ h), callsOf, List.filterMap_append, hcommand]
    cases hq : r.request <;> simp [Call.request?, hq]

/-- **Every run has this shape**, whatever its client answers and whenever it is given up; the calls
are those that a recording client writes down, through which the run is the same. -/
theorem run_shape (script : Script) (c : Client σ) (m : Material) (toEntry : Option Nat)
    (s : Variables) (w : σ) (h : toEntry ≠ some 0) :
    let recorded := script.run c.recording m toEntry s (w, [])
    let run := script.run c m toEntry s w
    recorded.1 = run.1 ∧ recorded.2.1 = run.2.1 ∧ recorded.2.2.1 = run.2.2 ∧
      Shape c m toEntry script.entries s w run.1.entries recorded.2.2.2 := by
  have hcourse := runEntries_course c m toEntry 1 script.entries s w
  have hrecording := runEntries_recording c m toEntry 1 script.entries s w []
  simp only [Script.run, hrecording, true_and, List.nil_append]
  exact {
    toCourse := hcourse
    unanswered := fun i hi hr => by
      have hlast : i + 1 = (runEntries c m toEntry 1 script.entries s w).1.length := by
        rcases Nat.lt_or_ge (i + 1) (runEntries c m toEntry 1 script.entries s w).1.length with
          hlt | hge
        · have := hcourse.answered i hlt
          rw [hr] at this
          exact absurd this (by simp)
        · omega
      rw [hcourse.entry i hi] at hr ⊢
      exact ⟨hlast, runEntry_unanswered _ _ _ _ _ hr⟩
    request := fun i hi => by rw [hcourse.entry i hi, runEntry_request]
    length_le_toEntry := fun n hn => by
      have hn0 : n ≠ 0 := fun e => h (by rw [hn, e])
      have := hcourse.within n hn (by omega)
      omega
    calls_eq := rfl
    executed := filterMap_request?_callsOf hcourse.length_le }

/-- A client that answers the first request and no other. -/
def answeringOnce : Client Nat where
  execute _ n := (if n = 0 then .ok default else .error (.client "closed"), n + 1)
  addCookie _ n := n
  clearCookies n := n
  isCancelled _ := false

/-- Of three entries, the first of which clears the cookies, two are recorded where the second one
is not answered. -/
theorem run_shape_answeringOnce :
    let first : Entry := { (default : Entry) with
      request := { (default : Script.Request) with
        comments := [⟨"# @cookie_storage_clear", .start⟩] } }
    let script : Script := ⟨[first, default, default]⟩
    let m : Material := ⟨⟨fun _ => .error .missing⟩, "."⟩
    let recorded := script.run answeringOnce.recording m (some 3) .empty (0, [])
    (some 3 ≠ some 0 ∧ recorded.1.entries.map (·.response.isSome) = [true, false] ∧
      recorded.2.2.2.map (·.request?.isSome) = [false, true, true]) ∧
    Shape answeringOnce m (some 3) script.entries .empty 0
      (script.run answeringOnce m (some 3) .empty 0).1.entries recorded.2.2.2 :=
  ⟨⟨by decide, by decide +kernel, by decide +kernel⟩,
    (run_shape _ answeringOnce _ (some 3) .empty 0 (by decide)).2.2.2⟩

end HttpScript.Run
