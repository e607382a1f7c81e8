import HttpScript.Proofs.Run.Shape

/-! # How variables run through a script

The variables change by captured values and by nothing else. Within an entry each capture sees the
values captured before it, and the checks see all of them; the request of an entry sees what the
entries before it captured.

* `Threaded`: what one entry records on given variables.
* `run_threads_variables`: every recorded entry is threaded on the variables that the entries
  before it leave, and the variables behind a run are those before it and all that it captured. -/

namespace HttpScript.Run

open Script (Entry)

variable {σ : Type}

/-- **An entry on the variables `s`.** -/
structure Threaded (m : Material) (e : Entry) (s : Variables) (r : EntryResult) : Prop where
  /-- The request is filled in on the variables before the entry. -/
  request : r.request = (e.request.fill m s).toOption
  /-- Without a response nothing is captured or checked. -/
  unanswered : r.response = none → r.captures = [] ∧ r.asserts = []
  /-- With a response each capture is evaluated on the variables that those before it set, and each
  check on the variables that all of them set. What is captured and checked is recorded in order,
  the errors of captures before those of checks. -/
  answered : ∀ p, r.response = some p → ∃ outcomes : List (Except Error Captured),
    ∃ hlength : outcomes.length = e.captures.length,
      (∀ j (hj : j < outcomes.length), outcomes[j] =
        capture ⟨p, s.withCaptured (values (outcomes.take j))⟩ (e.captures.get ⟨j, hlength ▸ hj⟩)) ∧
      r.captures = values outcomes ∧
      r.asserts = values (checks e ⟨p, s.withCaptured r.captures⟩ m) ∧
      r.errors = errors outcomes ++ errors (checks e ⟨p, s.withCaptured r.captures⟩ m)

theorem conclude_threaded (m : Material) (e : Entry) (q : Http.Request) (p : Http.Response)
    (s : Variables) (hq : e.request.fill m s = .ok q) :
    Threaded m e s (conclude m e q p s).1 := by
  obtain ⟨hlength, hstore, houtcome⟩ := captureAll_spec p s e.captures
  refine ⟨by rw [hq]; rfl, fun hr => absurd hr (by simp [conclude]), fun p' hp => ?_⟩
  obtain rfl : p = p' := by simpa [conclude] using hp
  refine ⟨(captureAll p s e.captures).1, hlength, fun j hj => houtcome j hj (hlength ▸ hj), rfl, ?_,
    ?_⟩
  · simp only [conclude, hstore]
  · simp only [conclude, hstore]

/-- **Every entry is threaded.** -/
theorem runEntry_threaded (c : Client σ) (m : Material) (e : Entry) (s : Variables) (w : σ) :
    Threaded m e s (runEntry c m e s w).1 := by
  rcases runEntry_cases c m e s w with ⟨_, hq, h⟩ | ⟨_, _, hq, -, h⟩ | ⟨q, p, hq, -, h⟩
  · rw [h]
    exact ⟨by rw [hq]; rfl, fun _ => ⟨rfl, rfl⟩, fun p hp => absurd hp (by simp)⟩
  · rw [h]
    exact ⟨by rw [hq]; rfl, fun _ => ⟨rfl, rfl⟩, fun p hp => absurd hp (by simp)⟩
  · rw [h]
    exact conclude_threaded m e q p s hq

theorem runEntries_store (c : Client σ) (m : Material) (toEntry : Option Nat) (number : Nat)
    (l : List Entry) (s : Variables) (w : σ) :
    (runEntries c m toEntry number l s w).2.1 =
      s.withCaptured ((runEntries c m toEntry number l s w).1.flatMap (·.captures)) := by
  refine runEntries_induction c m toEntry (P := fun _ _ s _ out =>
    out.2.1 = s.withCaptured (out.1.flatMap (·.captures))) ?stop ?last ?next number l s w
  case stop => exact fun _ _ _ _ _ => rfl
  case last =>
    intro _ e _ s w _ _
    rw [List.flatMap_singleton]
    exact runEntry_store c m e s w
  case next =>
    intro _ e _ s w out _ _ hout
    rw [List.flatMap_cons, Variables.withCaptured_append, ← runEntry_store]
    exact hout

/-- **How variables run through a script**, whatever its client answers and whenever it is given
up. -/
theorem run_threads_variables (script : Script) (c : Client σ) (m : Material)
    (toEntry : Option Nat) (s : Variables) (w : σ) :
    let results := (script.run c m toEntry s w).1.entries
    (script.run c m toEntry s w).2.1 = s.withCaptured (results.flatMap (·.captures)) ∧
      ∃ hlength : results.length ≤ script.entries.length, ∀ i (hi : i < results.length),
        Threaded m (script.entries.get ⟨i, Nat.lt_of_lt_of_le hi hlength⟩) (storeBefore s results i)
          results[i] := by
  have hcourse := runEntries_course c m toEntry 1 script.entries s w
  refine ⟨runEntries_store c m toEntry 1 script.entries s w, hcourse.length_le, fun i hi => ?_⟩
  have hentry := hcourse.entry i hi
  exact (congrArg (Threaded m _ _) hentry).mpr (runEntry_threaded c m _ _ _)

end HttpScript.Run
