import HttpScript.Report.Document
import HttpScript.Report.Located
import Mathlib.Algebra.GroupWithZero.Nat

/-! # The verdicts on a run agree

Whether a run went well is said in four places: by its result, by the status that the program ends
with, by the list of what went wrong and by the report.

* `Status.ofResult_eq_success_iff`, `Status.ofResult_eq_error_iff`,
  `Status.ofResult_eq_failedAssert_iff`: what each status says of the entries.
* `Report.failures_eq_flatMap`, `Report.length_failures`: one message for each error and for each
  check that did not hold.
* `Agreement`: all verdicts on one result. `Result.agreement`: they agree on every result. -/

namespace HttpScript.Run

theorem EntryResult.succeeded_iff (r : EntryResult) :
    r.succeeded = true ↔ r.errors = [] ∧ ∀ a ∈ r.asserts, a.succeeded = true := by
  simp [succeeded]

theorem EntryResult.failedAsserts_eq_nil_iff (r : EntryResult) :
    r.failedAsserts = [] ↔ ∀ a ∈ r.asserts, a.succeeded = true := by
  simp [failedAsserts]

theorem Result.succeeded_iff (r : Result) :
    r.succeeded = true ↔ ∀ e ∈ r.entries, e.errors = [] ∧ ∀ a ∈ e.asserts, a.succeeded = true := by
  simp only [succeeded, List.all_eq_true, EntryResult.succeeded_iff]

theorem Result.hasErrors_iff (r : Result) :
    r.hasErrors = true ↔ ∃ e ∈ r.entries, e.errors ≠ [] := by
  simp [hasErrors]

theorem Result.hasErrors_eq_false_iff (r : Result) :
    r.hasErrors = false ↔ ∀ e ∈ r.entries, e.errors = [] := by
  simp [hasErrors]

theorem Result.succeeded_eq_false_of_hasErrors {r : Result} (h : r.hasErrors = true) :
    r.succeeded = false := by
  obtain ⟨e, he, herrors⟩ := r.hasErrors_iff.mp h
  refine Bool.eq_false_iff.mpr fun hs => ?_
  exact herrors (r.succeeded_iff.mp hs e he).1

/-! ### The status -/

namespace Status

theorem ofResult_eq_error_iff (r : Result) :
    ofResult r = error ↔ ∃ e ∈ r.entries, e.errors ≠ [] := by
  rw [← r.hasErrors_iff]
  cases herrors : r.hasErrors <;> cases hsucceeded : r.succeeded <;>
    simp [ofResult, herrors, hsucceeded]

theorem ofResult_eq_success_iff (r : Result) : ofResult r = success ↔ r.succeeded = true := by
  cases herrors : r.hasErrors with
  | true => simp [ofResult, herrors, Result.succeeded_eq_false_of_hasErrors herrors]
  | false => cases hsucceeded : r.succeeded <;> simp [ofResult, herrors, hsucceeded]

theorem ofResult_eq_failedAssert_iff (r : Result) :
    ofResult r = failedAssert ↔ (∀ e ∈ r.entries, e.errors = []) ∧
      ∃ e ∈ r.entries, ∃ a ∈ e.asserts, a.succeeded = false := by
  have hthird : ofResult r = failedAssert ↔ r.hasErrors = false ∧ ¬ r.succeeded = true := by
    cases herrors : r.hasErrors <;> cases hsucceeded : r.succeeded <;>
      simp [ofResult, herrors, hsucceeded]
  rw [hthird, r.hasErrors_eq_false_iff, r.succeeded_iff]
  -- where no entry has an error, one that did not go well has a check that does not hold
  refine and_congr_right fun hnone => ?_
  constructor
  · intro hnot
    obtain ⟨e, he⟩ := Classical.not_forall.mp hnot
    obtain ⟨hmem, hchecks⟩ := Classical.not_imp.mp he
    obtain ⟨a, ha⟩ := Classical.not_forall.mp fun hall => hchecks ⟨hnone e hmem, hall⟩
    obtain ⟨ha, hfalse⟩ := Classical.not_imp.mp ha
    exact ⟨e, hmem, a, ha, Bool.eq_false_iff.mpr hfalse⟩
  · rintro ⟨e, he, a, ha, hfalse⟩ hall
    exact absurd ((hall e he).2 a ha) (by simp [hfalse])

end Status

end HttpScript.Run

namespace HttpScript.Report

open Run (EntryResult Result)

/-! ### The messages -/

theorem length_problems (r : EntryResult) :
    (problems r).length = r.errors.length + r.asserts.countP fun a => !a.succeeded := by
  rw [problems, List.length_append, List.length_map, List.length_map, EntryResult.failedAsserts,
    List.countP_eq_length_filter]

/-- Nothing went wrong in an entry that went well, and in no other. -/
theorem problems_eq_nil_iff (r : EntryResult) : problems r = [] ↔ r.succeeded = true := by
  rw [problems, List.append_eq_nil_iff, List.map_eq_nil_iff, List.map_eq_nil_iff,
    r.failedAsserts_eq_nil_iff, r.succeeded_iff]

/-- One message for each error of an entry, then one for each of its checks that did not hold. -/
theorem failures_eq_flatMap (filename source : String) (r : Result) (colored : Bool) :
    failures filename source r colored = r.entries.flatMap fun e =>
      (e.errors.map fun x => locate filename source x.position x.message colored) ++
        (e.asserts.filter fun a => !a.succeeded).map fun a =>
          locate filename source a.position a.message colored := by
  rw [failures, List.map_flatMap]
  congr 1
  funext e
  rw [problems, List.map_append, List.map_map, List.map_map]
  rfl

theorem length_failures (filename source : String) (r : Result) (colored : Bool) :
    (failures filename source r colored).length =
      (r.entries.map fun e => e.errors.length + e.asserts.countP fun a => !a.succeeded).sum := by
  rw [failures, List.length_map, List.length_flatMap]
  simp only [length_problems]

theorem failures_eq_nil_iff (filename source : String) (r : Result) (colored : Bool) :
    failures filename source r colored = [] ↔ r.succeeded = true := by
  rw [failures, List.map_eq_nil_iff, List.flatMap_eq_nil_iff, Result.succeeded, List.all_eq_true]
  exact forall₂_congr fun e _ => problems_eq_nil_iff e

end HttpScript.Report

namespace HttpScript.Run

/-! ### All verdicts -/

/-- **The verdicts on a result agree.** -/
structure Agreement (r : Result) : Prop where
  /-- The status is that of success just if the result went well. -/
  success : Status.ofResult r = .success ↔ r.succeeded = true
  /-- Just then there is no message, for whatever script and in whatever style. -/
  failures : ∀ filename source colored,
    Report.failures filename source r colored = [] ↔ r.succeeded = true
  /-- The report says whether the result went well, however long it took. -/
  document : ∀ milliseconds, ∃ members, Report.document r milliseconds = .object members ∧
    Named.find? "success" members = some (.bool r.succeeded)
  /-- The status is that of an error just if an entry has one. -/
  error : Status.ofResult r = .error ↔ ∃ e ∈ r.entries, e.errors ≠ []
  /-- The status is that of a failed assert just if there is one, and no error. -/
  failedAssert : Status.ofResult r = .failedAssert ↔ (∀ e ∈ r.entries, e.errors = []) ∧
    ∃ e ∈ r.entries, ∃ a ∈ e.asserts, a.succeeded = false
  /-- The messages are those of the errors and of the failed asserts, entry by entry. -/
  messages : ∀ filename source colored,
    Report.failures filename source r colored = r.entries.flatMap fun e =>
      (e.errors.map fun x => Report.locate filename source x.position x.message colored) ++
        (e.asserts.filter fun a => !a.succeeded).map fun a =>
          Report.locate filename source a.position a.message colored
  /-- There are as many messages as errors and failed asserts. -/
  count : ∀ filename source colored, (Report.failures filename source r colored).length =
    (r.entries.map fun e => e.errors.length + e.asserts.countP fun a => !a.succeeded).sum

/-- **The verdicts on every result agree.** -/
theorem Result.agreement (r : Result) : Agreement r where
  success := Status.ofResult_eq_success_iff r
  failures filename source colored := Report.failures_eq_nil_iff filename source r colored
  document _ := ⟨_, rfl, rfl⟩
  error := Status.ofResult_eq_error_iff r
  failedAssert := Status.ofResult_eq_failedAssert_iff r
  messages filename source colored := Report.failures_eq_flatMap filename source r colored
  count filename source colored := Report.length_failures filename source r colored

end HttpScript.Run
