import HttpScript.Proofs.Run.Shape

/-! # Runs one after the other

A run keeps nothing to itself: all that an entry finds of the entries before it is in the variables
and in the state of the client. So a script may be cut in two anywhere.

* `Observed`: what is seen of a run, the calls to its client with it; `Observed.andThen` puts two
  runs one behind the other.
* `runEntries_append`: entries run in two parts are run as a whole, and a part that stops early
  stops the whole.
* `runEntries_toEntry`: a run up to an entry is a run of the entries up to it.
* `run_append`: both for whole scripts. -/

namespace HttpScript.Run

open Script (Entry)

variable {σ : Type}

/-! ### Entries -/

/-- **All of some entries were run**, and each of them got a response. -/
def AllAnswered (l : List Entry) (results : List EntryResult) : Prop :=
  results.length = l.length ∧ ∀ r ∈ results, r.response.isSome

instance (l : List Entry) (results : List EntryResult) : Decidable (AllAnswered l results) :=
  inferInstanceAs (Decidable (_ ∧ _))

theorem allAnswered_nil : AllAnswered [] [] := ⟨rfl, by simp⟩

theorem allAnswered_cons (e : Entry) (l : List Entry) (r : EntryResult)
    (results : List EntryResult) :
    AllAnswered (e :: l) (r :: results) ↔ r.response.isSome ∧ AllAnswered l results := by
  simp only [AllAnswered, List.length_cons, Nat.add_right_cancel_iff, List.forall_mem_cons]
  exact and_left_comm

/-- The number of an entry counts only where a last one is asked for. -/
theorem runEntries_number (c : Client σ) (m : Material) (number number' : Nat) (l : List Entry)
    (s : Variables) (w : σ) :
    runEntries c m none number l s w = runEntries c m none number' l s w := by
  induction l generalizing number number' s w with
  | nil => rfl
  | cons e l ih =>
    have hrest := fun s w => ih (number + 1) (number' + 1) s w
    simp only [runEntries, endsBehind, hrest]
    rfl

/-- **Entries run in two parts are run as a whole.** The second part begins with the variables and
the client state that the first one leaves, and only if nothing has stopped that. -/
theorem runEntries_append (c : Client σ) (m : Material) (number : Nat) (l k : List Entry)
    (s : Variables) (w : σ) :
    runEntries c m none number (l ++ k) s w =
      let first := runEntries c m none number l s w
      if AllAnswered l first.1 then
        let second := runEntries c m none number k first.2.1 first.2.2
        (first.1 ++ second.1, second.2.1, second.2.2)
      else first := by
  induction l generalizing number s w with
  | nil => simp [runEntries, allAnswered_nil]
  | cons e l ih =>
    cases hc : c.isCancelled w with
    | true =>
      -- given up before its first entry, the first part has not run them all
      have hnot : ¬ AllAnswered (e :: l) [] := fun h => by simpa using h.1
      simp [runEntries_cancelled _ _ _ _ _ _ hc, hnot]
    | false =>
      rw [List.cons_append, runEntries_cons _ _ _ _ _ _ _ hc, runEntries_cons _ _ _ _ _ _ _ hc]
      dsimp only
      rw [ih]
      cases hr : (runEntry c m e s w).1.response with
      | none =>
        have hnot : ¬ AllAnswered (e :: l) [(runEntry c m e s w).1] := fun h => by
          simpa [hr] using h.2 _ (List.mem_singleton_self _)
        simp [endsBehind, hr, hnot]
      | some p =>
        have hend : endsBehind none number (runEntry c m e s w).1 = false := by
          simp [endsBehind, hr]
        simp only [hend, Bool.false_eq_true, if_false, allAnswered_cons, hr, Option.isSome_some,
          true_and]
        split
        · rw [runEntries_number c m (number + 1) number k]
          rfl
        · rfl

/-- **A run up to an entry is a run of the entries up to it.** -/
theorem runEntries_toEntry (c : Client σ) (m : Material) (number k : Nat) (l : List Entry)
    (s : Variables) (w : σ) :
    runEntries c m (some (number + k)) number l s w =
      runEntries c m none number (l.take (k + 1)) s w := by
  induction l generalizing number k s w with
  | nil => simp [runEntries]
  | cons e l ih =>
    rw [List.take_succ_cons]
    cases hc : c.isCancelled w with
    | true => rw [runEntries_cancelled _ _ _ _ _ _ hc, runEntries_cancelled _ _ _ _ _ _ hc]
    | false =>
      rw [runEntries_cons _ _ _ _ _ _ _ hc, runEntries_cons _ _ _ _ _ _ _ hc]
      dsimp only
      cases k with
      | zero =>
        -- nothing is left behind the entry that was asked for
        simp [endsBehind, runEntries]
      | succ k =>
        have hend : endsBehind (some (number + (k + 1))) number (runEntry c m e s w).1 =
            endsBehind none number (runEntry c m e s w).1 := by
          simp [endsBehind]
        rw [hend, ← Nat.add_assoc, Nat.add_right_comm, ih]

/-! ### Scripts -/

/-- **What is seen of a run**: its results, what it leaves, and the calls to its client. -/
structure Observed (σ : Type) where
  results : List EntryResult
  store : Variables
  state : σ
  calls : List Call

def Observed.of (out : List EntryResult × Variables × σ × List Call) : Observed σ :=
  ⟨out.1, out.2.1, out.2.2.1, out.2.2.2⟩

def Observed.andThen (first second : Observed σ) : Observed σ :=
  ⟨first.results ++ second.results, second.store, second.state, first.calls ++ second.calls⟩

/-- **What is seen of running a script.** -/
def observe (c : Client σ) (m : Material) (toEntry : Option Nat) (script : Script) (s : Variables)
    (w : σ) : Observed σ :=
  let out := script.run c.recording m toEntry s (w, [])
  .of (out.1.entries, out.2)

/-- Being observed does not change a run. -/
theorem observe_eq (c : Client σ) (m : Material) (toEntry : Option Nat) (script : Script)
    (s : Variables) (w : σ) :
    observe c m toEntry script s w =
      let out := script.run c m toEntry s w
      ⟨out.1.entries, out.2.1, out.2.2, (script.entries.zip out.1.entries).flatMap callsOf⟩ := by
  simp [observe, Observed.of, Script.run, runEntries_recording]

/-- A later run adds its calls to those written down before. -/
theorem runEntries_observe (c : Client σ) (m : Material) (script : Script) (s : Variables) (w : σ)
    (log : List Call) :
    runEntries c.recording m none 1 script.entries s (w, log) =
      let seen := observe c m none script s w
      (seen.results, seen.store, seen.state, log ++ seen.calls) := by
  rw [observe_eq, runEntries_recording]
  rfl

theorem observe_append (c : Client σ) (m : Material) (a b : Script) (s : Variables) (w : σ) :
    observe c m none ⟨a.entries ++ b.entries⟩ s w =
      let first := observe c m none a s w
      if AllAnswered a.entries first.results then
        first.andThen (observe c m none b first.store first.state)
      else first := by
  have hboth := congrArg Observed.of
    (runEntries_append c.recording m 1 a.entries b.entries s (w, []))
  rw [runEntries_observe c m a s w []] at hboth
  dsimp only at hboth
  rw [runEntries_observe c m b] at hboth
  refine Eq.trans hboth ?_
  by_cases h : AllAnswered a.entries (observe c m none a s w).results
  · simp only [if_pos h]
    rfl
  · simp only [if_neg h]
    rfl

/-- **Runs compose**, whatever the client is and whenever it gives up. Where every entry of a script
gets a response, running another script behind it is running both as one; where the first stops
early, nothing of the second is run. So a run up to the entry number `n` is a run of the first `n`
entries. -/
theorem run_append (c : Client σ) (m : Material) (a b : Script) (s : Variables) (w : σ) :
    let first := observe c m none a s w
    (AllAnswered a.entries first.results → observe c m none ⟨a.entries ++ b.entries⟩ s w =
      first.andThen (observe c m none b first.store first.state)) ∧
    (¬ AllAnswered a.entries first.results →
      observe c m none ⟨a.entries ++ b.entries⟩ s w = first) ∧
    ∀ n, 1 ≤ n → observe c m (some n) a s w = observe c m none ⟨a.entries.take n⟩ s w := by
  refine ⟨fun h => ?answered, fun h => ?stopped, fun n hn => ?cut⟩
  case answered => rw [observe_append, if_pos h]
  case stopped => rw [observe_append, if_neg h]
  case cut =>
    obtain ⟨k, rfl⟩ := Nat.exists_eq_add_of_le' hn
    have hcut := runEntries_toEntry c.recording m 1 k a.entries s (w, [])
    rw [Nat.add_comm 1 k] at hcut
    exact congrArg Observed.of hcut

/-- Of three entries run one by one, the first is answered and the second is not, which stops the
third. -/
theorem run_append_answeringOnce :
    let m : Material := ⟨⟨fun _ => .error .missing⟩, "."⟩
    let a : Script := ⟨[default]⟩
    let twice : Script := ⟨a.entries ++ a.entries⟩
    let first := observe answeringOnce m none a .empty 0
    let both := observe answeringOnce m none twice .empty 0
    (AllAnswered a.entries first.results ∧ ¬ AllAnswered twice.entries both.results) ∧
      both = first.andThen (observe answeringOnce m none a first.store first.state) ∧
      observe answeringOnce m none ⟨twice.entries ++ a.entries⟩ .empty 0 = both ∧
      observe answeringOnce m (some 1) twice .empty 0 =
        observe answeringOnce m none ⟨twice.entries.take 1⟩ .empty 0 := by
  intro m a twice first both
  have hanswered : AllAnswered a.entries first.results := by decide +kernel
  have hstopped : ¬ AllAnswered twice.entries both.results := by decide +kernel
  obtain ⟨hthen, -, -⟩ := run_append answeringOnce m a a .empty 0
  obtain ⟨-, hstop, hcut⟩ := run_append answeringOnce m twice a .empty 0
  exact ⟨⟨hanswered, hstopped⟩, hthen hanswered, hstop hstopped, hcut 1 (Nat.le_refl 1)⟩

end HttpScript.Run
