import HttpScript.Run.Script

/-! # The trace of a run

What a run does to its client is a list of `Call`s, and what it does to the variables is a list of
captured values. Both are read off the results that it records:

* `callsOf`: the calls made for one recorded entry, which are the commands among its comments in
  their order and then the request, if one could be made;
* `Variables.withCaptured`: the variables once captured values have been set in order.

`runEntries_induction` is the induction on a run, by which all that holds of whole runs is proved.

`Client.recording` is a client that writes down every call. A run through it gives the results, the
variables and the client state of the run it records (`runEntries_recording`), so what it writes
down is what the run calls. -/

namespace HttpScript.Run

variable {σ : Type}

/-! ### Calls -/

/-- What a run asks of its client. -/
inductive Call
  | execute (request : Http.Request)
  | addCookie (cookie : Cookie)
  | clearCookies
  deriving DecidableEq

/-- The request that a call sends. -/
def Call.request? : Call → Option Http.Request
  | execute q => some q
  | _ => none

/-- The call that carries out a command. -/
def Call.ofCommand : Cookie.Command → Call
  | .clear => clearCookies
  | .set setting => addCookie (.ofSetting setting)

/-- The calls for the commands among comments, in order. -/
def commandCalls (l : List Script.Comment) : List Call :=
  (l.filterMap fun t => Cookie.Command.read? t.value).map Call.ofCommand

/-- **The calls for a recorded entry**: its commands, then its request. -/
def callsOf (p : Script.Entry × EntryResult) : List Call :=
  commandCalls p.1.request.comments ++ p.2.request.toList.map Call.execute

namespace Client

/-- The state of a client behind a call. -/
def behind (c : Client σ) (w : σ) : Call → σ
  | .execute q => (c.execute q w).2
  | .addCookie k => c.addCookie k w
  | .clearCookies => c.clearCookies w

/-- The state of a client behind some calls. -/
def replay (c : Client σ) (w : σ) (l : List Call) : σ := l.foldl c.behind w

theorem replay_append (c : Client σ) (w : σ) (l k : List Call) :
    c.replay w (l ++ k) = c.replay (c.replay w l) k := List.foldl_append

/-- A client that writes down what is asked of it. -/
def recording (c : Client σ) : Client (σ × List Call) where
  execute q p := ((c.execute q p.1).1, (c.execute q p.1).2, p.2 ++ [.execute q])
  addCookie k p := (c.addCookie k p.1, p.2 ++ [.addCookie k])
  clearCookies p := (c.clearCookies p.1, p.2 ++ [.clearCookies])
  isCancelled p := c.isCancelled p.1

theorem obeyAll_eq_replay (c : Client σ) (l : List Script.Comment) (w : σ) :
    c.obeyAll l w = c.replay w (commandCalls l) := by
  have step : ∀ w k, c.obey w k = c.behind w (.ofCommand k) := fun w k => by cases k <;> rfl
  unfold obeyAll replay commandCalls
  rw [List.foldl_map]
  congr 1
  funext w k
  exact step w k

theorem obeyAll_recording (c : Client σ) (l : List Script.Comment) (w : σ) (log : List Call) :
    c.recording.obeyAll l (w, log) = (c.obeyAll l w, log ++ commandCalls l) := by
  unfold obeyAll commandCalls
  generalize l.filterMap (fun t => Cookie.Command.read? t.value) = commands
  induction commands generalizing w log with
  | nil => simp
  | cons k commands ih =>
    have step : c.recording.obey (w, log) k = (c.obey w k, log ++ [.ofCommand k]) := by
      cases k <;> rfl
    rw [List.foldl_cons, List.foldl_cons, step, ih, List.map_cons, List.append_assoc]
    rfl

end Client

/-! ### Captured values -/

/-- The variable that a captured value sets; nothing found sets none. -/
def Captured.binding? (c : Captured) : Option (String × Variable) :=
  (Variable.ofValue? c.value).map fun v => (c.name, v)

end HttpScript.Run

namespace HttpScript

open Run

/-- **The variables once captured values have been set**, in order. -/
def Variables.withCaptured (s : Variables) (l : List Captured) : Variables :=
  (l.filterMap Captured.binding?).foldl (fun s b => s.insert b.1 b.2) s

namespace Variables

theorem withCaptured_append (s : Variables) (l k : List Captured) :
    s.withCaptured (l ++ k) = (s.withCaptured l).withCaptured k := by
  unfold withCaptured
  rw [List.filterMap_append, List.foldl_append]

theorem withCaptured_singleton (s : Variables) (c : Captured) :
    s.withCaptured [c] = s.insertValue c.name c.value := by
  unfold withCaptured insertValue Captured.binding?
  cases h : Variable.ofValue? c.value <;> simp [h]

end Variables

namespace Run

variable {σ : Type}

/-! ### One entry -/

/-- What captures give is what each gives on the variables that the ones before it set. -/
theorem captureAll_spec (r : Http.Response) (s : Variables) (l : List Script.Capture) :
    (captureAll r s l).1.length = l.length ∧
    (captureAll r s l).2 = s.withCaptured (values (captureAll r s l).1) ∧
    ∀ j (hj : j < (captureAll r s l).1.length) (hl : j < l.length),
      (captureAll r s l).1[j] =
        capture ⟨r, s.withCaptured (values ((captureAll r s l).1.take j))⟩ l[j] := by
  induction l generalizing s with
  | nil => exact ⟨rfl, rfl, fun j hj => absurd hj (by simp [captureAll])⟩
  | cons c l ih =>
    have hstep : afterCapture s (capture ⟨r, s⟩ c) =
        s.withCaptured (values [capture ⟨r, s⟩ c]) := by
      cases capture ⟨r, s⟩ c with
      | error e => rfl
      | ok x => exact (s.withCaptured_singleton x).symm
    obtain ⟨hlen, hstore, houtcome⟩ := ih (afterCapture s (capture ⟨r, s⟩ c))
    simp only [captureAll]
    -- the outcome of the first capture stands before those of the others
    have hcons : ∀ rest : List (Except Error Captured),
        s.withCaptured (values (capture ⟨r, s⟩ c :: rest)) =
          (afterCapture s (capture ⟨r, s⟩ c)).withCaptured (values rest) := fun rest => by
      rw [hstep, ← Variables.withCaptured_append]
      unfold values
      rw [← List.filterMap_append, List.singleton_append]
    refine ⟨by simp [hlen], by rw [hcons, ← hstore], fun j hj hl => ?_⟩
    cases j with
    | zero => rfl
    | succ j =>
      simp only [List.getElem_cons_succ, List.take_succ_cons, hcons]
      exact houtcome j (by simpa using hj) (by simpa using hl)

/-- **What running an entry can give**: its request cannot be made, or is not answered, or is
answered. The calls are those of its commands and of the request. -/
theorem runEntry_cases (c : Client σ) (m : Material) (e : Script.Entry) (s : Variables) (w : σ) :
    (∃ error, e.request.fill m s = .error error ∧
      runEntry c m e s w = (⟨none, none, [], [], [error]⟩, s,
        c.replay w (commandCalls e.request.comments))) ∨
    (∃ q fault, e.request.fill m s = .ok q ∧
      (c.execute q (c.replay w (commandCalls e.request.comments))).1 = .error fault ∧
      runEntry c m e s w = (⟨some q, none, [], [], [.exchange fault e.request.position]⟩, s,
        c.replay w (commandCalls e.request.comments ++ [.execute q]))) ∨
    ∃ q r, e.request.fill m s = .ok q ∧
      (c.execute q (c.replay w (commandCalls e.request.comments))).1 = .ok r ∧
      runEntry c m e s w = ((conclude m e q r s).1, (conclude m e q r s).2,
        c.replay w (commandCalls e.request.comments ++ [.execute q])) := by
  unfold runEntry
  simp only [c.obeyAll_eq_replay, c.replay_append]
  cases e.request.fill m s with
  | error error => exact .inl ⟨error, rfl, rfl⟩
  | ok q =>
    simp only [Client.replay, List.foldl_cons, List.foldl_nil, Client.behind]
    cases h : c.execute q ((commandCalls e.request.comments).foldl c.behind w) with
    | mk answer w' =>
      cases answer with
      | error fault => exact .inr (.inl ⟨q, fault, rfl, by rw [h], by rw [h]⟩)
      | ok r => exact .inr (.inr ⟨q, r, rfl, by rw [h], by rw [h]⟩)

theorem runEntry_request (c : Client σ) (m : Material) (e : Script.Entry) (s : Variables) (w : σ) :
    (runEntry c m e s w).1.request = (e.request.fill m s).toOption := by
  rcases runEntry_cases c m e s w with ⟨_, hq, h⟩ | ⟨_, _, hq, -, h⟩ | ⟨_, _, hq, -, h⟩ <;>
    rw [h, hq] <;> rfl

theorem runEntry_store (c : Client σ) (m : Material) (e : Script.Entry) (s : Variables) (w : σ) :
    (runEntry c m e s w).2.1 = s.withCaptured (runEntry c m e s w).1.captures := by
  rcases runEntry_cases c m e s w with ⟨_, -, h⟩ | ⟨_, _, -, -, h⟩ | ⟨_, r, -, -, h⟩
  · rw [h]; rfl
  · rw [h]; rfl
  · rw [h]; exact (captureAll_spec r s e.captures).2.1

theorem runEntry_state (c : Client σ) (m : Material) (e : Script.Entry) (s : Variables) (w : σ) :
    (runEntry c m e s w).2.2 = c.replay w (callsOf (e, (runEntry c m e s w).1)) := by
  rcases runEntry_cases c m e s w with ⟨_, -, h⟩ | ⟨_, _, -, -, h⟩ | ⟨_, _, -, -, h⟩
  · rw [h]; simp [callsOf]
  · rw [h]; simp [callsOf]
  · rw [h]; simp [callsOf, conclude]

/-- An entry without a response has one error and nothing else. -/
theorem runEntry_unanswered (c : Client σ) (m : Material) (e : Script.Entry) (s : Variables)
    (w : σ) (hr : (runEntry c m e s w).1.response = none) :
    (runEntry c m e s w).1.captures = [] ∧ (runEntry c m e s w).1.asserts = [] ∧
      ∃ error, (runEntry c m e s w).1.errors = [error] := by
  rcases runEntry_cases c m e s w with ⟨error, -, h⟩ | ⟨_, fault, -, -, h⟩ | ⟨_, r, -, -, h⟩
  · rw [h]; exact ⟨rfl, rfl, error, rfl⟩
  · rw [h]; exact ⟨rfl, rfl, _, rfl⟩
  · rw [h] at hr; simp [conclude] at hr

/-- An entry runs through a recording client as through the client itself. -/
theorem runEntry_recording (c : Client σ) (m : Material) (e : Script.Entry) (s : Variables) (w : σ)
    (log : List Call) :
    runEntry c.recording m e s (w, log) =
      ((runEntry c m e s w).1, (runEntry c m e s w).2.1, (runEntry c m e s w).2.2,
        log ++ callsOf (e, (runEntry c m e s w).1)) := by
  unfold runEntry
  simp only [Client.obeyAll_recording]
  cases e.request.fill m s with
  | error error => simp [callsOf]
  | ok q =>
    cases h : c.execute q (c.obeyAll e.request.comments w) with
    | mk answer w' =>
      cases answer <;> simp [Client.recording, h, callsOf, conclude]

/-! ### All entries -/

theorem runEntries_cancelled (c : Client σ) (m : Material) (toEntry : Option Nat) (number : Nat)
    (l : List Script.Entry) (s : Variables) {w : σ} (h : c.isCancelled w = true) :
    runEntries c m toEntry number l s w = ([], s, w) := by
  cases l <;> simp [runEntries, h]

/-- Where a run is not given up, it runs the next entry and ends there or goes on. -/
theorem runEntries_cons (c : Client σ) (m : Material) (toEntry : Option Nat) (number : Nat)
    (e : Script.Entry) (l : List Script.Entry) (s : Variables) {w : σ}
    (h : c.isCancelled w = false) :
    runEntries c m toEntry number (e :: l) s w =
      let r := runEntry c m e s w
      if endsBehind toEntry number r.1 then ([r.1], r.2.1, r.2.2)
      else
        let rest := runEntries c m toEntry (number + 1) l r.2.1 r.2.2
        (r.1 :: rest.1, rest.2.1, rest.2.2) := by
  simp [runEntries, h]

/-- **Induction on a run.** It stops before an entry, stops behind one, or goes on behind it. -/
theorem runEntries_induction (c : Client σ) (m : Material) (toEntry : Option Nat)
    {P : Nat → List Script.Entry → Variables → σ → List EntryResult × Variables × σ → Prop}
    (stop : ∀ number l s w, l = [] ∨ c.isCancelled w = true → P number l s w ([], s, w))
    (last : ∀ number e l s w, c.isCancelled w = false →
      endsBehind toEntry number (runEntry c m e s w).1 = true →
      P number (e :: l) s w
        ([(runEntry c m e s w).1], (runEntry c m e s w).2.1, (runEntry c m e s w).2.2))
    (next : ∀ number e l s w out, c.isCancelled w = false →
      endsBehind toEntry number (runEntry c m e s w).1 = false →
      P (number + 1) l (runEntry c m e s w).2.1 (runEntry c m e s w).2.2 out →
      P number (e :: l) s w ((runEntry c m e s w).1 :: out.1, out.2.1, out.2.2))
    (number : Nat) (l : List Script.Entry) (s : Variables) (w : σ) :
    P number l s w (runEntries c m toEntry number l s w) := by
  induction l generalizing number s w with
  | nil => exact stop _ _ _ _ (.inl rfl)
  | cons e l ih =>
    cases hc : c.isCancelled w with
    | true =>
      rw [runEntries_cancelled _ _ _ _ _ _ hc]
      exact stop _ _ _ _ (.inr hc)
    | false =>
      rw [runEntries_cons _ _ _ _ _ _ _ hc]
      cases he : endsBehind toEntry number (runEntry c m e s w).1 with
      | true => simpa [he] using last _ _ l _ _ hc he
      | false => simpa [he] using next _ _ _ _ _ _ hc he (ih _ _ _)

/-- **Writing calls down does not change a run**, and what is written down are the calls for the
recorded entries. -/
theorem runEntries_recording (c : Client σ) (m : Material) (toEntry : Option Nat) (number : Nat)
    (l : List Script.Entry) (s : Variables) (w : σ) (log : List Call) :
    runEntries c.recording m toEntry number l s (w, log) =
      let out := runEntries c m toEntry number l s w
      (out.1, out.2.1, out.2.2, log ++ (l.zip out.1).flatMap callsOf) := by
  -- each entry finds in the log what those before it have written
  revert log
  refine runEntries_induction c m toEntry (P := fun number l s w out => ∀ log,
    runEntries c.recording m toEntry number l s (w, log) =
      (out.1, out.2.1, out.2.2, log ++ (l.zip out.1).flatMap callsOf)) ?stop ?last ?next number l s w
  case stop =>
    intro number l s w hl log
    rcases hl with rfl | hc
    · simp [runEntries]
    · have hc' : c.recording.isCancelled (w, log) = true := hc
      simp [runEntries_cancelled _ _ _ _ _ _ hc']
  case last =>
    intro number e l s w hc he log
    have hc' : c.recording.isCancelled (w, log) = false := hc
    rw [runEntries_cons _ _ _ _ _ _ _ hc', runEntry_recording]
    simp [he]
  case next =>
    intro number e l s w out hc he hout log
    have hc' : c.recording.isCancelled (w, log) = false := hc
    rw [runEntries_cons _ _ _ _ _ _ _ hc', runEntry_recording]
    simp [he, hout]

end Run

end HttpScript
