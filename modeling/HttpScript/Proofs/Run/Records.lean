import HttpScript.Proofs.Run.Negation
import HttpScript.Proofs.Run.Places
import Mathlib.Data.List.Forall2

/-! # Every capture and every check is recorded once

Once an entry has a response, each of its captures is recorded as a value or as an error, and each
of its demands as a verdict or as an error. What is recorded of a demand is made from this demand
alone.

* `Captures`: captures one after the other, each on the variables that those before it set.
* `Demand`: what an entry demands of a response. `Demand.Met`: the response meets it.
  `Demand.Hindered`: why that cannot be said.
* `Demand.Recorded`: what there is to record of a demand. `recorded_record`: so it is recorded.
* `Account`: all records of an entry. `runEntry_account`: an entry with a response has one. -/

namespace HttpScript.Run

open Script (Entry Located Field Body Assert)

/-! ### Captures -/

/-- **Captures one after the other**: from the variables before them to the outcomes and the
variables behind them. Only a value sets a variable. -/
inductive Captures (p : Http.Response) :
    Variables → List Script.Capture → List (Except Error Captured) → Variables → Prop
  | nil (s : Variables) : Captures p s [] [] s
  /-- The query has a value, which may be that nothing was found. -/
  | found {s t : Variables} {c : Script.Capture} {l : List Script.Capture}
    {outcomes : List (Except Error Captured)} {v : Value} (h : c.query.eval ⟨p, s⟩ = .ok v)
    (hrest : Captures p (s.insertValue c.name v) l outcomes t) :
    Captures p s (c :: l) (.ok ⟨c.name, v, c.position⟩ :: outcomes) t
  | unfilled {s t : Variables} {c : Script.Capture} {l : List Script.Capture}
    {outcomes : List (Except Error Captured)} {i : Template.InvalidVariable}
    (h : c.query.eval ⟨p, s⟩ = .error (.placeholder i)) (hrest : Captures p s l outcomes t) :
    Captures p s (c :: l) (.error (.placeholder i) :: outcomes) t
  | failed {s t : Variables} {c : Script.Capture} {l : List Script.Capture}
    {outcomes : List (Except Error Captured)} {fault : Query.Fault}
    (h : c.query.eval ⟨p, s⟩ = .error fault) (hfault : ∀ i, fault ≠ .placeholder i)
    (hrest : Captures p s l outcomes t) :
    Captures p s (c :: l) (.error (.capture c.name fault c.position) :: outcomes) t

theorem Captures.length_eq {p : Http.Response} {s t : Variables} {l : List Script.Capture}
    {outcomes : List (Except Error Captured)} (h : Captures p s l outcomes t) :
    outcomes.length = l.length := by
  induction h with
  | nil => rfl
  | found _ _ ih | unfilled _ _ ih | failed _ _ _ ih => exact congrArg (· + 1) ih

theorem captureAll_captures (p : Http.Response) (s : Variables) (l : List Script.Capture) :
    Captures p s l (captureAll p s l).1 (captureAll p s l).2 := by
  induction l generalizing s with
  | nil => exact .nil s
  | cons c l ih =>
    simp only [captureAll]
    unfold capture
    cases h : c.query.eval ⟨p, s⟩ with
    | ok v => exact .found h (ih _)
    | error fault =>
      cases fault with
      | placeholder i => exact .unfilled h (ih _)
      | _ => exact .failed h (fun i hi => by cases hi) (ih _)

/-! ### Demands -/

/-- **What an entry demands of a response.** -/
inductive Demand
  | version (v : Located Script.VersionPattern)
  | status (s : Located Script.StatusPattern)
  | header (f : Field)
  | body (b : Body)
  | assert (a : Assert)

/-- **The demands of an entry**, in order: those of the expected response before its asserts. -/
def demands (e : Entry) : List Demand :=
  (e.response.elim [] fun r =>
    .version r.version :: .status r.status :: r.headers.map .header ++ r.body.toList.map .body) ++
    e.asserts.map .assert

namespace Demand

/-- Where a demand is written. -/
def position : Demand → Position
  | version v => v.position
  | status s => s.position
  | header f => f.position
  | body b => b.position
  | assert a => a.position

/-- **A response meets a demand.** -/
def Met (m : Material) (x : Exchange) : Demand → Prop
  | version v => v.value.Covers x.response.version
  | status s => s.value.Covers x.response.status
  | header f =>
    ∃ expected, fillText x.store f.value = .ok expected ∧ expected ∈ x.response.header f.key
  | body b => ∃ bytes, fillContent m x.store b.content = .ok bytes ∧ x.response.content = .ok bytes
  | assert a => ∃ v, a.query.eval x = .ok v ∧ a.predicate.Holds v x.store

/-- **Why it cannot be said whether a demand is met**: a template of it cannot be filled in, or one
of the bodies to compare cannot be had. -/
inductive Hindered (m : Material) (x : Exchange) : Demand → Error → Prop
  | header {f : Field} {i : Template.InvalidVariable} (h : f.value.render x.store = .error i) :
    Hindered m x (header f) (.placeholder i)
  | expected {b : Body} {error : Error} (h : fillContent m x.store b.content = .error error) :
    Hindered m x (body b) error
  | received {b : Body} {bytes : List UInt8} {fault : Http.Fault}
    (h : fillContent m x.store b.content = .ok bytes) (hbody : x.response.content = .error fault) :
    Hindered m x (body b) (.body fault b.position)
  | query {a : Assert} {t : Script.Template} {i : Template.InvalidVariable}
    (h : a.query.eval x = .error (.placeholder i)) (ht : t ∈ a.query.templates)
    (hrender : t.render x.store = .error i) : Hindered m x (assert a) (.placeholder i)
  | condition {a : Assert} {v : Value} {i : Template.InvalidVariable} (h : a.query.eval x = .ok v)
    (hcondition : a.predicate.condition.Invalid x.store i) :
    Hindered m x (assert a) (.placeholder i)

/-- **What there is to record of a demand**: the reason why nothing can be said of it, if there is
one, and otherwise whether it is met. -/
inductive Recorded (m : Material) (x : Exchange) (d : Demand) : Except Error Verdict → Prop
  | verdict {a : Verdict} (hhindered : ∀ error, ¬ d.Hindered m x error)
    (hposition : a.position = d.position) (hsucceeded : a.succeeded = true ↔ d.Met m x) :
    Recorded m x d (.ok a)
  | error {error : Error} (h : d.Hindered m x error) : Recorded m x d (.error error)

/-- What is recorded of a demand. -/
def record (m : Material) (x : Exchange) : Demand → Except Error Verdict
  | version v => .ok (checkVersion v x.response)
  | status s => .ok (checkStatus s x.response)
  | header f => checkHeader f x
  | body b => checkBody b x m
  | assert a => checkAssert a x

end Demand

/-- **The checks of an entry are those of its demands**, each made alone. -/
theorem checks_eq_map (e : Entry) (x : Exchange) (m : Material) :
    checks e x m = (demands e).map (Demand.record m x) := by
  unfold checks demands
  cases e.response with
  | none => simp [Demand.record, Function.comp_def]
  | some r => simp [checkExpected, Demand.record, Function.comp_def]

/-! ### Outcomes -/

section

variable {ε δ α β : Type}

theorem bind_eq_error_iff {o : Except ε α} {f : α → Except ε β} {e : ε} :
    o >>= f = .error e ↔ o = .error e ∨ ∃ a, o = .ok a ∧ f a = .error e := by
  cases o <;> simp [bind, Except.bind]

/-- What is made of a value without fail has the errors of that value. -/
theorem bind_eq_error_iff_of_ok {o : Except ε α} {f : α → Except ε β} {e : ε}
    (hf : ∀ a, ∃ b, f a = .ok b) : o >>= f = .error e ↔ o = .error e := by
  rw [bind_eq_error_iff]
  refine ⟨fun h => h.elim id ?_, .inl⟩
  rintro ⟨a, -, ha⟩
  obtain ⟨b, hb⟩ := hf a
  rw [hb] at ha
  cases ha

theorem mapError_eq_error_iff {o : Except ε α} {f : ε → δ} {d : δ} :
    o.mapError f = .error d ↔ ∃ e, o = .error e ∧ f e = d := by
  cases o <;> simp [Except.mapError]

end

variable {m : Material} {x : Exchange}

/-- The placeholder that a query cannot fill is in one of its templates. -/
theorem exists_template {q : Script.Query} {i : Template.InvalidVariable}
    (h : q.eval x = .error (.placeholder i)) : ∃ t ∈ q.templates, t.render x.store = .error i := by
  have hfaults := Query.eval_faults_of
    (P := fun i => ∃ t ∈ q.templates, t.render x.store = .error i) q x fun t ht => by
      cases hrender : t.render x.store with
      | error i => exact ⟨t, ht, hrender⟩
      | ok text => trivial
  rw [h] at hfaults
  exact hfaults

theorem judge_error_iff {c : Script.Condition} {negated : Bool} {v : Value} {vars : Variables}
    {i : Template.InvalidVariable} : judge c negated v vars = .error i ↔ c.Invalid vars i := by
  rw [← Script.Condition.expectation_error_iff (a := v)]
  exact bind_eq_error_iff_of_ok fun e => ⟨_, rfl⟩

/-- **A query that fails, but for a placeholder, fails its assert** and its negation. -/
theorem checkAssert_of_fault {a : Assert} {fault : Query.Fault} (h : a.query.eval x = .error fault)
    (hfault : ∀ i, fault ≠ .placeholder i) :
    checkAssert a x = .ok ⟨false, subject a ++ " failed, " ++ fault.message, a.position⟩ := by
  simp only [checkAssert, h]

namespace Demand

variable {d : Demand}

theorem passes_record : Passes (d.record m x) ↔ d.Met m x := by
  cases d with
  | version v => exact (passes_ok _).trans (checkVersion_succeeded_iff v x.response)
  | status s => exact (passes_ok _).trans (checkStatus_succeeded_iff s x.response)
  | header f => exact passes_checkHeader f x
  | body b => exact passes_checkBody b x m
  | assert a => exact passes_checkAssert a x

/-- A verdict on a demand is about the place where the demand is written. -/
theorem record_position {a : Verdict} (h : d.record m x = .ok a) : a.position = d.position := by
  have hends : Ends (fun _ => True) (·.position = d.position) (d.record m x) := by
    cases d with
    | version v =>
      simp only [record, checkVersion]
      split_ifs <;> rfl
    | status s =>
      simp only [record, checkStatus]
      split
      · rfl
      · split_ifs <;> rfl
    | header f =>
      refine Ends.bind (V := fun _ => True) ?_ fun expected _ => ?_
      · cases fillText x.store f.value <;> trivial
      · dsimp only
        split <;> rfl
    | body b =>
      refine Ends.bind (V := fun _ => True) ?_ fun expected _ =>
        Ends.bind (V := fun _ => True) ?_ fun actual _ => ?_
      · cases fillContent m x.store b.content <;> trivial
      · cases x.response.content <;> trivial
      · split <;> rfl
    | assert a =>
      simp only [record, checkAssert]
      split
      · trivial
      · rfl
      · refine Ends.bind (V := fun _ => True) ?_ fun j _ => Ends.pure rfl
        rename_i actual _
        cases judge a.predicate.condition a.predicate.negated actual x.store <;> trivial
  rw [h] at hends
  exact hends

/-- **A demand is recorded as an error just if it is hindered**, by the same error. -/
theorem record_error_iff {error : Error} : d.record m x = .error error ↔ d.Hindered m x error := by
  cases d with
  | version v => exact ⟨fun h => (nomatch h), fun h => (nomatch h)⟩
  | status s => exact ⟨fun h => (nomatch h), fun h => (nomatch h)⟩
  | header f =>
    have hrecord : (header f).record m x = .error error ↔ fillText x.store f.value = .error error :=
      bind_eq_error_iff_of_ok fun expected => by
        dsimp only
        split <;> exact ⟨_, rfl⟩
    rw [hrecord, fillText, mapError_eq_error_iff]
    constructor
    · rintro ⟨i, hi, rfl⟩
      exact .header hi
    · rintro (hi | _)
      exact ⟨_, hi, rfl⟩
  | body b =>
    have hrecord : (body b).record m x = .error error ↔
        fillContent m x.store b.content = .error error ∨
          ∃ bytes, fillContent m x.store b.content = .ok bytes ∧
            x.response.content.mapError (.body · b.position) = .error error :=
      bind_eq_error_iff.trans <| or_congr_right <| exists_congr fun bytes =>
        and_congr_right fun _ => bind_eq_error_iff_of_ok fun actual => by
          split <;> exact ⟨_, rfl⟩
    rw [hrecord]
    simp only [mapError_eq_error_iff]
    constructor
    · rintro (h | ⟨bytes, h, fault, hfault, rfl⟩)
      · exact .expected h
      · exact .received h hfault
    · rintro (_ | h | ⟨h, hfault⟩)
      · exact .inl h
      · exact .inr ⟨_, h, _, hfault, rfl⟩
  | assert a =>
    simp only [record, checkAssert]
    split
    · rename_i i heval
      constructor
      · intro h
        cases h
        obtain ⟨t, ht, hrender⟩ := exists_template heval
        exact .query heval ht hrender
      · rintro (_ | _ | _ | ⟨h, -, -⟩ | ⟨h, -⟩) <;> rw [heval] at h <;> cases h
        rfl
    · rename_i fault hfault heval
      refine ⟨fun h => (nomatch h), ?_⟩
      rintro (_ | _ | _ | ⟨h, -, -⟩ | ⟨h, -⟩) <;> rw [heval] at h <;> cases h
      exact absurd rfl (hfault _)
    · rename_i v heval
      refine (bind_eq_error_iff_of_ok fun j => ⟨_, rfl⟩).trans ?_
      simp only [mapError_eq_error_iff, judge_error_iff]
      constructor
      · rintro ⟨i, hi, rfl⟩
        exact .condition heval hi
      · rintro (_ | _ | _ | ⟨h, -, -⟩ | ⟨h, hi⟩)
        · rw [heval] at h
          cases h
        · exact ⟨_, hi, rfl⟩

/-- **What is recorded of a demand** is what there is to record of it. -/
theorem recorded_record (m : Material) (x : Exchange) (d : Demand) :
    d.Recorded m x (d.record m x) := by
  cases h : d.record m x with
  | error error => exact .error (record_error_iff.mp h)
  | ok a =>
    refine .verdict (fun error hhindered => ?_) (record_position h) ?_
    · rw [record_error_iff.mpr hhindered] at h
      cases h
    · have hpasses := passes_record (m := m) (x := x) (d := d)
      rwa [h, passes_ok] at hpasses

end Demand

/-! ### Accounts -/

theorem length_values_add_length_errors {α : Type} (l : List (Except Error α)) :
    (values l).length + (errors l).length = l.length := by
  induction l with
  | nil => rfl
  | cons o l ih =>
    cases o with
    | ok a =>
      have hvalues : values (.ok a :: l) = a :: values l := rfl
      have herrors : errors (.ok a :: l) = errors l := rfl
      rw [hvalues, herrors, List.length_cons, List.length_cons]
      omega
    | error e =>
      have hvalues : values (.error e :: l) = values l := rfl
      have herrors : errors (.error e :: l) = e :: errors l := rfl
      rw [hvalues, herrors, List.length_cons, List.length_cons]
      omega

/-- The number of demands: a version and a status where a response is expected, its headers and its
body, and the asserts. -/
theorem length_demands (e : Entry) : (demands e).length =
    e.response.elim 0 (fun r => 2 + r.headers.length + r.body.toList.length) +
      e.asserts.length := by
  unfold demands
  cases e.response with
  | none => simp
  | some r =>
    simp only [Option.elim_some, List.cons_append, List.length_cons, List.length_append,
      List.length_map]
    omega

/-- **All records of an entry that got the response `p`**: the outcomes of its captures, from the
variables `s` before them to the variables `t` behind them, and what its demands come to on `t`. -/
structure Account (m : Material) (e : Entry) (s : Variables) (p : Http.Response) (r : EntryResult)
    (outcomes : List (Except Error Captured)) (t : Variables) : Prop where
  /-- Every capture has one outcome. -/
  captured : Captures p s e.captures outcomes t
  /-- Every demand has one record, which is of this demand alone. -/
  checked : List.Forall₂ (Demand.Recorded m ⟨p, t⟩) (demands e) (checks e ⟨p, t⟩ m)
  /-- Values are recorded in order, and so are verdicts. -/
  captures : r.captures = values outcomes
  asserts : r.asserts = values (checks e ⟨p, t⟩ m)
  /-- The errors of captures are recorded before those of checks. -/
  errors : r.errors = errors outcomes ++ errors (checks e ⟨p, t⟩ m)
  /-- Nothing is lost and nothing is recorded twice. -/
  count : r.captures.length + r.asserts.length + r.errors.length =
    e.captures.length + (demands e).length

theorem conclude_account (m : Material) (e : Entry) (q : Http.Request) (p : Http.Response)
    (s : Variables) : Account m e s p (conclude m e q p s).1 (captureAll p s e.captures).1
      (captureAll p s e.captures).2 := by
  have hcaptured := captureAll_captures p s e.captures
  have hchecks := checks_eq_map e ⟨p, (captureAll p s e.captures).2⟩ m
  refine ⟨hcaptured, ?_, rfl, rfl, rfl, ?_⟩
  · rw [hchecks, List.forall₂_map_right_iff, List.forall₂_same]
    exact fun d _ => d.recorded_record m _
  · have hcaptures := length_values_add_length_errors (captureAll p s e.captures).1
    have hverdicts :=
      length_values_add_length_errors (checks e ⟨p, (captureAll p s e.captures).2⟩ m)
    have hlength := congrArg List.length hchecks
    rw [List.length_map] at hlength
    simp only [conclude, List.length_append]
    rw [hcaptured.length_eq] at hcaptures
    omega

/-- **Every capture and every check of an entry with a response is recorded once.** Entries with the
same demand in one place have the same record of it, whatever else they demand. An assert whose
query fails is recorded as one that does not hold, and so is its negation, unless a template of the
query cannot be filled in. -/
theorem runEntry_account {σ : Type} (c : Client σ) (m : Material) (e : Entry) (s : Variables)
    (w : σ) {p : Http.Response} (hp : (runEntry c m e s w).1.response = some p) :
    (∃ outcomes t, Account m e s p (runEntry c m e s w).1 outcomes t ∧
      (demands e).length = e.response.elim 0
        (fun r => 2 + r.headers.length + r.body.toList.length) + e.asserts.length) ∧
    (∀ (e' : Entry) (x : Exchange) (i : Nat), (demands e')[i]? = (demands e)[i]? →
      (checks e' x m)[i]? = (checks e x m)[i]?) ∧
    (∀ (q : Script.Query) (x : Exchange) (fault : Query.Fault), q.eval x = .error fault →
      (∀ i, fault ≠ .placeholder i) → ∀ condition negated position place,
        ∃ message, checkAssert ⟨q, ⟨negated, condition, position⟩, place⟩ x =
          .ok ⟨false, message, place⟩) := by
  refine ⟨?_, fun e' x i hi => ?_, fun q x fault hq hfault condition negated position place =>
    ⟨_, checkAssert_of_fault (a := ⟨q, ⟨negated, condition, position⟩, place⟩) hq hfault⟩⟩
  · rcases runEntry_cases c m e s w with ⟨_, -, h⟩ | ⟨_, _, -, -, h⟩ | ⟨q, p', -, -, h⟩
    · rw [h] at hp
      cases hp
    · rw [h] at hp
      cases hp
    · rw [h] at hp ⊢
      obtain rfl : p' = p := Option.some.inj hp
      exact ⟨_, _, conclude_account m e q p' s, length_demands e⟩
  · rw [checks_eq_map, checks_eq_map, List.getElem?_map, List.getElem?_map, hi]

/-- Of two captures and four demands, one capture and one header give errors. -/
theorem runEntry_account_errors :
    let text (s : String) : Script.Template := ⟨s, .start⟩
    let query (s : Script.Source) : Script.Query := ⟨s, none, .start⟩
    let expected : Script.Response := { (default : Script.Response) with
      version := ⟨.any, .start⟩
      status := ⟨.code 404, .start⟩
      headers := [⟨"Token", text "\x7b\x7bt\x7d\x7d", .start⟩]
      captures := [⟨"n", query (.header (text "gone")), .start⟩,
        ⟨"t", ⟨.status, some .count, .start⟩, .start⟩]
      asserts := [⟨query (.jsonpath (text "$.a")), ⟨true, .present, .start⟩, .start⟩] }
    let entry : Entry := ⟨default, some expected⟩
    let response : Http.Response := ⟨.http11, 200, [("token", "x")], [], 0⟩
    let m : Material := ⟨⟨fun _ => .error .missing⟩, "."⟩
    let r := (runEntry (answering response) m entry .empty ()).1
    r.response = some response ∧ r.captures.length + r.asserts.length + r.errors.length = 2 + 4 ∧
      r.captures.length = 1 ∧ r.asserts.map (·.succeeded) = [true, false, false] ∧
      r.errors.length = 2 := by
  intro text query expected entry response m r
  have hresponse : r.response = some response := by decide +kernel
  obtain ⟨⟨outcomes, t, account, hlength⟩, -, -⟩ :=
    runEntry_account (answering response) m entry .empty () hresponse
  have hcount := account.count
  rw [hlength] at hcount
  exact ⟨hresponse, hcount, by decide +kernel, by decide +kernel, by decide +kernel⟩

end HttpScript.Run
