import HttpScript.Proofs.Run.Negation
import HttpScript.Proofs.Template.Render

/-! # An expected header and its assert

A script can demand a header in two ways: by a line of the expected response, which is compared with
the received values, or by an assert, which goes through a query, a value and a condition. They agree
whatever was received: on nothing and on one value the condition is equality, on several values it
is `includes`.

* `Condition.ofHeader`: the condition for a header, by the number of values received.
* `ofHeader_expectation`: the condition holds just if the text is among the values.
* `checkHeader_agrees`: both checks have the same outcome, which is read off the values of the
  header alone. -/

namespace HttpScript

/-! ### The condition for a header -/

theorem Http.Pairs.values_congr (l : Pairs) {a b : String} (h : sameName a b = true) :
    l.values a = l.values b := by
  unfold values
  congr 2
  funext p
  have hlowered : a.toList.map Char.toLower = b.toList.map Char.toLower := by simpa [sameName] using h
  simp only [sameName, hlowered]

namespace Script.Condition

/-- **The condition for a header** of which so many values were received: equality with the expected
text, or that it is one of them. -/
def ofHeader (received : Nat) (expected : Template) : Condition :=
  if received ≤ 1 then .equals (.string expected) else .includes (.string expected)

/-- **The condition for a header** asks for its text, and holds of the value of the received texts
just if that text is one of them. -/
theorem ofHeader_expectation (received : List String) (t : Template) (vars : Variables) :
    ∃ f : String → Expectation,
      (ofHeader received.length t).expectation vars (.ofList (received.map .string)) =
        (do return f (← t.render vars)) ∧
      ∀ text, (f text).holds.getD false = received.contains text := by
  match received with
  | [] => exact ⟨fun text => .equalsString text .none, rfl, fun _ => rfl⟩
  | [a] =>
    refine ⟨fun text => .equalsString text (.string a), rfl, fun text => ?_⟩
    simp [Expectation.equalsString, eq_comm]
  | a :: b :: l =>
    refine ⟨fun text => .includesString text (.list ((a :: b :: l).map .string)), rfl, fun text => ?_⟩
    show ((a :: b :: l).map Value.string).contains (.string text) = (a :: b :: l).contains text
    generalize a :: b :: l = l
    induction l with
    | nil => rfl
    | cons c l ih =>
      rw [List.map_cons, List.contains_cons, List.contains_cons, ih]
      rfl

end Script.Condition

/-! ### Both checks -/

namespace Run

open Script (Field Assert)

/-- **An assert demands the same as an expected header**: its query is for the header, in any case of
its letters and without a further step, and its condition is the one for so many values. -/
structure SameDemand (f : Field) (a : Assert) (received : Nat) : Prop where
  query : ∃ t, a.query.source = .header t ∧ Http.sameName t.value f.key = true ∧
    Template.Plain t.value.toList
  noStep : a.query.subquery = none
  positive : a.predicate.negated = false
  condition : a.predicate.condition = .ofHeader received f.value

/-- **The outcome that a demand for a header has**: whether its text is among the values of the
header, or what is wrong with its text. -/
def headerOutcome (x : Exchange) (f : Field) : Except Error Bool :=
  (fillText x.store f.value).map fun expected => (x.response.header f.key).contains expected

theorem checkHeader_outcome (f : Field) (x : Exchange) :
    (checkHeader f x).map (·.succeeded) = headerOutcome x f := by
  unfold checkHeader headerOutcome
  cases fillText x.store f.value with
  | error e => rfl
  | ok expected =>
    simp only [bind, Except.bind, Except.map]
    cases (x.response.header f.key).contains expected <;> rfl

/-- The query of such an assert yields the values of the header. -/
theorem SameDemand.eval {f : Field} {a : Assert} {received : Nat} (h : SameDemand f a received)
    (x : Exchange) : a.query.eval x = .ok (.ofList ((x.response.header f.key).map .string)) := by
  obtain ⟨t, hsource, hname, hplain⟩ := h.query
  have hrendered : Query.rendered x t = .ok t.value := by
    unfold Query.rendered Script.Template.render
    rw [HttpScript.Template.render_of_plain hplain]
    rfl
  unfold Script.Query.eval
  rw [hsource, h.noStep]
  simp only [Query.read, hrendered, bind, Except.bind, pure, Except.pure, Query.headerValue,
    Http.Response.header, Http.Pairs.values_congr _ hname]

theorem SameDemand.checkAssert_outcome {f : Field} {a : Assert} {x : Exchange}
    (h : SameDemand f a (x.response.header f.key).length) :
    (checkAssert a x).map (·.succeeded) = headerOutcome x f := by
  obtain ⟨expected, hexpectation, hholds⟩ :=
    Script.Condition.ofHeader_expectation (x.response.header f.key) f.value x.store
  unfold checkAssert headerOutcome fillText judge
  rw [h.eval x]
  simp only [h.condition, h.positive, hexpectation]
  cases f.value.render x.store with
  | error e => rfl
  | ok text =>
    show Except.ok ((expected text).holds == some true) =
      Except.ok ((x.response.header f.key).contains text)
    rw [← hholds]
    cases (expected text).holds with
    | none => rfl
    | some b => cases b <;> rfl

/-- **An expected header and its assert agree.** Both checks compare with the received values of the
header, whatever else was received: either both fail with what is wrong with the expected text, at
its position, or both say whether this text is one of the values. -/
theorem checkHeader_agrees {f : Field} {a : Assert} {x : Exchange}
    (h : SameDemand f a (x.response.header f.key).length) :
    (checkHeader f x).map (·.succeeded) = (checkAssert a x).map (·.succeeded) ∧
      (checkAssert a x).map (·.succeeded) = headerOutcome x f :=
  ⟨(checkHeader_outcome f x).trans h.checkAssert_outcome.symm, h.checkAssert_outcome⟩

/-- Of a header received twice, with another one between, in another case, and with the expected
text in a variable. -/
theorem checkHeader_agrees_twice :
    let response : Http.Response :=
      ⟨.http11, 200, [("VARY", "Accept"), ("Server", "s"), ("vary", "Origin")], [], 0⟩
    let x : Exchange := ⟨response, .ofStrings [("v", "Origin")]⟩
    let f : Field := ⟨"Vary", ⟨"\x7b\x7bv\x7d\x7d", .start⟩, .start⟩
    let a : Assert := ⟨⟨.header ⟨"vARY", .start⟩, none, .start⟩,
      ⟨false, .includes (.string f.value), .start⟩, .start⟩
    SameDemand f a (x.response.header f.key).length ∧
      (checkHeader f x).map (·.succeeded) = .ok true ∧
      (checkAssert a x).map (·.succeeded) = .ok true := by
  intro response x f a
  have hplain : Template.Plain "vARY".toList := Template.plain_of_no_braces (by decide)
  have hreceived : x.response.header f.key = ["Accept", "Origin"] := by decide +kernel
  have hdemand : SameDemand f a (x.response.header f.key).length :=
    ⟨⟨_, rfl, by decide, hplain⟩, rfl, rfl, by rw [hreceived]; rfl⟩
  have hrendered : f.value.render x.store = .ok "Origin" := by decide +kernel
  have houtcome : headerOutcome x f = .ok true := by
    unfold headerOutcome fillText
    rw [hrendered, hreceived]
    rfl
  obtain ⟨hagree, hassert⟩ := checkHeader_agrees hdemand
  exact ⟨hdemand, hagree.trans (hassert.trans houtcome), hassert.trans houtcome⟩

end Run

end HttpScript
