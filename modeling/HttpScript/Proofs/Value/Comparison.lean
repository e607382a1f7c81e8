import HttpScript.Grammar.Lexeme
import HttpScript.Proofs.Run.Negation
import HttpScript.Proofs.Template.Render

/-! # Comparing with a captured value

A captured value goes through a variable before another value is compared with it: as a value of its
own kind, as one that is kept whole, or as text that a template puts in. None of these ways changes
what the comparison says.

* `Variables.find?_insertValue`: what a captured value leaves in the store.
* `Expectation.equalsVariable_holds`: equality with a variable is equality with its value.
* `Template.render_ofName`: a placeholder alone gives the text of its variable, as it is.
* `StandsFor`: a name stands for a value in all that a script can say of it. `standsFor_captured`:
  the name of a captured value stands for that value. -/

namespace HttpScript

open Script

/-! ### Variables -/

/-- Everything but nothing can be kept in a variable. -/
theorem Variable.exists_ofValue? {v : Value} (hv : v ≠ .none) :
    ∃ x, Variable.ofValue? v = some x ∧ x.toValue = v := by
  have hsome : Variable.ofValue? v ≠ none := by
    cases v with
    | none => exact absurd rfl hv
    | _ => exact fun h => nomatch h
  obtain ⟨x, hx⟩ := Option.ne_none_iff_exists'.mp hsome
  exact ⟨x, hx, Variable.toValue_of_ofValue? hx⟩

/-- **A captured value is found again** under the name that it was stored with. -/
theorem Variables.find?_insertValue (vars : Variables) (name : String) {v : Value} {x : Variable}
    (hx : Variable.ofValue? v = some x) : (vars.insertValue name v).find? name = some x := by
  unfold insertValue
  rw [hx]
  simp only [find?_insert, if_true]

/-! ### Equality with a variable -/

/-- **Equality with a variable is equality with its value.** Values of another kind, of which it
says nothing, are not equal to it. -/
theorem Expectation.equalsVariable_holds (x : Variable) (a : Value) :
    (equalsVariable x a).holds.getD false = (a == x.toValue) := by
  cases x with
  | opaqueValue v => rfl
  | _ => cases a <;> rfl

/-- Equality with a variable and its negation, by whether the values are equal. -/
theorem Script.Condition.succeeds_equalsVariable (name : String) (p : Position) {x : Variable}
    (hx : x.toValue ≠ .none) (a : Value) :
    (equalsVariable name p).succeeds false a (Expectation.equalsVariable x a).holds =
        (a == x.toValue) ∧
      (equalsVariable name p).succeeds true a (Expectation.equalsVariable x a).holds =
        !(a == x.toValue) := by
  have hholds := Expectation.equalsVariable_holds x a
  by_cases ha : a = .none
  · subst ha
    have hne : (Value.none == x.toValue) = false := by
      cases hv : x.toValue with
      | none => exact absurd hv hx
      | _ => rfl
    rw [hne] at hholds ⊢
    have hfails : (Expectation.equalsVariable x .none).holds ≠ some true := fun h => by
      rw [h] at hholds
      cases hholds
    exact ⟨by simpa [succeeds] using hfails, rfl⟩
  · obtain ⟨hpositive, hnegative⟩ := succeeds_found (c := equalsVariable name p) ha
      (Expectation.equalsVariable x a).holds
    rw [hpositive, hnegative, ← hholds]
    -- where equality says nothing, its negation accepts the value
    refine ⟨rfl, ?_⟩
    cases (Expectation.equalsVariable x a).holds <;> rfl

/-! ### Placeholders -/

/-- A word in double braces, as a template. -/
def Template.ofName (name : String) : String := "\x7b\x7b" ++ name ++ "\x7d\x7d"

/-- **A placeholder alone gives the text of its variable**, as it is. -/
theorem Template.render_ofName {name : String} (hne : name ≠ "")
    (hname : ∀ c ∈ name.toList, Grammar.isNameChar c = true) (vars : Variables) (p : Position) :
    render vars p (ofName name) = lookup vars p name.toList := by
  have hchars : ∀ c ∈ name.toList, isNameChar c = true := fun c hc => by
    have hword := hname c hc
    unfold Grammar.isNameChar at hword
    unfold isNameChar
    rw [hword, Bool.true_or]
  have hstarts : StartsWith ((ofName name).toList ++ []) (ofName name).toList name.toList :=
    ⟨2, 2, [], .inl rfl, .inl ⟨rfl, by simp⟩, by simpa using hne, hchars,
      by simp [ofName, List.replicate], rfl⟩
  have hsegments : segments (ofName name).toList =
      [.placeholder (ofName name).toList name.toList] := by
    have hsplit := Split.placeholder hstarts .nil
    rw [List.append_nil] at hsplit
    exact (segments_split _).unique hsplit
  unfold render
  rw [hsegments]
  simp only [List.mapM_cons, List.mapM_nil, Segment.fill]
  cases lookup vars p name.toList with
  | error e => rfl
  | ok text =>
    show Except.ok (String.join [text]) = Except.ok text
    simp

/-! ### Captured values -/

/-- **A name stands for a value**: whoever asks for its variable gets the value, and equality with
the variable is equality with the value. If the value is a string, so it is for the name in a
template. -/
structure StandsFor (vars : Variables) (name : String) (v : Value) : Prop where
  /-- A query for a variable, of which the template gives the name, yields the value. -/
  query : ∀ (r : Http.Response) (t : Script.Template) (p : Position), t.render vars = .ok name →
    (Query.mk (.stored t) none p).eval ⟨r, vars⟩ = .ok v
  /-- A name without braces is such a template. -/
  named : ¬ ['\x7b', '\x7b'] <:+: name.toList → ∀ p : Position,
    (Script.Template.mk name p).render vars = .ok name
  /-- A value is equal to the variable just if it is equal to the value, and unequal just if not. -/
  equals : ∀ (a : Value) (p : Position), ∃ j k,
    judge (.equalsVariable name p) false a vars = .ok j ∧
      judge (.equalsVariable name p) true a vars = .ok k ∧
      j.succeeded = (a == v) ∧ k.succeeded = !(a == v)
  /-- A variable and a string that holds nothing but its placeholder are compared alike, with the
  same wording. -/
  text : ∀ s, v = .string s → name ≠ "" → (∀ c ∈ name.toList, Grammar.isNameChar c = true) →
    ∀ (a : Value) (negated : Bool) (p q : Position), ∃ j,
      judge (.equalsVariable name p) negated a vars = .ok j ∧
        judge (.equals (.string ⟨Template.ofName name, q⟩)) negated a vars = .ok j

/-- **A captured value is what its name stands for.** -/
theorem standsFor_captured (vars : Variables) (name : String) {v : Value} (hv : v ≠ .none) :
    StandsFor (vars.insertValue name v) name v := by
  obtain ⟨x, hx, hvalue⟩ := Variable.exists_ofValue? hv
  have hfind := vars.find?_insertValue name hx
  have hjudge : ∀ negated a p,
      judge (.equalsVariable name p) negated a (vars.insertValue name v) =
        .ok ⟨Condition.succeeds (.equalsVariable name p) negated a
            (Expectation.equalsVariable x a).holds, a.display,
          if negated then (Expectation.equalsVariable x a).negative
          else (Expectation.equalsVariable x a).positive⟩ := fun negated a p => by
    unfold judge
    rw [Condition.expectation_variable, hfind]
    rfl
  constructor
  case query =>
    intro r t p ht
    have hread : Query.rendered ⟨r, vars.insertValue name v⟩ t = .ok name := by
      unfold Query.rendered
      rw [ht]
      rfl
    unfold Script.Query.eval
    simp only [Query.read, hread, bind, Except.bind, hfind]
    rw [← hvalue]
    rfl
  case named => exact fun hbraces p => HttpScript.Template.render_of_not_infix hbraces _ p
  case equals =>
    intro a p
    obtain ⟨hpositive, hnegative⟩ :=
      Condition.succeeds_equalsVariable name p (hvalue ▸ hv : x.toValue ≠ .none) a
    rw [hvalue] at hpositive hnegative
    exact ⟨_, _, hjudge false a p, hjudge true a p, hpositive, hnegative⟩
  case text =>
    intro s hs hne hname a negated p q
    refine ⟨_, hjudge negated a p, ?_⟩
    subst hs
    cases hx
    have htext : (Script.Template.mk (Template.ofName name) q).render
        (vars.insertValue name (.string s)) = .ok s := by
      unfold Script.Template.render
      rw [Template.render_ofName hne hname, Template.lookup_eq]
      simp [Variables.textOf?, hfind, Variable.text?]
    unfold judge
    simp only [Condition.expectation, htext]
    rfl

/-- A captured string with a placeholder in it is compared as it is. -/
theorem standsFor_captured_braces :
    let value := Value.string "\x7b\x7bb\x7d\x7d"
    let vars := (Variables.ofStrings [("b", "x")]).insertValue "a" value
    value ≠ .none ∧ ∃ j, judge (.equals (.string ⟨Template.ofName "a", .start⟩)) true (.string "x")
      vars = .ok j ∧ j.succeeded = true := by
  intro value vars
  have hvalue : value ≠ .none := fun h => nomatch h
  have hstands := standsFor_captured (.ofStrings [("b", "x")]) "a" hvalue
  obtain ⟨-, k, -, hk, -, hnegative⟩ := hstands.equals (.string "x") .start
  obtain ⟨j, hj, htext⟩ :=
    hstands.text _ rfl (by decide) (List.all_eq_true.mp rfl) (.string "x") true .start .start
  obtain rfl : k = j := Except.ok.inj (hk.symm.trans hj)
  exact ⟨hvalue, k, htext, hnegative.trans (by decide)⟩

end HttpScript
