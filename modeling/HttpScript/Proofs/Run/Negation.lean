import HttpScript.Proofs.Run.Fulfilled

/-! # A condition and its negation

A condition that applies to a value holds of it or its negation does. Where it does not apply, the
condition fails; the negation of an equality or of `contains` then succeeds, and that of any other
condition fails, too. Of nothing every negation holds and no condition: for this no variable may
stand for nothing, and none does.

* `Variables.Built`: the stores that strings and captured values give. `Variables.Filled`: none of
  their variables stands for nothing.
* `Condition.Suits`, `Condition.NoPattern`: where a condition applies. `Condition.Invalid`: where it
  demands nothing.
* `Condition.Opposed`: what a condition and its negation have to do with each other.
* `judge_negation`: judging by either of them fails in the same way, just if the condition is
  invalid, or the two are opposed. -/

namespace HttpScript

/-! ### Variables -/

/-- A captured value is the value of its variable. -/
theorem Variable.toValue_of_ofValue? {v : Value} {x : Variable} (h : Variable.ofValue? v = some x) :
    x.toValue = v := by
  cases v <;> cases h <;> rfl

namespace Variables

/-- **The stores that there are**: strings, and captured values set one after the other. -/
inductive Built : Variables → Prop
  | ofStrings (l : List (String × String)) : Built (ofStrings l)
  | insertValue {s : Variables} (h : Built s) (name : String) (v : Value) :
      Built (s.insertValue name v)

/-- **No variable stands for nothing.** -/
def Filled (s : Variables) : Prop := ∀ name x, s.find? name = some x → x.toValue ≠ .none

theorem filled_empty : Filled empty := by
  intro name x hx
  cases hx

theorem Filled.insert {s : Variables} (h : s.Filled) (name : String) {x : Variable}
    (hx : x.toValue ≠ .none) : (s.insert name x).Filled := by
  intro n y hy
  rw [find?_insert] at hy
  split at hy
  · cases hy
    exact hx
  · exact h n y hy

theorem Filled.insertValue {s : Variables} (h : s.Filled) (name : String) (v : Value) :
    (s.insertValue name v).Filled := by
  unfold Variables.insertValue
  split
  · rename_i x hx
    refine h.insert name ?_
    rw [Variable.toValue_of_ofValue? hx]
    rintro rfl
    cases hx
  · exact h

theorem filled_ofStrings (l : List (String × String)) : (ofStrings l).Filled := by
  have hfold : ∀ s : Variables, s.Filled →
      (l.foldl (fun s p => s.insert p.1 (.string p.2)) s).Filled := by
    induction l with
    | nil => exact fun s hs => hs
    | cons p l ih => exact fun s hs => ih _ (hs.insert p.1 (by simp [Variable.toValue]))
  exact hfold empty filled_empty

theorem Built.filled {s : Variables} (h : s.Built) : s.Filled := by
  induction h with
  | ofStrings l => exact filled_ofStrings l
  | insertValue _ name v ih => exact ih.insertValue name v

theorem Built.withCaptured {s : Variables} (h : s.Built) (l : List Run.Captured) :
    (s.withCaptured l).Built := by
  induction l generalizing s with
  | nil => exact h
  | cons c l ih =>
    rw [← List.singleton_append, withCaptured_append, withCaptured_singleton]
    exact ih (h.insertValue c.name c.value)

end Variables

theorem Run.runEntries_built {σ : Type} {s : Variables} (h : s.Built) (c : Run.Client σ)
    (m : Run.Material) (toEntry : Option Nat) (number : Nat) (l : List Script.Entry) (w : σ) :
    (Run.runEntries c m toEntry number l s w).2.1.Built := by
  rw [Run.runEntries_store]
  exact h.withCaptured _

namespace Script.Condition

variable {c : Condition} {vars : Variables} {a : Value} {e : Expectation}

/-! ### Where a condition applies -/

/-- **The conditions that speak of values of all kinds**: equality, `contains` and `exists`. -/
def IsGeneral : Condition → Prop
  | equals _ | equalsVariable _ _ | contains _ | present => True
  | _ => False

theorem isGeneral_iff (c : Condition) :
    c.IsGeneral ↔ c.negationAcceptsMismatch = true ∨ c = present := by
  cases c <;> simp [IsGeneral, negationAcceptsMismatch]

/-- **The kinds of values that the other conditions speak of.** -/
def Suits : Condition → Value → Prop
  | startsWith _, .string _ | like _, .string _ => True
  | ordered _ _, .number _ => True
  | includes _, .list _ => True
  | countEquals _, .list _ | countEquals _, .nodes _ => True
  | _, _ => False

/-- **The text that a value should match is no pattern.** -/
def NoPattern (c : Condition) (vars : Variables) : Prop :=
  ∃ t text, c = like t ∧ t.render vars = .ok text ∧ Pattern.read? text = none

/-! ### Where a condition is invalid -/

/-- The template of the text that a condition is about. -/
def template? : Condition → Option Template
  | equals (.string t) | startsWith t | contains t | includes (.string t) | like t => some t
  | _ => none

/-- **What is wrong with a condition**, whatever it should judge: its template cannot be filled in,
or there is no variable of its name. -/
inductive Invalid (vars : Variables) : Condition → HttpScript.Template.InvalidVariable → Prop
  | template {c : Condition} {t : Template} {fault : HttpScript.Template.InvalidVariable}
      (hc : c.template? = some t) (h : t.render vars = .error fault) : Invalid vars c fault
  | undefined {name : String} {p : Position} (h : vars.find? name = none) :
      Invalid vars (equalsVariable name p) ⟨name, p, .undefined⟩

theorem expectation_template {t : Template} (hc : c.template? = some t) (vars : Variables)
    (a : Value) : ∃ f : String → Expectation,
      c.expectation vars a = do return f (← t.render vars) := by
  cases c with
  | equals l | includes l =>
    cases l with
    | string _ => cases hc; exact ⟨_, rfl⟩
    | _ => cases hc
  | startsWith _ | contains _ | like _ => cases hc; exact ⟨_, rfl⟩
  | _ => cases hc

theorem expectation_variable (name : String) (p : Position) (vars : Variables) (a : Value) :
    (equalsVariable name p).expectation vars a =
      (vars.find? name).elim (.error ⟨name, p, .undefined⟩) fun x => .ok (.equalsVariable x a) := by
  simp only [expectation]
  cases vars.find? name <;> rfl

/-- **A condition demands nothing just if it is invalid.** -/
theorem expectation_error_iff {fault : HttpScript.Template.InvalidVariable} :
    c.expectation vars a = .error fault ↔ Invalid vars c fault := by
  constructor
  · intro h
    cases hc : c.template? with
    | some t =>
      obtain ⟨f, hf⟩ := expectation_template hc vars a
      rw [hf] at h
      cases htext : t.render vars with
      | error _ => rw [htext] at h; cases h; exact .template hc htext
      | ok _ => rw [htext] at h; cases h
    | none =>
      cases c with
      | equalsVariable name p =>
        rw [expectation_variable] at h
        cases hx : vars.find? name with
        | none => rw [hx] at h; cases h; exact .undefined hx
        | some _ => rw [hx] at h; cases h
      | startsWith _ | contains _ | like _ => cases hc
      | equals l | includes l =>
        cases l with
        | string _ => cases hc
        | _ => cases h
      | _ => cases h
  · rintro (⟨hc, htext⟩ | hx)
    · obtain ⟨f, hf⟩ := expectation_template hc vars a
      rw [hf, htext]
      rfl
    · rw [expectation_variable, hx]
      rfl

/-! ### What a condition says -/

/-- What is demanded with the text of a template. -/
theorem exists_text {t : Template} {f : String → Expectation}
    (h : (do return f (← t.render vars)) = Except.ok e) :
    ∃ text, t.render vars = .ok text ∧ f text = e := by
  cases htext : t.render vars with
  | error _ => rw [htext] at h; cases h
  | ok text => rw [htext] at h; cases h; exact ⟨text, rfl, rfl⟩

theorem exists_variable {name : String} {p : Position}
    (h : (equalsVariable name p).expectation vars a = .ok e) :
    ∃ x, vars.find? name = some x ∧ Expectation.equalsVariable x a = e := by
  rw [expectation_variable] at h
  cases hx : vars.find? name with
  | none => rw [hx] at h; cases h
  | some x => rw [hx] at h; cases h; exact ⟨x, rfl, rfl⟩

theorem includes_holds {l : Literal} (he : (includes l).expectation vars a = .ok e) :
    ∃ item, e.holds = Expectation.listHolds item a := by
  cases l with
  | string t =>
    obtain ⟨text, -, rfl⟩ := exists_text he
    exact ⟨.string text, rfl⟩
  | number x => cases he; exact ⟨.number x, rfl⟩
  | bool b => cases he; exact ⟨.bool b, rfl⟩
  | null => cases he; exact ⟨.object .null, rfl⟩

/-- Whether a value matches a text is not said just if it is no string or the text is no pattern. -/
theorem like_holds_eq_none_iff (text : String) (a : Value) :
    (Expectation.like text a).holds = none ↔
      (∀ s, a ≠ .string s) ∨ Pattern.read? text = none := by
  unfold Expectation.like
  cases Pattern.read? text with
  | none => simp
  | some p => cases a <;> simp

/-- **Where a condition that is not general says nothing**: of a value that it does not suit, and
without a pattern. -/
theorem holds_eq_none_iff (he : c.expectation vars a = .ok e) (hc : ¬ c.IsGeneral) :
    e.holds = none ↔ ¬ c.Suits a ∨ c.NoPattern vars := by
  cases c with
  | equals _ | equalsVariable _ _ | contains _ | present => exact absurd trivial hc
  | ordered o x =>
    cases he
    cases a <;> simp [Expectation.ordered, Suits, NoPattern]
  | startsWith t =>
    obtain ⟨text, -, rfl⟩ := exists_text he
    cases a <;> simp [Expectation.startsWith, Suits, NoPattern]
  | includes l =>
    obtain ⟨item, hitem⟩ := includes_holds he
    rw [hitem]
    cases a <;> simp [Expectation.listHolds, Suits, NoPattern]
  | like t =>
    obtain ⟨text, htext, rfl⟩ := exists_text he
    have hkind : (∀ s, a ≠ .string s) ↔ ¬ (like t).Suits a := by cases a <;> simp [Suits]
    have hpattern : Pattern.read? text = none ↔ (like t).NoPattern vars := by
      simp [NoPattern, htext]
    rw [like_holds_eq_none_iff, hkind, hpattern]
  | countEquals n =>
    cases he
    cases a <;> simp [Expectation.countEquals, Suits, NoPattern]

/-- A general condition that says nothing of a value has a negation that accepts the value. -/
theorem negationAcceptsMismatch_of_holds (he : c.expectation vars a = .ok e) (hc : c.IsGeneral)
    (hholds : e.holds = none) : c.negationAcceptsMismatch = true := by
  rcases c.isGeneral_iff.mp hc with haccepts | rfl
  · exact haccepts
  · cases he
    unfold Expectation.present at hholds
    split at hholds <;> cases hholds

/-! ### Nothing -/

theorem equalsVariable_nothing {x : Variable} (hx : x.toValue ≠ .none) :
    (Expectation.equalsVariable x .none).holds ≠ some true := by
  cases x with
  | string _ | number _ | bool _ => simp [Expectation.equalsVariable, Expectation.equalsString,
      Expectation.equalsNumber, Expectation.equalsBool]
  | opaqueValue v =>
    cases v with
    | none => exact absurd rfl hx
    | _ => exact fun h => by cases h

/-- **No condition is met by nothing.** -/
theorem holds_nothing (hvars : vars.Filled) (he : c.expectation vars .none = .ok e) :
    e.holds ≠ some true := by
  cases c with
  | equals l =>
    cases l with
    | string t =>
      obtain ⟨text, -, rfl⟩ := exists_text he
      simp [Expectation.equalsString]
    | _ =>
      cases he
      simp [Expectation.equalsNumber, Expectation.equalsBool, Expectation.equalsNull]
  | equalsVariable name p =>
    obtain ⟨x, hx, rfl⟩ := exists_variable he
    exact equalsVariable_nothing (hvars name x hx)
  | contains t =>
    obtain ⟨text, -, rfl⟩ := exists_text he
    simp [Expectation.contains]
  | present => cases he; simp [Expectation.present]
  | _ =>
    have hnone := (holds_eq_none_iff he (by simp [IsGeneral])).mpr (.inl (by simp [Suits]))
    simp [hnone]

/-! ### A condition and its negation -/

/-- **A condition and its negation on one value**, by whether they succeed. -/
structure Opposed (c : Condition) (vars : Variables) (a : Value) (positive negative : Bool) :
    Prop where
  /-- They do not both succeed. -/
  exclusive : ¬ (positive = true ∧ negative = true)
  /-- One succeeds just if the other does not, where nothing was found or the condition applies. -/
  complement : a = .none ∨ c.IsGeneral ∨ (c.Suits a ∧ ¬ c.NoPattern vars) → negative = !positive
  /-- Both fail just where the condition does not apply to what was found. -/
  neither : positive = false ∧ negative = false ↔
    a ≠ .none ∧ ¬ c.IsGeneral ∧ (¬ c.Suits a ∨ c.NoPattern vars)
  /-- Of nothing only the negation holds. -/
  nothing : a = .none → positive = false ∧ negative = true

/-- Of what was found a condition succeeds just if it is met. If it says nothing, its negation
succeeds just if it accepts such values. -/
theorem succeeds_found (ha : a ≠ .none) (holds : Option Bool) :
    c.succeeds false a holds = holds.getD false ∧
      c.succeeds true a holds = holds.elim c.negationAcceptsMismatch (!·) := by
  unfold succeeds
  constructor
  · cases holds with
    | none => rfl
    | some b => cases b <;> rfl
  · cases a with
    | none => exact absurd rfl ha
    | _ => cases holds <;> rfl

theorem opposed_nothing (hvars : vars.Filled) (he : c.expectation vars .none = .ok e) :
    Opposed c vars .none (c.succeeds false .none e.holds) (c.succeeds true .none e.holds) := by
  have hfails : c.succeeds false .none e.holds = false := by
    simpa [succeeds] using holds_nothing hvars he
  have hsucceeds : c.succeeds true .none e.holds = true := rfl
  rw [hfails, hsucceeds]
  exact ⟨by simp, fun _ => rfl, by simp, fun _ => ⟨rfl, rfl⟩⟩

theorem opposed_found (ha : a ≠ .none) (he : c.expectation vars a = .ok e) :
    Opposed c vars a (c.succeeds false a e.holds) (c.succeeds true a e.holds) := by
  obtain ⟨hpositive, hnegative⟩ := succeeds_found (c := c) ha e.holds
  rw [hpositive, hnegative]
  cases hholds : e.holds with
  | some b =>
    -- the condition says something, so that it applies
    have happlies : ¬ c.IsGeneral → c.Suits a ∧ ¬ c.NoPattern vars := fun hc => by
      have hsome : e.holds ≠ none := by simp [hholds]
      simpa using mt (holds_eq_none_iff he hc).mpr hsome
    refine ⟨by cases b <;> simp, fun _ => rfl, ?_, fun h => absurd h ha⟩
    constructor
    · cases b <;> simp
    · rintro ⟨-, hc, hout⟩
      obtain ⟨hsuits, hpattern⟩ := happlies hc
      exact absurd hout (by simp [hsuits, hpattern])
  | none =>
    by_cases hc : c.IsGeneral
    · have haccepts := negationAcceptsMismatch_of_holds he hc hholds
      simp only [Option.getD_none, Option.elim_none, haccepts]
      exact ⟨by simp, fun _ => rfl, by simp [hc], fun h => absurd h ha⟩
    · have hout := (holds_eq_none_iff he hc).mp hholds
      have hrejects : c.negationAcceptsMismatch = false := by
        simpa using fun h => hc (c.isGeneral_iff.mpr (.inl h))
      simp only [Option.getD_none, Option.elim_none, hrejects]
      refine ⟨by simp, ?_, by simp [ha, hc, hout], fun h => absurd h ha⟩
      rintro (h | h | ⟨hsuits, hpattern⟩)
      · exact absurd h ha
      · exact absurd h hc
      · exact absurd hout (by simp [hsuits, hpattern])

end Script.Condition

/-- **A condition and its negation.** If the condition is invalid, judging a value by either of them
fails in the same way. Otherwise both judge the value, and they are opposed. -/
theorem judge_negation {vars : Variables} (hvars : vars.Built) (c : Script.Condition) (a : Value) :
    (∃ fault, c.Invalid vars fault ∧ judge c false a vars = .error fault ∧
      judge c true a vars = .error fault) ∨
    (∀ fault, ¬ c.Invalid vars fault) ∧
      ∃ p n, judge c false a vars = .ok p ∧ judge c true a vars = .ok n ∧
        c.Opposed vars a p.succeeded n.succeeded := by
  unfold judge
  cases he : c.expectation vars a with
  | error fault => exact .inl ⟨fault, Script.Condition.expectation_error_iff.mp he, rfl, rfl⟩
  | ok e =>
    have hvalid : ∀ fault, ¬ c.Invalid vars fault := fun fault hfault => by
      rw [Script.Condition.expectation_error_iff.mpr hfault] at he
      cases he
    refine .inr ⟨hvalid, _, _, rfl, rfl, ?_⟩
    by_cases ha : a = .none
    · subst ha
      exact Script.Condition.opposed_nothing hvars.filled he
    · exact Script.Condition.opposed_found ha he

/-- A string is neither of some length nor not of that length. -/
theorem judge_negation_count :
    let vars := (Variables.ofStrings [("name", "x")]).insertValue "ids" (.list [.number 1])
    vars.Built ∧ ∃ p n, judge (.countEquals 1) false (.string "x") vars = .ok p ∧
      judge (.countEquals 1) true (.string "x") vars = .ok n ∧
      p.succeeded = false ∧ n.succeeded = false := by
  intro vars
  have hbuilt : vars.Built := .insertValue (.ofStrings _) _ _
  rcases judge_negation hbuilt (.countEquals 1) (.string "x") with
    ⟨fault, -, hfault, -⟩ | ⟨-, p, n, hp, hn, hopposed⟩
  · cases hfault
  · have hneither := hopposed.neither.mpr ⟨by simp, fun h => h, .inl fun h => h⟩
    exact ⟨hbuilt, p, n, hp, hn, hneither⟩

end HttpScript
