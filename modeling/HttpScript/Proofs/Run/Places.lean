import HttpScript.Proofs.Grammar.Positions
import HttpScript.Proofs.Run.Shape
import HttpScript.Report.Located

/-! # Where a run finds fault

Every error that a run records, and every check, is about a position that the entry holds.

* `Ends`, `Faults`: what holds of an outcome, which is a value or an error.
* `fill_faults`, `capture_faults`, `checks_ends`: where requests, captures and checks find fault.
* `run_problems`: a run finds fault only at positions of its entries. -/

namespace HttpScript

/-- **How an outcome ends**: an error satisfies `E` and a value satisfies `V`. -/
def Ends {ε α : Type} (E : ε → Prop) (V : α → Prop) : Except ε α → Prop
  | .error e => E e
  | .ok a => V a

/-- What holds of an error, if an outcome is one. -/
abbrev Faults {ε α : Type} (E : ε → Prop) : Except ε α → Prop := Ends E fun _ => True

section

variable {ε δ α β : Type} {E E' : ε → Prop} {D : δ → Prop} {V : α → Prop} {W : β → Prop}
  {r : Except ε α}

namespace Ends

theorem pure {a : α} (h : V a) : Ends E V (Pure.pure a : Except ε α) := h

theorem bind {f : α → Except ε β} (h : Ends E V r) (hf : ∀ a, V a → Ends E W (f a)) :
    Ends E W (r >>= f) := by
  cases r with
  | error e => exact h
  | ok a => exact hf a h

end Ends

namespace Faults

theorem mono (h : Faults E r) (hE : ∀ e, E e → E' e) : Faults E' r := by
  cases r with
  | error e => exact hE e h
  | ok a => trivial

/-- What is made of a value without fault has the faults of that value. -/
theorem andThen {f : α → β} (h : Faults E r) : Faults E (r >>= fun a => Pure.pure (f a)) :=
  h.bind fun _ _ => Ends.pure trivial

theorem mapError {f : ε → δ} (h : Faults E r) (hf : ∀ e, E e → D (f e)) :
    Faults D (r.mapError f) := by
  cases r with
  | error e => exact hf e h
  | ok a => trivial

theorem mapM {f : α → Except ε β} {l : List α} (h : ∀ a ∈ l, Faults E (f a)) :
    Faults E (l.mapM f) := by
  induction l with
  | nil => exact Ends.pure trivial
  | cons a l ih =>
    have ha : Faults E (f a) := h a (List.mem_cons_self ..)
    have hl : Faults E (l.mapM f) := ih fun b hb => h b (List.mem_cons_of_mem a hb)
    rw [List.mapM_cons]
    exact ha.bind fun _ _ => hl.andThen

theorem mapM_option {f : α → Except ε β} {o : Option α} (h : ∀ a ∈ o, Faults E (f a)) :
    Faults E (o.mapM f) := by
  cases o with
  | none => exact Ends.pure trivial
  | some a => exact (h a rfl).andThen

end Faults

end

open Script

/-! ### Placeholders -/

theorem Template.render_faults (vars : Variables) (p : Position) (text : String) :
    Faults (·.position = p) (render vars p text) := by
  have hlookup : ∀ name, Faults (·.position = p) (lookup vars p name) := by
    intro name
    unfold lookup
    dsimp only
    split
    · exact rfl
    · split
      · trivial
      · exact rfl
  have hfill : ∀ s : Segment, Faults (·.position = p) (s.fill vars p) := fun s => by
    cases s with
    | literal l => trivial
    | placeholder l name => exact hlookup name
  exact (Faults.mapM fun s _ => hfill s).andThen

theorem Script.Template.render_faults (t : Script.Template) (vars : Variables) :
    Faults (·.position ∈ t.positions) (t.render vars) :=
  (HttpScript.Template.render_faults vars t.position t.value).mono
    fun _ he => List.mem_singleton.mpr he

/-- The template of a further step. -/
def Script.Subquery.pattern? : Subquery → Option Template
  | .regex t => some t
  | .count => none

/-- **The templates of a query.** -/
def Script.Query.templates (q : Script.Query) : List Template :=
  q.source.argument?.toList ++ (q.subquery.bind (·.pattern?)).toList

namespace Query

/-- What holds of the placeholder that a query cannot fill, if that is its fault. -/
def Fault.Of (P : HttpScript.Template.InvalidVariable → Prop) : Fault → Prop
  | .placeholder e => P e
  | _ => True

variable {P : HttpScript.Template.InvalidVariable → Prop}

theorem rendered_faults (x : Exchange) {t : Script.Template} (h : Faults P (t.render x.store)) :
    Faults (Fault.Of P) (rendered x t) :=
  h.mapError fun _ he => he

theorem bodyText_faults (x : Exchange) : Faults (Fault.Of P) (bodyText x) := by
  unfold bodyText
  cases x.response.text <;> trivial

theorem patternOf_faults (E : Pattern.Engine) (s : String) :
    Faults (Fault.Of P) (patternOf E s) := by
  unfold patternOf
  cases E.compile s <;> trivial

theorem read_faults (x : Exchange) {s : Source}
    (h : ∀ t ∈ s.argument?, Faults P (t.render x.store)) : Faults (Fault.Of P) (read x s) := by
  cases s with
  | status | duration => trivial
  | header t => exact (rendered_faults x (h t rfl)).andThen
  | cookie t =>
    refine (rendered_faults x (h t rfl)).bind fun name _ => ?_
    cases CookiePath.find name (x.response.header "Set-Cookie") <;> trivial
  | body => exact (bodyText_faults x).andThen
  | jsonpath t =>
    refine (rendered_faults x (h t rfl)).bind fun expression _ =>
      (bodyText_faults x).bind fun text _ => ?_
    cases Lookup.json expression text <;> trivial
  | xpath t =>
    refine (rendered_faults x (h t rfl)).bind fun expression _ =>
      (bodyText_faults x).bind fun text _ => ?_
    split
    · trivial
    · cases Lookup.xml expression text <;> trivial
  | regex t =>
    exact (rendered_faults x (h t rfl)).bind fun s _ => (patternOf_faults _ s).bind fun _ _ =>
      (bodyText_faults x).andThen
  | stored t =>
    refine (rendered_faults x (h t rfl)).bind fun name _ => ?_
    split <;> trivial

theorem refine_faults (x : Exchange) (v : Value) {s : Subquery}
    (h : ∀ t ∈ s.pattern?, Faults P (t.render x.store)) : Faults (Fault.Of P) (refine x v s) := by
  cases s with
  | count => cases v <;> trivial
  | regex t =>
    cases v with
    | string s =>
      exact (rendered_faults x (h t rfl)).bind fun p _ => (patternOf_faults _ p).bind fun _ _ =>
        (patternOf_faults _ (Pattern.wholeText p)).andThen
    | _ => trivial

/-- **A placeholder that a query cannot fill** is one of its templates. -/
theorem eval_faults_of (q : Script.Query) (x : Exchange)
    (h : ∀ t ∈ q.templates, Faults P (t.render x.store)) : Faults (Fault.Of P) (q.eval x) := by
  have hread : Faults (Fault.Of P) (read x q.source) := read_faults x fun t ht =>
    h t (List.mem_append_left _ (Option.mem_toList.mpr ht))
  refine hread.bind fun v _ => ?_
  cases hs : q.subquery with
  | none => exact Ends.pure trivial
  | some s =>
    refine refine_faults x v fun t ht => h t (List.mem_append_right _ (Option.mem_toList.mpr ?_))
    rw [hs]
    exact ht

/-- A placeholder that a query cannot fill is at one of the positions. The other faults have no
position of their own. -/
def Fault.In (l : List Position) : Fault → Prop
  | .placeholder e => e.position ∈ l
  | _ => True

end Query

theorem Script.Query.eval_faults (q : Script.Query) (x : Exchange) :
    Faults (Query.Fault.In q.positions) (q.eval x) := by
  have hposition : ∀ t ∈ q.templates, ∀ p ∈ t.positions, p ∈ q.positions := fun t ht p hp => by
    rcases List.mem_append.mp ht with ht | ht
    · have hsource : p ∈ q.source.positions := by
        unfold Source.positions
        rw [Option.mem_toList.mp ht]
        exact hp
      simp [Query.positions, hsource]
    · obtain ⟨s, hs, hpattern⟩ := Option.bind_eq_some_iff.mp (Option.mem_toList.mp ht)
      cases s with
      | count => cases hpattern
      | regex t' =>
        cases hpattern
        simp [Query.positions, hs, Subquery.positions, hp]
  have hfaults := Query.eval_faults_of q x fun t ht =>
    (t.render_faults x.store).mono fun e => hposition t ht e.position
  exact hfaults.mono fun f hf => by cases f <;> exact hf

theorem Script.Condition.expectation_faults (c : Condition) (vars : Variables) (actual : Value) :
    Faults (·.position ∈ c.positions) (c.expectation vars actual) := by
  cases c with
  | equals v | includes v =>
    cases v with
    | string t => exact (t.render_faults vars).andThen
    | _ => trivial
  | equalsVariable name p =>
    simp only [expectation]
    split
    · exact List.mem_singleton_self p
    · trivial
  | startsWith t | contains t | like t => exact (t.render_faults vars).andThen
  | ordered | countEquals | present => trivial

theorem judge_faults (c : Condition) (negated : Bool) (actual : Value) (vars : Variables) :
    Faults (·.position ∈ c.positions) (judge c negated actual vars) :=
  (c.expectation_faults vars actual).andThen

namespace Run

/-! ### Requests -/

/-- An error is at one of the positions. -/
def Error.In (l : List Position) (e : Error) : Prop := e.position ∈ l

theorem Error.In.mono {l k : List Position} (h : ∀ p ∈ l, p ∈ k) (e : Error) (he : e.In l) :
    e.In k := h _ he

theorem fillText_faults (s : Variables) (t : Script.Template) :
    Faults (Error.In t.positions) (fillText s t) :=
  (t.render_faults s).mapError fun _ he => he

theorem fillFields_faults (s : Variables) (l : List Field) :
    Faults (Error.In (l.flatMap (·.positions))) (fillFields s l) := by
  refine Faults.mapM fun f hf => ?_
  have hvalue : Faults (Error.In (l.flatMap (·.positions))) (fillText s f.value) :=
    (fillText_faults s f.value).mono (Error.In.mono fun p hp =>
      List.mem_flatMap.mpr ⟨f, hf, List.mem_cons_of_mem _ hp⟩)
  exact hvalue.andThen

theorem Material.read_faults (m : Material) (name : String) (p : Position) :
    Faults (Error.In [p]) (m.read name p) := by
  unfold Material.read
  dsimp only
  cases m.files.read (Path.join m.root name) with
  | error fault => exact List.mem_singleton_self p
  | ok bytes => trivial

theorem fillContent_faults (m : Material) (s : Variables) (c : Content) :
    Faults (Error.In c.positions) (fillContent m s c) := by
  cases c with
  | json t | xml t | raw t => exact (fillText_faults s t).andThen
  | base64 l => trivial
  | file name p => exact m.read_faults name p

theorem fillBody_faults (m : Material) (s : Variables) (b : Body) :
    Faults (Error.In b.content.positions) (fillBody m s b) :=
  (fillContent_faults m s b.content).andThen

theorem fillPart_faults (m : Material) (s : Variables) (p : Part) :
    Faults (Error.In p.positions) (fillPart m s p) := by
  cases p with
  | text f =>
    have hvalue : Faults (Error.In f.positions) (fillText s f.value) :=
      (fillText_faults s f.value).mono (Error.In.mono fun _ => List.mem_cons_of_mem _)
    exact hvalue.andThen
  | file f => exact (m.read_faults f.filename f.position).andThen

/-- **A request that cannot be made** fails at one of its positions. -/
theorem fill_faults (r : Script.Request) (m : Material) (s : Variables) :
    Faults (Error.In r.positions) (r.fill m s) := by
  have hfields : ∀ l ∈ [r.headers, r.query, r.form, r.cookies],
      Faults (Error.In r.positions) (fillFields s l) := by
    intro l hl
    refine (fillFields_faults s l).mono (Error.In.mono fun p hp => ?_)
    simp only [List.mem_cons, List.not_mem_nil, or_false] at hl
    rcases hl with rfl | rfl | rfl | rfl <;>
      simp only [Request.positions, List.mem_append, hp, true_or, or_true]
  have hbody : Faults (Error.In r.positions) (r.body.mapM (fillBody m s)) :=
    Faults.mapM_option fun b hb => (fillBody_faults m s b).mono (Error.In.mono fun p hp => by
      simp [Request.positions, Option.mem_def.mp hb, Body.positions, hp])
  have hparts : Faults (Error.In r.positions) (r.multipart.mapM (fillPart m s)) :=
    Faults.mapM fun part hpart => (fillPart_faults m s part).mono (Error.In.mono fun p hp => by
      have hp : p ∈ r.multipart.flatMap (·.positions) := List.mem_flatMap.mpr ⟨part, hpart, hp⟩
      simp only [Request.positions, List.mem_append, hp, true_or, or_true])
  have hurl : Faults (Error.In r.positions) (fillText s r.url) :=
    (fillText_faults s r.url).mono (Error.In.mono fun p hp => by
      simp only [Request.positions, List.mem_append, hp, true_or, or_true])
  exact hbody.bind fun _ _ => hparts.bind fun _ _ => hurl.bind fun _ _ =>
    (hfields r.headers (by simp)).bind fun _ _ => (hfields r.query (by simp)).bind fun _ _ =>
    (hfields r.form (by simp)).bind fun _ _ => (hfields r.cookies (by simp)).andThen

/-! ### Captures and checks -/

theorem capture_faults (x : Exchange) (c : Script.Capture) :
    Faults (Error.In c.positions) (capture x c) := by
  have hquery := c.query.eval_faults x
  unfold capture
  cases h : c.query.eval x with
  | ok v => trivial
  | error fault =>
    rw [h] at hquery
    cases fault with
    | placeholder e => exact List.mem_cons_of_mem _ hquery
    | _ => exact List.mem_cons_self ..

/-- A check, or the error that there is instead of it, is at one of the positions. -/
abbrev CheckIn (l : List Position) : Except Error Verdict → Prop :=
  Ends (Error.In l) (·.position ∈ l)

theorem CheckIn.mono {l k : List Position} {o : Except Error Verdict} (ho : CheckIn l o)
    (h : ∀ p ∈ l, p ∈ k) : CheckIn k o := by
  cases o with
  | error e => exact h _ ho
  | ok v => exact h _ ho

theorem checkHeader_ends (f : Field) (x : Exchange) : CheckIn f.positions (checkHeader f x) := by
  have hvalue : Faults (Error.In f.positions) (fillText x.store f.value) :=
    (fillText_faults x.store f.value).mono (Error.In.mono fun _ => List.mem_cons_of_mem _)
  refine hvalue.bind fun expected _ => ?_
  dsimp only
  split <;> exact List.mem_cons_self ..

theorem checkBody_ends (b : Body) (x : Exchange) (m : Material) :
    CheckIn b.positions (checkBody b x m) := by
  have hexpected : Faults (Error.In b.positions) (fillContent m x.store b.content) :=
    (fillContent_faults m x.store b.content).mono (Error.In.mono fun _ => List.mem_cons_of_mem _)
  have hactual : Faults (Error.In b.positions)
      (x.response.content.mapError (.body · b.position)) := by
    cases x.response.content with
    | error fault => exact List.mem_cons_self ..
    | ok bytes => trivial
  refine hexpected.bind fun expected _ => hactual.bind fun actual _ => ?_
  split <;> exact List.mem_cons_self ..

theorem checkAssert_ends (a : Assert) (x : Exchange) : CheckIn a.positions (checkAssert a x) := by
  have hquery := a.query.eval_faults x
  unfold checkAssert
  cases h : a.query.eval x with
  | error fault =>
    rw [h] at hquery
    cases fault with
    | placeholder e =>
      have he : e.position ∈ a.query.positions := hquery
      exact (List.mem_append_left _ (List.mem_cons_of_mem _ he) : e.position ∈ a.positions)
    | _ => exact List.mem_cons_self ..
  | ok actual =>
    have hjudge := judge_faults a.predicate.condition a.predicate.negated actual x.store
    have herror : Faults (Error.In a.positions) ((judge a.predicate.condition a.predicate.negated
        actual x.store).mapError .placeholder) :=
      hjudge.mapError fun e he => by simp [Error.In, Error.position, Assert.positions,
        Predicate.positions, he]
    exact herror.bind fun _ _ => Ends.pure (List.mem_cons_self ..)

theorem checkExpected_ends (r : Script.Response) (x : Exchange) (m : Material) :
    ∀ o ∈ checkExpected r x m, CheckIn r.positions o := by
  have hversion : (checkVersion r.version x.response).position = r.version.position := by
    unfold checkVersion
    dsimp only
    split_ifs <;> rfl
  have hstatus : (checkStatus r.status x.response).position = r.status.position := by
    unfold checkStatus
    split
    · rfl
    · split_ifs <;> rfl
  intro o ho
  simp only [checkExpected, List.mem_append, List.mem_cons, List.mem_map, Option.mem_toList] at ho
  rcases ho with (rfl | rfl | ⟨f, hf, rfl⟩) | ⟨b, hb, rfl⟩
  · simp [Ends, Response.positions, hversion]
  · simp [Ends, Response.positions, hstatus]
  · refine (checkHeader_ends f x).mono fun p hp => ?_
    have hp : p ∈ r.headers.flatMap (·.positions) := List.mem_flatMap.mpr ⟨f, hf, hp⟩
    simp only [Response.positions, List.mem_cons, List.mem_append, hp, true_or, or_true]
  · refine (checkBody_ends b x m).mono fun p hp => ?_
    simp [Response.positions, hb, hp]

/-- What stands in a request or in the expected response has its positions in the entry. -/
theorem mem_positions {α : Type} {f : α → List Position}
    {own : Script.Request → List α} {expected : Script.Response → List α} {e : Entry}
    (hown : ∀ r, ∀ p ∈ (own r).flatMap f, p ∈ r.positions)
    (hexpected : ∀ r, ∀ p ∈ (expected r).flatMap f, p ∈ r.positions) {a : α}
    (ha : a ∈ own e.request ++ e.response.elim [] expected) : ∀ p ∈ f a, p ∈ e.positions := by
  intro p hp
  rcases List.mem_append.mp ha with ha | ha
  · have hrequest := hown e.request p (List.mem_flatMap.mpr ⟨a, ha, hp⟩)
    exact List.mem_append_left _ hrequest
  · cases hr : e.response with
    | none => simp [hr] at ha
    | some r =>
      rw [hr] at ha
      have hresponse := hexpected r p (List.mem_flatMap.mpr ⟨a, ha, hp⟩)
      refine List.mem_append_right _ ?_
      rw [hr]
      exact hresponse

theorem capture_positions {e : Entry} {c : Script.Capture} (hc : c ∈ e.captures) :
    ∀ p ∈ c.positions, p ∈ e.positions := by
  refine mem_positions (fun r p hp => ?_) (fun r p hp => ?_) hc
  · simp only [Request.positions, List.mem_append, hp, true_or, or_true]
  · simp only [Response.positions, List.mem_append, List.mem_cons, hp, true_or, or_true]

theorem assert_positions {e : Entry} {a : Assert} (ha : a ∈ e.asserts) :
    ∀ p ∈ a.positions, p ∈ e.positions := by
  refine mem_positions (fun r p hp => ?_) (fun r p hp => ?_) ha
  · simp only [Request.positions, List.mem_append, hp, true_or, or_true]
  · simp only [Response.positions, List.mem_append, List.mem_cons, hp, true_or, or_true]

theorem checks_ends (e : Entry) (x : Exchange) (m : Material) :
    ∀ o ∈ checks e x m, CheckIn e.positions o := by
  intro o ho
  unfold checks at ho
  rcases List.mem_append.mp ho with ho | ho
  · cases hr : e.response with
    | none => simp [hr] at ho
    | some r =>
      rw [hr] at ho
      exact (checkExpected_ends r x m o ho).mono fun p hp => by simp [Entry.positions, hr, hp]
  · obtain ⟨a, ha, rfl⟩ := List.mem_map.mp ho
    exact (checkAssert_ends a x).mono (assert_positions ha)

theorem captureAll_faults (r : Http.Response) (s : Variables) (l : List Script.Capture) :
    ∀ o ∈ (captureAll r s l).1, ∃ c ∈ l, Faults (Error.In c.positions) o := by
  induction l generalizing s with
  | nil => simp [captureAll]
  | cons c l ih =>
    intro o ho
    rcases List.mem_cons.mp ho with rfl | ho
    · exact ⟨c, List.mem_cons_self .., capture_faults _ c⟩
    · obtain ⟨c', hc', h⟩ := ih _ o ho
      exact ⟨c', List.mem_cons_of_mem _ hc', h⟩

/-! ### Runs -/

theorem mem_errors_iff {α : Type} {l : List (Except Error α)} {e : Error} :
    e ∈ errors l ↔ .error e ∈ l := by
  unfold errors
  rw [List.mem_filterMap]
  constructor
  · rintro ⟨o, ho, he⟩
    cases o with
    | error e' => cases he; exact ho
    | ok a => cases he
  · exact fun h => ⟨_, h, rfl⟩

theorem mem_values_iff {α : Type} {l : List (Except Error α)} {a : α} :
    a ∈ values l ↔ .ok a ∈ l := by
  unfold values
  rw [List.mem_filterMap]
  constructor
  · rintro ⟨o, ho, ha⟩
    cases o with
    | error e => cases ha
    | ok a' => cases ha; exact ho
  · exact fun h => ⟨_, h, rfl⟩

/-- **What goes wrong in an entry** goes wrong at one of its positions. -/
theorem runEntry_problems {σ : Type} (c : Client σ) (m : Material) (e : Entry) (s : Variables)
    (w : σ) : ∀ p ∈ Report.problems (runEntry c m e s w).1, p.1 ∈ e.positions := by
  rcases runEntry_cases c m e s w with ⟨error, hfill, h⟩ | ⟨q, fault, -, -, h⟩ | ⟨q, r, -, -, h⟩
  · have hrequest := fill_faults e.request m s
    rw [hfill] at hrequest
    have he : error.position ∈ e.positions := List.mem_append_left _ hrequest
    simp [h, Report.problems, EntryResult.failedAsserts, he]
  · have he : e.request.position ∈ e.positions := by simp [Entry.positions, Request.positions]
    simp [h, Report.problems, EntryResult.failedAsserts, Error.position, he]
  · rw [h]
    have hcaptures := captureAll_faults r s e.captures
    have hchecks := checks_ends e ⟨r, (captureAll r s e.captures).2⟩ m
    intro p hp
    rcases List.mem_append.mp hp with hp | hp
    · obtain ⟨error, herror, rfl⟩ := List.mem_map.mp hp
      rcases List.mem_append.mp herror with herror | herror
      · obtain ⟨k, hk, hin⟩ := hcaptures _ (mem_errors_iff.mp herror)
        exact capture_positions hk _ hin
      · exact hchecks _ (mem_errors_iff.mp herror)
    · obtain ⟨a, ha, rfl⟩ := List.mem_map.mp hp
      exact hchecks _ (mem_values_iff.mp (List.mem_of_mem_filter ha))

/-- **What goes wrong in a run** goes wrong at positions of its script. -/
theorem run_problems {σ : Type} (script : Script) (c : Client σ) (m : Material)
    (toEntry : Option Nat) (s : Variables) (w : σ) :
    ∀ p ∈ (script.run c m toEntry s w).1.entries.flatMap Report.problems,
      p.1 ∈ script.positions := by
  have hcourse := runEntries_course c m toEntry 1 script.entries s w
  intro p hp
  obtain ⟨r, hr, hp⟩ := List.mem_flatMap.mp hp
  obtain ⟨i, hi, rfl⟩ := List.getElem_of_mem hr
  have hentry := hcourse.entry i hi
  rw [show (script.run c m toEntry s w).1.entries[i] = _ from hentry] at hp
  exact List.mem_flatMap.mpr ⟨_, List.get_mem .., runEntry_problems _ _ _ _ _ p hp⟩

end Run

end HttpScript
