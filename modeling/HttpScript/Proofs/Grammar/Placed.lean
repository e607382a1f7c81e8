import HttpScript.Proofs.Grammar.Positions

/-! # The positions in a script

The rules of the grammar are followed one by one: each tracks the text and yields a part whose
positions are exact, so that every position in a script, or in the error that there is instead, is
exact (`Script.isExact_read?`). -/

namespace HttpScript

namespace Grammar

open Script Text

variable {α : Type} {text : List Char} {i : Nat}

namespace Tracks

/-! ### Queries -/

theorem bareSource {s : Source} (hs : s.argument? = none) :
    Tracks text i (bareSource s) fun s _ => ExactIn text s.positions :=
  (literal _).bind fun _ _ _ _ => pure (by simp [Source.positions, hs])

theorem quotedSource {make : Template → Source} (hmake : ∀ t, (make t).argument? = some t) :
    Tracks text i (quotedSource make) fun s _ => ExactIn text s.positions :=
  (literal _).bind fun _ _ _ _ => someBlanks.bind fun _ _ _ _ => quotedString.bind fun _ _ _ ht =>
    pure (by simp [Source.positions, hmake, ht])

theorem source : Tracks text i source fun s _ => ExactIn text s.positions := by
  refine choice fun r hr => ?_
  simp only [List.mem_cons, List.not_mem_nil, or_false] at hr
  rcases hr with rfl | rfl | rfl | rfl | rfl | rfl | rfl | rfl | rfl
  all_goals first
    | exact bareSource rfl
    | exact quotedSource fun _ => rfl

theorem regexSubquery : Tracks text i regexSubquery fun s _ => ExactIn text s.positions :=
  someBlanks.bind fun _ _ _ _ => (literal _).bind fun _ _ _ _ => someBlanks.bind
    fun _ _ _ _ => quotedString.bind fun _ _ _ ht => pure ht

theorem countSubquery : Tracks text i countSubquery fun s _ => ExactIn text s.positions := by
  refine someBlanks.bind fun _ _ _ _ => (literal _).bind fun _ _ _ _ =>
    peek.bind fun o _ _ _ => ?_
  cases o with
  | none => exact pure (by simp [Subquery.positions])
  | some c => exact .ite (fun _ => pure (by simp [Subquery.positions])) fun _ => failHere

theorem subquery : Tracks text i (Rule.choice [Grammar.regexSubquery, Grammar.countSubquery])
    fun s _ => ExactIn text s.positions := by
  refine choice fun r hr => ?_
  rcases List.mem_pair.mp hr with rfl | rfl
  · exact regexSubquery
  · exact countSubquery

theorem query : Tracks text i query fun q _ => ExactIn text q.positions :=
  position.bind fun _ _ _ ⟨_, hp, _⟩ => source.bind fun _ _ _ hs =>
    subquery.optionalPart.bind fun _ _ _ ho =>
    pure (by simpa [Query.positions, hp, hs, exactIn_elim] using ho)

/-! ### Predicates -/

theorem literalValue {r : Rule Literal}
    (hr : r ∈ [numberLiteral, boolLiteral, stringLiteral, nullLiteral]) :
    Tracks text i r fun l _ => ExactIn text l.positions := by
  simp only [List.mem_cons, List.not_mem_nil, or_false] at hr
  rcases hr with rfl | rfl | rfl | rfl
  · exact number.map fun _ _ _ _ => by simp [Literal.positions]
  · exact boolean.map fun _ _ _ _ => by simp [Literal.positions]
  · exact quotedString.map fun _ _ _ ht => ht
  · exact (literal _).bind fun _ _ _ _ => pure (by simp [Literal.positions])

theorem keyword (name : String) : Tracks text i (keyword name) fun _ _ => True :=
  (literal _).bind fun _ _ _ _ => blanks

theorem equalsCondition : Tracks text i equalsCondition fun c _ => ExactIn text c.positions := by
  have hliteral : ∀ {j : Nat} {r : Rule Literal},
      r ∈ [numberLiteral, boolLiteral, stringLiteral, nullLiteral] →
      Tracks text j (Condition.equals <$> r) fun c _ => ExactIn text c.positions := fun hr =>
    (literalValue hr).map fun _ _ _ hl => hl
  refine (keyword _).bind fun _ j _ _ => choice fun r hr => ?_
  simp only [List.mem_cons, List.not_mem_nil, or_false] at hr
  rcases hr with rfl | rfl | rfl | rfl | rfl
  · exact hliteral (by simp)
  · exact hliteral (by simp)
  · exact hliteral (by simp)
  · exact hliteral (by simp)
  · exact placeholder.bind fun _ _ _ hp => pure (by simpa [Condition.positions] using hp)

theorem orderedCondition (o : Script.Ordering) :
    Tracks text i (orderedCondition o) fun c _ => ExactIn text c.positions :=
  (keyword _).bind fun _ _ _ _ => number.bind fun _ _ _ _ => pure (by simp [Condition.positions])

theorem countCondition : Tracks text i countCondition fun c _ => ExactIn text c.positions :=
  (keyword _).bind fun _ _ _ _ => position.bind fun _ _ _ ⟨_, hp, _⟩ => integer.bind
    fun _ _ _ _ => .guardAt hp fun _ => pure (by simp [Condition.positions])

theorem quotedCondition {make : Template → Condition}
    (hmake : ∀ t, (make t).positions = t.positions) :
    Tracks text i (quotedCondition make) fun c _ => ExactIn text c.positions :=
  (keyword _).bind fun _ _ _ _ => quotedString.bind fun _ _ _ ht => pure (by simpa [hmake] using ht)

theorem includesCondition : Tracks text i includesCondition fun c _ =>
    ExactIn text c.positions := by
  refine (keyword _).bind fun _ _ _ _ => (choice fun r hr => literalValue ?_).map
    fun _ _ _ hl => hl
  simp only [List.mem_cons, List.not_mem_nil, or_false] at hr ⊢
  tauto

theorem presentCondition : Tracks text i presentCondition fun c _ => ExactIn text c.positions :=
  (literal _).bind fun _ _ _ _ => pure (by simp [Condition.positions])

theorem condition : Tracks text i condition fun c _ => ExactIn text c.positions := by
  refine choice fun r hr => ?_
  simp only [List.mem_cons, List.not_mem_nil, or_false] at hr
  rcases hr with rfl | rfl | rfl | rfl | rfl | rfl | rfl | rfl | rfl | rfl | rfl
  · exact equalsCondition
  · exact orderedCondition _
  · exact orderedCondition _
  · exact orderedCondition _
  · exact orderedCondition _
  · exact countCondition
  · exact quotedCondition fun _ => rfl
  · exact quotedCondition fun _ => rfl
  · exact includesCondition
  · exact quotedCondition fun _ => rfl
  · exact presentCondition

theorem negation : Tracks text i negation fun _ _ => True :=
  (literal _).bind fun _ _ _ _ => someBlanks

theorem predicate : Tracks text i predicate fun p _ => ExactIn text p.positions :=
  position.bind fun _ _ _ ⟨_, hp, _⟩ => negation.optional.bind fun _ _ _ _ =>
    condition.bind fun _ _ _ hc => pure (by simp [Predicate.positions, hp, hc])

/-! ### Bodies -/

theorem templateOf (n : Nat) : Tracks text i (templateOf n) fun t _ => ExactIn text t.positions :=
  position.bind fun _ _ _ ⟨_, hp, _⟩ => (readN n).bind fun _ _ _ _ =>
    pure (by simp [Template.positions, hp])

theorem jsonContent : Tracks text i jsonContent fun c _ => ExactIn text c.positions := by
  refine cursor.bind fun c _ _ _ => .guardHere fun _ => ?_
  dsimp only
  split
  · exact (templateOf _).map fun _ _ _ ht => ht
  · exact failHere

theorem xmlContent : Tracks text i xmlContent fun c _ => ExactIn text c.positions := by
  refine cursor.bind fun c _ _ _ => .guardHere fun _ => ?_
  dsimp only
  split
  · exact (templateOf _).map fun _ _ _ ht => ht
  · exact failHere

theorem rawChar : Tracks text i rawChar fun o j => ∀ a ∈ o, i < j := by
  refine cursor.bind fun c j hj _ => .ite (fun _ => pure (by simp)) fun _ => ?_
  have hread : Tracks text j (Rule.mapError (fun e => .fault .openRaw e.position) Rule.read)
      fun _ k => j < k := mapError read fun _ he => he
  refine hread.map fun _ k _ hk => ?_
  simpa using by omega

theorem rawContent : Tracks text i rawContent fun c _ => ExactIn text c.positions := by
  have hchars : ∀ j, Tracks text j (Rule.collect Grammar.rawChar) fun l _ =>
      ∀ a ∈ l, (fun _ : Char => True) a := fun j =>
    collect fun k _ => rawChar.mono fun _ _ _ _ => by simp
  have hopening : ∀ j, Tracks text j (do Grammar.blanks; Grammar.lineBreak) fun _ _ => True :=
    fun _ => blanks.bind fun _ _ _ _ => lineBreak
  exact (literal _).bind fun _ _ _ _ => (hopening _).optional.bind fun _ _ _ _ =>
    position.bind fun _ _ _ ⟨_, hp, _⟩ => (hchars _).bind fun _ _ _ _ =>
    (literal _).bind fun _ _ _ _ => pure (by simp [Content.positions, Template.positions, hp])

theorem base64Content : Tracks text i base64Content fun c _ => ExactIn text c.positions := by
  refine (literal _).bind fun _ _ _ _ => blanks.bind fun _ _ _ _ =>
    position.bind fun _ _ _ ⟨_, hp, _⟩ => (readWhile _).bind fun _ _ _ _ => ?_
  split
  · exact blanks.bind fun _ _ _ _ => (literal _).bind fun _ _ _ _ =>
      pure (by simp [Content.positions])
  · exact failAt hp

theorem fileContent : Tracks text i fileContent fun c _ => ExactIn text c.positions :=
  (literal _).bind fun _ _ _ _ => blanks.bind fun _ _ _ _ => position.bind fun _ _ _ ⟨_, hp, _⟩ =>
    filename.bind fun _ _ _ _ => blanks.bind fun _ _ _ _ => (literal _).bind fun _ _ _ _ =>
    pure (by simp [Content.positions, hp])

theorem content : Tracks text i content fun c _ => ExactIn text c.positions := by
  refine position.bind fun _ _ _ _ => mapError (choice fun r hr => ?_) fun e he => ?_
  · simp only [List.mem_cons, List.not_mem_nil, or_false] at hr
    rcases hr with rfl | rfl | rfl | rfl | rfl
    · exact jsonContent
    · exact xmlContent
    · exact rawContent
    · exact base64Content
    · exact fileContent
  · cases e <;> exact he

theorem body : Tracks text i body fun b _ => ExactIn text b.positions :=
  leadingLines.bind fun _ _ _ _ => position.bind fun _ _ _ ⟨_, hp, _⟩ => content.bind
    fun _ _ _ hc => lineEnd.bind fun _ _ _ _ => pure (by simp [Body.positions, hp, hc])

/-! ### Responses -/

theorem capture : Tracks text i capture fun c _ => ExactIn text c.positions :=
  leadingLines.bind fun _ _ _ _ => position.bind fun _ _ _ ⟨_, hp, _⟩ => keyString.bind
    fun _ _ _ _ => colon.bind fun _ _ _ _ => query.bind fun _ _ _ hq => lineEnd.bind
    fun _ _ _ _ => pure (by simp [Capture.positions, hp, hq])

theorem assert : Tracks text i assert fun a _ => ExactIn text a.positions :=
  leadingLines.bind fun _ _ _ _ => position.bind fun _ _ _ ⟨_, hp, _⟩ => query.bind
    fun _ _ _ hq => someBlanks.bind fun _ _ _ _ => predicate.bind fun _ _ _ hr => lineEnd.bind
    fun _ _ _ _ => pure (by simp [Assert.positions, hp, hq, hr])

theorem capturesSection : Tracks text i capturesSection fun l _ =>
    ∀ c ∈ l, ExactIn text c.positions :=
  (sectionLine _).bind fun _ _ _ _ => zeroOrMore fun _ _ => capture

theorem assertsSection : Tracks text i assertsSection fun l _ =>
    ∀ a ∈ l, ExactIn text a.positions :=
  (sectionLine _).bind fun _ _ _ _ => zeroOrMore fun _ _ => assert

end Tracks

/-- The positions of a section of a response. -/
def ResponseSection.positions : ResponseSection → List Position
  | captures l => l.flatMap (·.positions)
  | asserts l => l.flatMap (·.positions)

/-- The positions of a section of a request. -/
def RequestSection.positions : RequestSection → List Position
  | query l | form l | cookies l => l.flatMap (·.positions)
  | multipart l => l.flatMap (·.positions)
  | captures l => l.flatMap (·.positions)
  | asserts l => l.flatMap (·.positions)

namespace Tracks

theorem responseSection : Tracks text i responseSection fun s _ => ExactIn text s.positions :=
  choice fun r hr => by
    rcases List.mem_pair.mp hr with rfl | rfl
    · exact capturesSection.map fun _ _ _ hl => exactIn_flatMap.mpr hl
    · exact assertsSection.map fun _ _ _ hl => exactIn_flatMap.mpr hl

theorem version : Tracks text i version fun v _ => v.position.IsExact text := by
  refine position.bind fun _ _ _ ⟨_, hp, _⟩ => (firstOf fun _ _ _ _ => literal _).bind
    fun o _ _ _ => ?_
  cases o with
  | none => exact failAt hp
  | some v => exact pure hp

theorem status : Tracks text i status fun v _ => v.position.IsExact text := by
  refine position.bind fun _ _ _ ⟨_, hp, _⟩ => peek.bind fun o _ _ _ => ?_
  refine .ite (fun _ => ?_) fun _ => ?_
  · exact read.bind fun _ _ _ _ => pure hp
  · exact (readWhile _).bind fun _ _ _ _ => .guardAt hp fun _ => pure hp

theorem response : Tracks text i response fun r _ => ExactIn text r.positions := by
  refine leadingLines.bind fun _ _ _ _ => position.bind fun _ _ _ ⟨_, hp, _⟩ =>
    version.bind fun _ _ _ hv => someBlanks.bind fun _ _ _ _ => status.bind fun _ _ _ hs =>
    lineEnd.bind fun _ _ _ _ => (zeroOrMore fun _ _ => fieldLine).bind fun _ _ _ hheaders =>
    (zeroOrMore fun _ _ => responseSection).bind fun l _ _ hl =>
    body.optionalPart.bind fun o _ _ hbody => pure ?_
  have hcaptures := exactIn_sections (g := (·.getCaptures)) (f := (·.positions)) hl fun s => by
    cases s <;> simp [ResponseSection.positions, ResponseSection.getCaptures]
  have hasserts := exactIn_sections (g := (·.getAsserts)) (f := (·.positions)) hl fun s => by
    cases s <;> simp [ResponseSection.positions, ResponseSection.getAsserts]
  have hheaders := exactIn_flatMap.mpr hheaders
  have hbody := exactIn_elim.mpr hbody
  simp [Response.positions, *]

theorem contentType : Tracks text i contentType fun _ _ => True :=
  valueString.optional.bind fun _ _ _ _ => pure trivial

theorem filePart : Tracks text i filePart fun p _ => ExactIn text (Part.file p).positions :=
  leadingLines.bind fun _ _ _ _ => position.bind fun _ _ _ ⟨_, hp, _⟩ => keyString.bind
    fun _ _ _ _ => colon.bind fun _ _ _ _ => (literal _).bind fun _ _ _ _ => blanks.bind
    fun _ _ _ _ => filename.bind fun _ _ _ _ => blanks.bind fun _ _ _ _ => (literal _).bind
    fun _ _ _ _ => blanks.bind fun _ _ _ _ => contentType.bind fun _ _ _ _ => lineEnd.bind
    fun _ _ _ _ => pure (by simp [Part.positions, hp])

theorem part : Tracks text i part fun p _ => ExactIn text p.positions := by
  refine filePart.optionalPart.bind fun o _ _ ho => ?_
  cases o with
  | none => exact fieldLine.map fun _ _ _ hf => hf
  | some p => exact pure (ho p rfl)

theorem fieldSection (name : String) : Tracks text i (fieldSection name) fun l _ =>
    ∀ f ∈ l, ExactIn text f.positions :=
  (sectionLine name).bind fun _ _ _ _ => zeroOrMore fun _ _ => fieldLine

theorem multipartSection : Tracks text i multipartSection fun l _ =>
    ∀ p ∈ l, ExactIn text p.positions :=
  (sectionLine _).bind fun _ _ _ _ => zeroOrMore fun _ _ => part

theorem requestSection : Tracks text i requestSection fun s _ => ExactIn text s.positions := by
  refine choice fun r hr => ?_
  simp only [List.mem_cons, List.not_mem_nil, or_false] at hr
  rcases hr with rfl | rfl | rfl | rfl | rfl | rfl
  · exact (fieldSection _).map fun _ _ _ hl => exactIn_flatMap.mpr hl
  · exact (fieldSection _).map fun _ _ _ hl => exactIn_flatMap.mpr hl
  · exact (fieldSection _).map fun _ _ _ hl => exactIn_flatMap.mpr hl
  · exact multipartSection.map fun _ _ _ hl => exactIn_flatMap.mpr hl
  · exact capturesSection.map fun _ _ _ hl => exactIn_flatMap.mpr hl
  · exact assertsSection.map fun _ _ _ hl => exactIn_flatMap.mpr hl

theorem method : Tracks text i method fun _ _ => True := by
  refine position.bind fun _ _ _ ⟨_, hp, _⟩ => (firstOf fun _ _ _ _ => literal _).bind
    fun o _ _ _ => ?_
  cases o with
  | none => exact failAt hp
  | some m => exact pure trivial

theorem request : Tracks text i request fun r _ => ExactIn text r.positions := by
  refine leadingLines.bind fun _ _ _ hcomments => position.bind fun _ _ _ ⟨_, hp, _⟩ =>
    method.bind fun _ _ _ _ => someBlanks.bind fun _ _ _ _ => url.bind fun _ _ _ hurl =>
    lineEnd.bind fun _ _ _ _ => (zeroOrMore fun _ _ => fieldLine).bind fun _ _ _ hheaders =>
    (zeroOrMore fun _ _ => requestSection).bind fun l _ _ hl =>
    body.optionalPart.bind fun o _ _ hbody => pure ?_
  have hcomments := exactIn_flatMap.mpr hcomments
  have hheaders := exactIn_flatMap.mpr hheaders
  have hbody := exactIn_elim.mpr hbody
  have hquery := exactIn_sections (g := (·.getQuery)) (f := (·.positions)) hl fun s => by
    cases s <;> simp [RequestSection.positions, RequestSection.getQuery]
  have hform := exactIn_sections (g := (·.getForm)) (f := (·.positions)) hl fun s => by
    cases s <;> simp [RequestSection.positions, RequestSection.getForm]
  have hmultipart := exactIn_sections (g := (·.getMultipart)) (f := (·.positions)) hl fun s => by
    cases s <;> simp [RequestSection.positions, RequestSection.getMultipart]
  have hcookies := exactIn_sections (g := (·.getCookies)) (f := (·.positions)) hl fun s => by
    cases s <;> simp [RequestSection.positions, RequestSection.getCookies]
  have hcaptures := exactIn_sections (g := (·.getCaptures)) (f := (·.positions)) hl fun s => by
    cases s <;> simp [RequestSection.positions, RequestSection.getCaptures]
  have hasserts := exactIn_sections (g := (·.getAsserts)) (f := (·.positions)) hl fun s => by
    cases s <;> simp [RequestSection.positions, RequestSection.getAsserts]
  simp [Request.positions, *]

theorem entry : Tracks text i entry fun e _ => ExactIn text e.positions :=
  request.bind fun _ _ _ hr => response.optionalPart.bind fun _ _ _ ho => pure (by
    have ho := exactIn_elim.mpr ho
    simp [Entry.positions, hr, ho])

theorem script : Tracks text i Script.rule fun s _ => ExactIn text s.positions :=
  (zeroOrMore fun _ _ => entry).bind fun _ _ _ hl => (zeroOrMore fun _ _ => lineEnd).bind
    fun _ _ _ _ => pure (exactIn_flatMap.mpr hl)

end Tracks

/-! ### The reported error -/

theorem mem_of_mem_keepDeepest {l : List ParseError} {e e' : ParseError}
    (h : e' ∈ State.keepDeepest l e) : e' ∈ l ∨ e' = e := by
  unfold State.keepDeepest at h
  split at h
  · exact .inr (List.mem_singleton.mp h)
  · split_ifs at h
    · exact .inl h
    · exact .inr (List.mem_singleton.mp h)
    · simpa [or_assoc] using h

theorem mem_log_of_mem_candidates {s : State} {e : ParseError} (h : e ∈ s.candidates) :
    e ∈ s.log := by
  unfold State.candidates State.history at h
  suffices ∀ (l kept : List ParseError), e ∈ l.foldl State.keepDeepest kept → e ∈ kept ∨ e ∈ l by
    simpa using this _ _ h
  intro l
  induction l with
  | nil => exact fun kept h => .inl h
  | cons e' l ih =>
    intro kept h
    rcases ih _ h with h | h
    · rcases mem_of_mem_keepDeepest h with h | rfl
      · exact .inl h
      · exact .inr (List.mem_cons_self ..)
    · exact .inr (List.mem_cons_of_mem _ h)

theorem lastDeepest_mem (first : ParseError) (l : List ParseError) :
    lastDeepest first l = first ∨ lastDeepest first l ∈ l := by
  unfold lastDeepest
  induction l generalizing first with
  | nil => exact .inl rfl
  | cons e l ih =>
    rcases ih (if first.offset ≤ e.offset then e else first) with h | h
    · rw [List.foldl_cons, h]
      split <;> simp
    · exact .inr (List.mem_cons_of_mem _ h)

/-- **The error that is reported** is one of the errors, or stands where one of them does. -/
theorem reported_cases (chars : Array Char) (l : List ParseError) (terminal : ParseError) :
    reported chars l terminal ∈ l ++ [terminal] ∨
      ∃ e ∈ l ++ [terminal], reported chars l terminal = unexpectedAt chars e.position := by
  unfold reported
  split
  · rename_i e he
    exact .inl (mem_of_deepest? he)
  · refine .inr ⟨_, ?_, rfl⟩
    rcases lastDeepest_mem terminal (l ++ [terminal]) with h | h
    · rw [h]
      exact List.mem_append_right _ (List.mem_singleton_self terminal)
    · exact h

theorem position_unexpectedAt (chars : Array Char) (p : Position) :
    (unexpectedAt chars p).position = p := by
  unfold unexpectedAt
  split <;> rfl

/-- The error that is reported for exact errors is exact. -/
theorem isExact_reported {chars : Array Char} {l : List ParseError} {terminal : ParseError}
    (hl : ExactErrors text l) (ht : terminal.position.IsExact text) :
    (reported chars l terminal).position.IsExact text := by
  have hall : ExactErrors text (l ++ [terminal]) := by
    intro e he
    rcases List.mem_append.mp he with he | he
    · exact hl e he
    · rw [List.mem_singleton.mp he]
      exact ht
  rcases reported_cases chars l terminal with h | ⟨e, he, h⟩
  · exact hall _ h
  · rw [h, position_unexpectedAt]
    exact hall e he

end Grammar

namespace Script

open Grammar

/-- **Reading a script yields exact positions**: those in the script, or that of the error. -/
theorem isExact_read? (text : String) :
    match read? text with
    | .ok script => ∀ p ∈ script.positions, p.IsExact text.toList
    | .error e => e.position.IsExact text.toList := by
  have hrule := Tracks.script _ (State.StandsAt.ofText text)
  unfold read?
  cases heq : rule (State.ofText text) with
  | error e s => rw [heq] at hrule; exact hrule.1
  | ok script s =>
    rw [heq] at hrule
    obtain ⟨i, -, hs, hscript⟩ := hrule
    dsimp only
    cases s.cursor.peek? with
    | none => exact hscript
    | some c =>
      exact isExact_reported (fun e he => hs.log e (mem_log_of_mem_candidates he)) hs.exact

/-- **Every position is exact**: those of a cursor behind any operations, and those that reading a
script yields. -/
theorem positions_exact (text : String) :
    (∀ l : List Cursor.Operation,
      (l.foldl Cursor.Walk.step (.ofText text)).cursor.position.IsExact text.toList) ∧
    match read? text with
    | .ok script => ∀ p ∈ script.positions, p.IsExact text.toList
    | .error e => e.position.IsExact text.toList :=
  ⟨fun l => (Cursor.isExact_walk text l).here, isExact_read? text⟩

end Script

end HttpScript
