import HttpScript.Proofs.Grammar.Composed
import HttpScript.Proofs.Grammar.Reached

/-! # What rules do with the log

No rule of the grammar looks at the errors that are logged, and none takes one of them away: a rule
does in a state with more errors what it does without them, and what it logs comes on top.

* `WritesLog`: this property of a rule, with a lemma for each combinator.
* `Composed.writesLog`: every rule that is made of these has it.
* `IsRule.writesLog`: every rule of the grammar has it. -/

namespace HttpScript.Grammar

open Script

variable {α β : Type}

/-- What a rule leaves, with more errors logged before it. -/
def loggedAfter (log : List ParseError) :
    EStateM.Result ParseError State α → EStateM.Result ParseError State α
  | .ok a t => .ok a ⟨t.cursor, t.log ++ log⟩
  | .error e t => .error e ⟨t.cursor, t.log ++ log⟩

/-- **A rule that only writes the log**: more errors logged before it stay where they are and change
nothing else. -/
def WritesLog (r : Rule α) : Prop :=
  ∀ (s : State) (log : List ParseError), r ⟨s.cursor, s.log ++ log⟩ = loggedAfter log (r s)

namespace WritesLog

variable {r : Rule α} {f : α → Rule β}

/-- A rule that succeeds does so whatever has been logged before. -/
theorem ok (h : WritesLog r) {s t : State} {a : α} (hr : r s = .ok a t)
    (log : List ParseError) : ∃ log', r ⟨s.cursor, log⟩ = .ok a ⟨t.cursor, log'⟩ := by
  have hs := h ⟨s.cursor, []⟩ s.log
  have hlog := h ⟨s.cursor, []⟩ log
  rw [List.nil_append] at hs hlog
  rw [hlog]
  rw [show (⟨s.cursor, s.log⟩ : State) = s from rfl, hr] at hs
  cases hempty : r ⟨s.cursor, []⟩ with
  | error e u =>
    rw [hempty] at hs
    cases hs
  | ok b u =>
    rw [hempty] at hs
    simp only [loggedAfter, EStateM.Result.ok.injEq] at hs
    obtain ⟨rfl, rfl⟩ := hs
    exact ⟨u.log ++ log, rfl⟩

/-! ### Combinators -/

theorem pure (a : α) : WritesLog (pure a) := fun _ _ => rfl

theorem bind (h : WritesLog r) (hf : ∀ a, WritesLog (f a)) : WritesLog (r >>= f) := by
  intro s log
  show EStateM.bind r f _ = loggedAfter log (EStateM.bind r f s)
  unfold EStateM.bind
  rw [h s log]
  cases r s with
  | error e t => rfl
  | ok a t => exact hf a t log

theorem map (g : α → β) (h : WritesLog r) : WritesLog (g <$> r) := by
  intro s log
  show EStateM.map g r _ = loggedAfter log (EStateM.map g r s)
  unfold EStateM.map
  rw [h s log]
  cases r s <;> rfl

theorem ite {c : Prop} [Decidable c] {r r' : Rule α} (h : WritesLog r) (h' : WritesLog r') :
    WritesLog (if c then r else r') := by
  split
  · exact h
  · exact h'

theorem cursor : WritesLog Rule.cursor := fun _ _ => rfl

theorem position : WritesLog Rule.position := fun _ _ => rfl

theorem peek : WritesLog Rule.peek := fun _ _ => rfl

theorem moveTo (c : Cursor) : WritesLog (Rule.moveTo c) := fun _ _ => rfl

theorem failAt (p : Position) (cause : Fault) : WritesLog (Rule.failAt p cause : Rule α) :=
  fun _ _ => rfl

theorem failHere (cause : Fault) : WritesLog (Rule.failHere cause : Rule α) := fun _ _ => rfl

theorem read : WritesLog Rule.read := by
  intro s log
  unfold Rule.read
  cases s.cursor.read with
  | mk o c => cases o <;> rfl

theorem readN (n : Nat) : WritesLog (Rule.readN n) := by
  intro s log
  unfold Rule.readN
  cases s.cursor.readN n with
  | mk o c => cases o <;> rfl

theorem readWhile (p : Char → Bool) : WritesLog (Rule.readWhile p) := fun _ _ => rfl

theorem mapError (g : ParseError → ParseError) (h : WritesLog r) :
    WritesLog (Rule.mapError g r) := by
  intro s log
  unfold Rule.mapError
  rw [h s log]
  cases r s <;> rfl

theorem readOr (cause : Fault) : WritesLog (Rule.readOr cause) :=
  fun s log => mapError (fun _ => .fault cause s.cursor.position) read s log

theorem optional (h : WritesLog r) : WritesLog (Rule.optional r) := by
  intro s log
  unfold Rule.optional
  rw [h s log]
  cases r s <;> rfl

theorem collect {r : Rule (Option α)} (h : WritesLog r) : WritesLog (Rule.collect r) := by
  intro s log
  -- along the rounds
  induction hn : s.cursor.left using Nat.strongRecOn generalizing s with
  | ind n ih =>
    unfold Rule.collect
    rw [h s log]
    cases hr : r s with
    | error e t => rfl
    | ok o t =>
      cases o with
      | none => rfl
      | some a =>
        simp only [loggedAfter]
        split
        · rename_i hlt
          have hrest := ih _ (hn ▸ hlt) t rfl
          rw [hrest]
          cases Rule.collect r t <;> rfl
        · rfl

theorem zeroOrMore (h : WritesLog r) : WritesLog (Rule.zeroOrMore r) := by
  refine collect fun s log => ?_
  unfold Rule.optionalBeforeEnd
  dsimp only
  split
  · rfl
  · exact h.optional s log

theorem oneOrMore (h : WritesLog r) : WritesLog (Rule.oneOrMore r) :=
  h.bind fun _ => h.zeroOrMore.bind fun _ => pure _

theorem choice {rules : List (Rule α)} (h : ∀ r ∈ rules, WritesLog r) :
    WritesLog (Rule.choice rules) := by
  suffices ∀ (start : Cursor) (failures : List ParseError),
      WritesLog (Rule.choiceFrom start rules failures) from
    fun s log => this s.cursor [] s log
  induction rules with
  | nil =>
    intro start failures s log
    unfold Rule.choiceFrom
    split <;> rfl
  | cons r rules ih =>
    intro start failures s log
    unfold Rule.choiceFrom
    rw [h r (List.mem_cons_self ..) s log]
    cases r s with
    | ok a t => rfl
    | error e t =>
      exact ih (fun r hr => h r (List.mem_cons_of_mem _ hr)) start _ (t.backtrack start e) log

end WritesLog

theorem Composed.writesLog {r : Rule α} (h : Composed r) : WritesLog r := by
  induction h with
  | pure a => exact .pure a
  | bind _ _ ihr ihf => exact ihr.bind ihf
  | map g _ ih => exact ih.map g
  | cursor => exact .cursor
  | position => exact .position
  | peek => exact .peek
  | moveTo c => exact .moveTo c
  | failAt p _ => exact .failAt p _
  | failHere _ => exact .failHere _
  | read => exact .read
  | readN n => exact .readN n
  | readWhile p => exact .readWhile p
  | mapError _ _ ih => exact ih.mapError _
  | readOr _ => exact .readOr _
  | optional _ ih => exact ih.optional
  | collect _ ih => exact ih.collect
  | zeroOrMore _ ih => exact ih.zeroOrMore
  | choice _ ih => exact .choice ih

namespace WritesLog

/-! ### Rules with arbitrary texts and faults -/

theorem literal (s : String) : WritesLog (literal s) := by
  unfold Grammar.literal
  induction s.toList with
  | nil => exact pure _
  | cons x l ih =>
    unfold literalTail
    refine peek.bind fun o => ?_
    cases o with
    | none => exact failHere _
    | some c => exact .ite (read.bind fun _ => ih) (failHere _)

theorem escape (plain : List Char) (broken : Fault) : WritesLog (escape plain broken) := by
  refine position.bind fun _ => (readOr broken).bind fun c => .ite (pure _) ?_
  split
  · exact pure _
  · exact pure _
  · exact pure _
  · exact pure _
  · exact Composed.codePoint.writesLog
  · exact failAt _ _

theorem sectionLine (name : String) : WritesLog (sectionLine name) :=
  Composed.leadingLines.writesLog.bind fun _ => (literal _).bind fun _ =>
    Composed.lineEnd.writesLog.bind fun _ => pure _

theorem keyword (name : String) : WritesLog (keyword name) :=
  (literal _).bind fun _ => Composed.blanks.writesLog

theorem fieldSection (name : String) : WritesLog (fieldSection name) :=
  (sectionLine name).bind fun _ => Composed.fieldLine.zeroOrMore.writesLog

end WritesLog

/-- **Every rule of the grammar only writes the log.** -/
theorem IsRule.writesLog {r : Rule α} (h : IsRule r) : WritesLog r := by
  induction h with
  | read => exact .read
  | readN n => exact .readN n
  | readWhile p => exact .readWhile p
  | readOr cause => exact .readOr cause
  | literal s => exact .literal s
  | blanks => exact Composed.blanks.writesLog
  | someBlanks => exact Composed.someBlanks.writesLog
  | lineBreak => exact Composed.lineBreak.writesLog
  | comment => exact Composed.comment.writesLog
  | lineEnd => exact Composed.lineEnd.writesLog
  | leadingLines => exact Composed.leadingLines.writesLog
  | codePoint => exact Composed.codePoint.writesLog
  | escape plain broken => exact .escape plain broken
  | keyChar => exact Composed.keyChar.writesLog
  | keyString => exact Composed.keyString.writesLog
  | valueChar => exact Composed.valueChar.writesLog
  | valueString => exact Composed.valueString.writesLog
  | quotedChar => exact Composed.quotedChar.writesLog
  | quotedString => exact Composed.quotedString.writesLog
  | sign => exact Composed.sign.writesLog
  | digits => exact Composed.digits.writesLog
  | integer => exact Composed.integer.writesLog
  | decimal => exact Composed.decimal.writesLog
  | number => exact Composed.number.writesLog
  | boolean => exact Composed.boolean.writesLog
  | placeholder => exact Composed.placeholder.writesLog
  | colon => exact Composed.colon.writesLog
  | field => exact Composed.field.writesLog
  | fieldLine => exact Composed.fieldLine.writesLog
  | filename => exact Composed.filename.writesLog
  | url => exact Composed.url.writesLog
  | sectionLine name => exact .sectionLine name
  | bareSource s => exact (Composed.bareSource s).writesLog
  | quotedSource make => exact (Composed.quotedSource make).writesLog
  | source => exact Composed.source.writesLog
  | regexSubquery => exact Composed.regexSubquery.writesLog
  | countSubquery => exact Composed.countSubquery.writesLog
  | query => exact Composed.query.writesLog
  | keyword name => exact .keyword name
  | stringLiteral => exact (Composed.literalValue (by simp)).writesLog
  | numberLiteral => exact (Composed.literalValue (by simp)).writesLog
  | boolLiteral => exact (Composed.literalValue (by simp)).writesLog
  | nullLiteral => exact (Composed.literalValue (by simp)).writesLog
  | equalsVariable => exact Composed.equalsVariable.writesLog
  | equalsCondition => exact Composed.equalsCondition.writesLog
  | orderedCondition o => exact (Composed.orderedCondition o).writesLog
  | countCondition => exact Composed.countCondition.writesLog
  | quotedCondition make => exact (Composed.quotedCondition make).writesLog
  | includesCondition => exact Composed.includesCondition.writesLog
  | presentCondition => exact Composed.presentCondition.writesLog
  | condition => exact Composed.condition.writesLog
  | negation => exact Composed.negation.writesLog
  | predicate => exact Composed.predicate.writesLog
  | templateOf n => exact (Composed.templateOf n).writesLog
  | jsonContent => exact Composed.jsonContent.writesLog
  | xmlContent => exact Composed.xmlContent.writesLog
  | rawChar => exact Composed.rawChar.writesLog
  | rawContent => exact Composed.rawContent.writesLog
  | base64Content => exact Composed.base64Content.writesLog
  | fileContent => exact Composed.fileContent.writesLog
  | content => exact Composed.content.writesLog
  | body => exact Composed.body.writesLog
  | capture => exact Composed.capture.writesLog
  | assert => exact Composed.assert.writesLog
  | capturesSection => exact Composed.capturesSection.writesLog
  | assertsSection => exact Composed.assertsSection.writesLog
  | responseSection => exact Composed.responseSection.writesLog
  | version => exact Composed.version.writesLog
  | status => exact Composed.status.writesLog
  | response => exact Composed.response.writesLog
  | method => exact Composed.method.writesLog
  | fieldSection name => exact .fieldSection name
  | contentType => exact Composed.contentType.writesLog
  | filePart => exact Composed.filePart.writesLog
  | part => exact Composed.part.writesLog
  | multipartSection => exact Composed.multipartSection.writesLog
  | requestSection => exact Composed.requestSection.writesLog
  | request => exact Composed.request.writesLog
  | entry => exact Composed.entry.writesLog
  | script => exact Composed.script.writesLog
  | map f _ ih => exact ih.map f
  | seq _ _ ihr ihk => exact ihr.bind fun _ => ihk
  | optional _ ih => exact ih.optional
  | zeroOrMore _ ih => exact ih.zeroOrMore
  | oneOrMore _ ih => exact ih.oneOrMore
  | choice _ ih => exact .choice ih

end HttpScript.Grammar
