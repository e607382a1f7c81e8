import HttpScript.Script.Read
import HttpScript.Text.Class
import Mathlib.Data.List.Basic

/-! # How rules are composed

All rules of the grammar are made of a few operations on the cursor, of faults and of the
combinators. So what holds of these holds of all rules, whatever they read.

* `Fault.OfGrammar`: the faults that rules fail with.
* `Composed`: the rules that are composed in this way, `Composed.script`: the grammar is one. -/

namespace HttpScript.Grammar

open Script

variable {α β : Type}

/-- A text without a line break. -/
def OneLine (s : String) : Prop := ∀ c ∈ s.toList, Text.isLineBreak c = false

-- by the characters of the text, not by all characters there are
instance (s : String) : Decidable (OneLine s) :=
  List.decidableBAll (fun c => Text.isLineBreak c = false) s.toList

/-- **The faults of the grammar**: its fixed texts have no line break, and notes belong to other
rules. -/
def Fault.OfGrammar : Fault → Prop
  | literal text _ wanted => OneLine text ∧ wanted ∈ text.toList
  | note _ => False
  | _ => True

/-- The errors of the grammar. -/
def ParseError.OfGrammar : ParseError → Prop
  | fault cause _ => cause.OfGrammar
  | endOfText _ => True

/-- **A rule that is composed** of the operations on the cursor, of faults of the grammar and of the
combinators. -/
inductive Composed : {α : Type} → Rule α → Prop
  | pure {α : Type} (a : α) : Composed (pure a)
  | bind {α β : Type} {r : Rule α} {f : α → Rule β} (h : Composed r) (hf : ∀ a, Composed (f a)) :
    Composed (r >>= f)
  | map {α β : Type} {r : Rule α} (g : α → β) (h : Composed r) : Composed (g <$> r)
  | cursor : Composed Rule.cursor
  | position : Composed Rule.position
  | peek : Composed Rule.peek
  | moveTo (c : Cursor) : Composed (Rule.moveTo c)
  | failAt {α : Type} {cause : Fault} (p : Position) (h : cause.OfGrammar) :
    Composed (Rule.failAt p cause : Rule α)
  | failHere {α : Type} {cause : Fault} (h : cause.OfGrammar) :
    Composed (Rule.failHere cause : Rule α)
  | read : Composed Rule.read
  | readN (n : Nat) : Composed (Rule.readN n)
  | readWhile (p : Char → Bool) : Composed (Rule.readWhile p)
  | mapError {α : Type} {r : Rule α} {g : ParseError → ParseError}
    (hg : ∀ e, e.OfGrammar → (g e).OfGrammar) (h : Composed r) : Composed (Rule.mapError g r)
  | readOr {cause : Fault} (h : cause.OfGrammar) : Composed (Rule.readOr cause)
  | optional {α : Type} {r : Rule α} (h : Composed r) : Composed (Rule.optional r)
  | collect {α : Type} {r : Rule (Option α)} (h : Composed r) : Composed (Rule.collect r)
  | zeroOrMore {α : Type} {r : Rule α} (h : Composed r) : Composed (Rule.zeroOrMore r)
  | choice {α : Type} {rules : List (Rule α)} (h : ∀ r ∈ rules, Composed r) :
    Composed (Rule.choice rules)

namespace Composed

variable {r : Rule α}

theorem ite {c : Prop} [Decidable c] {r r' : Rule α} (h : Composed r) (h' : Composed r') :
    Composed (if c then r else r') := by
  split
  · exact h
  · exact h'

theorem guardAt {c : Prop} [Decidable c] {p : Position} {cause : Fault} {k : Unit → Rule α}
    (hcause : cause.OfGrammar) (h : Composed (k ())) :
    Composed (if c then Rule.failAt p cause >>= k else k ()) := by
  split
  · exact (failAt p hcause).bind fun _ => h
  · exact h

theorem guardHere {c : Prop} [Decidable c] {cause : Fault} {k : Unit → Rule α}
    (hcause : cause.OfGrammar) (h : Composed (k ())) :
    Composed (if c then Rule.failHere cause >>= k else k ()) := by
  split
  · exact (failHere hcause).bind fun _ => h
  · exact h

/-! ### Lexemes -/

theorem literal {s : String} (h : OneLine s) : Composed (literal s) := by
  have htail : ∀ l : List Char, (∀ x ∈ l, x ∈ s.toList) → Composed (literalTail s l) := by
    intro l
    induction l with
    | nil => exact fun _ => pure _
    | cons x l ih =>
      intro hl
      have hx := hl x (List.mem_cons_self ..)
      unfold literalTail
      refine peek.bind fun o => ?_
      cases o with
      | none => exact failHere ⟨h, hx⟩
      | some c =>
        refine .ite (read.bind fun _ => ?_) (failHere ⟨h, hx⟩)
        exact ih fun y hy => hl y (List.mem_cons_of_mem _ hy)
  exact htail _ fun x hx => hx

theorem firstOf {name : β → String} {l : List β} (h : ∀ b ∈ l, OneLine (name b)) :
    Composed (Rule.firstOf Grammar.literal name l) := by
  induction l with
  | nil => exact pure _
  | cons b l ih =>
    unfold Rule.firstOf
    refine (literal (h b (List.mem_cons_self ..))).optional.bind fun o => ?_
    cases o with
    | none => exact ih fun b hb => h b (List.mem_cons_of_mem _ hb)
    | some _ => exact pure _

theorem blanks : Composed blanks := (readWhile _).bind fun _ => pure _

theorem someBlanks : Composed someBlanks :=
  position.bind fun _ => (readWhile _).bind fun _ => .ite (failAt _ trivial) (pure _)

theorem lineBreak : Composed lineBreak :=
  position.bind fun _ => read.bind fun _ => .ite (pure _) <| .ite
    ((mapError (fun _ _ => by trivial) read).bind fun _ => .ite (pure _) (failAt _ trivial))
    (failAt _ trivial)

theorem comment : Composed comment :=
  position.bind fun _ => (literal (by decide)).bind fun _ => (readWhile _).bind fun _ => pure _

theorem endOfLine (p : Position) : Composed (endOfLine p) := by
  refine peek.bind fun o => ?_
  cases o with
  | none => exact pure _
  | some c => exact .ite lineBreak (failAt _ trivial)

theorem lineEnd : Composed lineEnd := by
  refine position.bind fun p => blanks.bind fun _ => peek.bind fun o => ?_
  split
  · exact (comment.map _).bind fun _ => (endOfLine p).bind fun _ => pure _
  · exact (pure _).bind fun _ => (endOfLine p).bind fun _ => pure _

theorem leadingLines : Composed leadingLines :=
  lineEnd.zeroOrMore.bind fun _ => blanks.bind fun _ => pure _

theorem codePoint : Composed codePoint := by
  refine position.bind fun _ => read.bind fun _ => .guardAt trivial <|
    (readWhile _).bind fun digits => position.bind fun _ => .guardAt trivial <|
    read.bind fun _ => .guardAt trivial ?_
  by_cases hvalid : (Text.hexNumber digits).isValidChar
  · rw [dif_pos hvalid]
    exact pure _
  · rw [dif_neg hvalid]
    exact failAt _ trivial

theorem escape (plain : List Char) {broken : Fault} (h : broken.OfGrammar) :
    Composed (escape plain broken) := by
  refine position.bind fun _ => (readOr h).bind fun c => .ite (pure _) ?_
  split
  · exact pure _
  · exact pure _
  · exact pure _
  · exact pure _
  · exact codePoint
  · exact failAt _ trivial

theorem keyChar : Composed keyChar := by
  refine peek.bind fun o => ?_
  cases o with
  | none => exact pure _
  | some c =>
    exact .ite (read.map _) <| .ite (read.bind fun _ => (escape _ (by trivial)).map _) (pure _)

theorem keyString : Composed keyString :=
  position.bind fun _ => keyChar.collect.bind fun _ => position.bind fun _ =>
    .guardAt trivial (pure _)

theorem valueChar : Composed valueChar := by
  refine peek.bind fun o => ?_
  cases o with
  | none => exact pure _
  | some c =>
    exact .ite (pure _) <| .ite
      (read.bind fun _ => (escape _ (by trivial)).bind fun _ => cursor.bind fun _ => pure _)
      (read.bind fun _ => cursor.bind fun _ => pure _)

theorem valueString : Composed valueString :=
  cursor.bind fun _ => .guardHere trivial <| valueChar.collect.bind fun _ =>
    (moveTo _).bind fun _ => pure _

theorem quotedChar : Composed quotedChar :=
  (readOr (by trivial)).bind fun _ => .ite (pure _) <| .ite ((escape _ (by trivial)).map _) (pure _)

theorem quotedString : Composed quotedString := by
  refine position.bind fun _ => peek.bind fun o => ?_
  split
  · exact read.bind fun _ => quotedChar.collect.bind fun _ => pure _
  · exact failAt _ trivial

theorem sign : Composed sign := by
  refine peek.bind fun o => ?_
  split
  · exact read.bind fun _ => pure _
  · exact read.bind fun _ => pure _
  · exact pure _

theorem digits : Composed digits := (readWhile _).bind fun _ => .guardHere trivial (pure _)

theorem integer : Composed integer :=
  position.bind fun _ => sign.bind fun _ => digits.bind fun _ => .guardAt trivial (pure _)

theorem decimal : Composed decimal := by
  refine sign.bind fun _ => digits.bind fun _ => peek.bind fun o => ?_
  split
  · exact read.bind fun _ => digits.bind fun _ => pure _
  · exact failHere trivial

theorem number : Composed number := choice fun r hr => by
  rcases List.mem_pair.mp hr with rfl | rfl
  · exact decimal
  · exact integer.map _

theorem boolean : Composed boolean := by
  refine position.bind fun _ => (firstOf (by decide)).bind fun o => ?_
  cases o with
  | none => exact failAt _ trivial
  | some b => exact pure _

theorem placeholder : Composed placeholder :=
  position.bind fun _ => (literal (by decide)).bind fun _ => position.bind fun _ =>
    (readWhile _).bind fun _ => .guardAt trivial <| (literal (by decide)).bind fun _ => pure _

theorem colon : Composed colon := blanks.bind fun _ => (literal (by decide)).bind fun _ => blanks

theorem field : Composed field :=
  position.bind fun _ => keyString.bind fun _ => colon.bind fun _ => valueString.bind fun _ =>
    pure _

theorem fieldLine : Composed fieldLine :=
  leadingLines.bind fun _ => field.bind fun _ => lineEnd.bind fun _ => pure _

theorem filename : Composed filename :=
  position.bind fun _ => (readWhile _).bind fun _ => .guardAt trivial (.guardAt trivial (pure _))

theorem url : Composed url :=
  position.bind fun _ => (readWhile _).bind fun _ => .guardAt trivial (pure _)

theorem sectionLine {name : String} (h : OneLine ("[" ++ name ++ "]")) :
    Composed (sectionLine name) :=
  leadingLines.bind fun _ => (literal h).bind fun _ => lineEnd.bind fun _ => pure _

/-! ### Queries and predicates -/

theorem oneLine_source (s : Source) : OneLine s.name := by
  have hnames : ∀ name ∈ ["status", "header", "cookie", "body", "xpath", "jsonpath", "regex",
      "variable", "duration"], OneLine name := by decide
  exact hnames _ (by cases s <;> simp [Source.name])

theorem bareSource (s : Source) : Composed (bareSource s) :=
  (literal (oneLine_source s)).bind fun _ => pure _

theorem quotedSource (make : Template → Source) : Composed (quotedSource make) :=
  (literal (oneLine_source _)).bind fun _ => someBlanks.bind fun _ => quotedString.bind fun _ =>
    pure _

theorem source : Composed source := choice fun r hr => by
  simp only [List.mem_cons, List.not_mem_nil, or_false] at hr
  rcases hr with rfl | rfl | rfl | rfl | rfl | rfl | rfl | rfl | rfl
  · exact bareSource _
  · exact quotedSource _
  · exact quotedSource _
  · exact bareSource _
  · exact quotedSource _
  · exact quotedSource _
  · exact quotedSource _
  · exact quotedSource _
  · exact bareSource _

theorem regexSubquery : Composed regexSubquery :=
  someBlanks.bind fun _ => (literal (by decide)).bind fun _ => someBlanks.bind fun _ =>
    quotedString.bind fun _ => pure _

theorem countSubquery : Composed countSubquery := by
  refine someBlanks.bind fun _ => (literal (by decide)).bind fun _ => peek.bind fun o => ?_
  cases o with
  | none => exact pure _
  | some c => exact .ite (pure _) (failHere trivial)

theorem query : Composed query := by
  have hsubquery : Composed (Rule.choice [Grammar.regexSubquery, Grammar.countSubquery]) :=
    choice fun r hr => by
      rcases List.mem_pair.mp hr with rfl | rfl
      · exact regexSubquery
      · exact countSubquery
  exact position.bind fun _ => source.bind fun _ => hsubquery.optional.bind fun _ => pure _

theorem keyword {name : String} (h : OneLine name) : Composed (keyword name) :=
  (literal h).bind fun _ => blanks

theorem literalValue {r : Rule Literal}
    (hr : r ∈ [numberLiteral, boolLiteral, stringLiteral, nullLiteral]) : Composed r := by
  simp only [List.mem_cons, List.not_mem_nil, or_false] at hr
  rcases hr with rfl | rfl | rfl | rfl
  · exact number.map _
  · exact boolean.map _
  · exact quotedString.map _
  · exact (literal (by decide)).bind fun _ => pure _

theorem equalsVariable : Composed equalsVariable := placeholder.bind fun _ => pure _

theorem equalsCondition : Composed equalsCondition := by
  refine (keyword (by decide)).bind fun _ => choice fun r hr => ?_
  simp only [List.mem_cons, List.not_mem_nil, or_false] at hr
  rcases hr with rfl | rfl | rfl | rfl | rfl
  · exact (literalValue (by simp)).map _
  · exact (literalValue (by simp)).map _
  · exact (literalValue (by simp)).map _
  · exact (literalValue (by simp)).map _
  · exact equalsVariable

theorem oneLine_ordering (o : Script.Ordering) : OneLine o.name := by
  cases o <;> decide

theorem oneLine_condition (c : Condition) : OneLine c.name := by
  have hnames : ∀ name ∈ ["equals", "startsWith", "contains", "includes", "matches", "countEquals",
      "exists"], OneLine name := by decide
  cases c with
  | ordered o _ => exact oneLine_ordering o
  | _ => exact hnames _ (by simp [Condition.name])

theorem orderedCondition (o : Script.Ordering) : Composed (orderedCondition o) :=
  (keyword (oneLine_ordering o)).bind fun _ => number.bind fun _ => pure _

theorem countCondition : Composed countCondition :=
  (keyword (by decide)).bind fun _ => position.bind fun _ => integer.bind fun _ =>
    .guardAt trivial (pure _)

theorem quotedCondition (make : Template → Condition) : Composed (quotedCondition make) :=
  (keyword (oneLine_condition _)).bind fun _ => quotedString.bind fun _ => pure _

theorem includesCondition : Composed includesCondition :=
  (keyword (by decide)).bind fun _ => (choice fun r hr => literalValue (by
    simp only [List.mem_cons, List.not_mem_nil, or_false] at hr ⊢
    rcases hr with rfl | rfl | rfl | rfl <;> simp)).map _

theorem presentCondition : Composed presentCondition := (literal (by decide)).bind fun _ => pure _

theorem condition : Composed condition := choice fun r hr => by
  simp only [List.mem_cons, List.not_mem_nil, or_false] at hr
  rcases hr with rfl | rfl | rfl | rfl | rfl | rfl | rfl | rfl | rfl | rfl | rfl
  · exact equalsCondition
  · exact orderedCondition _
  · exact orderedCondition _
  · exact orderedCondition _
  · exact orderedCondition _
  · exact countCondition
  · exact quotedCondition _
  · exact quotedCondition _
  · exact includesCondition
  · exact quotedCondition _
  · exact presentCondition

theorem negation : Composed negation := (literal (by decide)).bind fun _ => someBlanks

theorem predicate : Composed predicate :=
  position.bind fun _ => negation.optional.bind fun _ => condition.bind fun _ => pure _

/-! ### Bodies -/

theorem templateOf (n : Nat) : Composed (templateOf n) :=
  position.bind fun _ => (readN n).bind fun _ => pure _

theorem jsonContent : Composed jsonContent := by
  refine cursor.bind fun c => .guardHere trivial ?_
  dsimp only
  split
  · exact (templateOf _).map _
  · exact failHere trivial

theorem xmlContent : Composed xmlContent := by
  refine cursor.bind fun c => .guardHere trivial ?_
  dsimp only
  split
  · exact (templateOf _).map _
  · exact failHere trivial

theorem rawChar : Composed rawChar :=
  cursor.bind fun _ => .ite (pure _) ((mapError (fun _ _ => by trivial) read).map _)

theorem rawContent : Composed rawContent := by
  have hopening : Composed (do Grammar.blanks; Grammar.lineBreak) := blanks.bind fun _ => lineBreak
  exact (literal (by decide)).bind fun _ => hopening.optional.bind fun _ => position.bind fun _ =>
    rawChar.collect.bind fun _ => (literal (by decide)).bind fun _ => pure _

theorem base64Content : Composed base64Content := by
  refine (literal (by decide)).bind fun _ => blanks.bind fun _ => position.bind fun _ =>
    (readWhile _).bind fun _ => ?_
  split
  · exact blanks.bind fun _ => (literal (by decide)).bind fun _ => pure _
  · exact failAt _ trivial

theorem fileContent : Composed fileContent :=
  (literal (by decide)).bind fun _ => blanks.bind fun _ => position.bind fun _ =>
    filename.bind fun _ => blanks.bind fun _ => (literal (by decide)).bind fun _ => pure _

theorem content : Composed content := by
  refine position.bind fun p => mapError (fun e he => ?_) (choice fun r hr => ?_)
  · cases e with
    | endOfText q => exact he
    | fault cause q =>
      dsimp only
      split
      · trivial
      · exact he
  · simp only [List.mem_cons, List.not_mem_nil, or_false] at hr
    rcases hr with rfl | rfl | rfl | rfl | rfl
    · exact jsonContent
    · exact xmlContent
    · exact rawContent
    · exact base64Content
    · exact fileContent

theorem body : Composed body :=
  leadingLines.bind fun _ => position.bind fun _ => content.bind fun _ => lineEnd.bind fun _ =>
    pure _

/-! ### Responses and requests -/

theorem capture : Composed capture :=
  leadingLines.bind fun _ => position.bind fun _ => keyString.bind fun _ => colon.bind fun _ =>
    query.bind fun _ => lineEnd.bind fun _ => pure _

theorem assert : Composed assert :=
  leadingLines.bind fun _ => position.bind fun _ => query.bind fun _ => someBlanks.bind fun _ =>
    predicate.bind fun _ => lineEnd.bind fun _ => pure _

theorem capturesSection : Composed capturesSection :=
  (sectionLine (by decide)).bind fun _ => capture.zeroOrMore

theorem assertsSection : Composed assertsSection :=
  (sectionLine (by decide)).bind fun _ => assert.zeroOrMore

theorem responseSection : Composed responseSection := choice fun r hr => by
  rcases List.mem_pair.mp hr with rfl | rfl
  · exact capturesSection.map _
  · exact assertsSection.map _

theorem version : Composed version := by
  refine position.bind fun _ => (firstOf (by decide)).bind fun o => ?_
  cases o with
  | none => exact failAt _ trivial
  | some v => exact pure _

theorem status : Composed status :=
  position.bind fun _ => peek.bind fun _ => .ite (read.bind fun _ => pure _)
    ((readWhile _).bind fun _ => .guardAt trivial (pure _))

theorem response : Composed response :=
  leadingLines.bind fun _ => position.bind fun _ => version.bind fun _ => someBlanks.bind fun _ =>
    status.bind fun _ => lineEnd.bind fun _ => fieldLine.zeroOrMore.bind fun _ =>
    responseSection.zeroOrMore.bind fun _ => body.optional.bind fun _ => pure _

theorem method : Composed method := by
  refine position.bind fun _ => (firstOf (by decide)).bind fun o => ?_
  cases o with
  | none => exact failAt _ trivial
  | some m => exact pure _

theorem fieldSection {name : String} (h : OneLine ("[" ++ name ++ "]")) :
    Composed (fieldSection name) :=
  (sectionLine h).bind fun _ => fieldLine.zeroOrMore

theorem contentType : Composed contentType := valueString.optional.bind fun _ => pure _

theorem filePart : Composed filePart :=
  leadingLines.bind fun _ => position.bind fun _ => keyString.bind fun _ => colon.bind fun _ =>
    (literal (by decide)).bind fun _ => blanks.bind fun _ => filename.bind fun _ =>
    blanks.bind fun _ => (literal (by decide)).bind fun _ => blanks.bind fun _ =>
    contentType.bind fun _ => lineEnd.bind fun _ => pure _

theorem part : Composed part := by
  refine filePart.optional.bind fun o => ?_
  cases o with
  | none => exact fieldLine.map _
  | some p => exact pure _

theorem multipartSection : Composed multipartSection :=
  (sectionLine (by decide)).bind fun _ => part.zeroOrMore

theorem requestSection : Composed requestSection := choice fun r hr => by
  simp only [List.mem_cons, List.not_mem_nil, or_false] at hr
  rcases hr with rfl | rfl | rfl | rfl | rfl | rfl
  · exact (fieldSection (by decide)).map _
  · exact (fieldSection (by decide)).map _
  · exact (fieldSection (by decide)).map _
  · exact multipartSection.map _
  · exact capturesSection.map _
  · exact assertsSection.map _

theorem request : Composed request :=
  leadingLines.bind fun _ => position.bind fun _ => method.bind fun _ => someBlanks.bind fun _ =>
    url.bind fun _ => lineEnd.bind fun _ => fieldLine.zeroOrMore.bind fun _ =>
    requestSection.zeroOrMore.bind fun _ => body.optional.bind fun _ => pure _

theorem entry : Composed entry :=
  request.bind fun _ => response.optional.bind fun _ => pure _

theorem script : Composed Script.rule :=
  entry.zeroOrMore.bind fun _ => lineEnd.zeroOrMore.bind fun _ => pure _

end Composed

/-! ### What composed rules raise -/

/-- Errors of the grammar. -/
def AllOfGrammar (l : List ParseError) : Prop := ∀ e ∈ l, e.OfGrammar

theorem AllOfGrammar.cons {l : List ParseError} {e : ParseError} (he : e.OfGrammar)
    (hl : AllOfGrammar l) : AllOfGrammar (e :: l) := List.forall_mem_cons.mpr ⟨he, hl⟩

/-- What a rule leaves that raises errors of the grammar only. -/
def Raised : EStateM.Result ParseError State α → Prop
  | .ok _ t => AllOfGrammar t.log
  | .error e t => e.OfGrammar ∧ AllOfGrammar t.log

/-- **A rule that raises errors of the grammar only**, those included that it logs. -/
def Raises (r : Rule α) : Prop := ∀ s : State, AllOfGrammar s.log → Raised (r s)

namespace Raises

variable {r : Rule α} {f : α → Rule β}

theorem bind (h : Raises r) (hf : ∀ a, Raises (f a)) : Raises (r >>= f) := by
  intro s hs
  have hr := h s hs
  show Raised (EStateM.bind r f s)
  unfold EStateM.bind
  cases heq : r s with
  | error e t => rw [heq] at hr; exact hr
  | ok a t =>
    rw [heq] at hr
    exact hf a t hr

theorem map (g : α → β) (h : Raises r) : Raises (g <$> r) := by
  intro s hs
  have hr := h s hs
  show Raised (EStateM.map g r s)
  unfold EStateM.map
  cases heq : r s with
  | error e t => rw [heq] at hr; exact hr
  | ok a t => rw [heq] at hr; exact hr

theorem read : Raises Rule.read := by
  intro s hs
  unfold Rule.read
  cases s.cursor.read with
  | mk o c => cases o with
    | none => exact ⟨trivial, hs⟩
    | some x => exact hs

theorem readN (n : Nat) : Raises (Rule.readN n) := by
  intro s hs
  unfold Rule.readN
  cases s.cursor.readN n with
  | mk o c => cases o with
    | none => exact ⟨trivial, hs⟩
    | some l => exact hs

theorem mapError {g : ParseError → ParseError} (hg : ∀ e, e.OfGrammar → (g e).OfGrammar)
    (h : Raises r) : Raises (Rule.mapError g r) := by
  intro s hs
  have hr := h s hs
  unfold Rule.mapError
  cases heq : r s with
  | error e t => rw [heq] at hr; exact ⟨hg e hr.1, hr.2⟩
  | ok a t => rw [heq] at hr; exact hr

theorem optional (h : Raises r) : Raises (Rule.optional r) := by
  intro s hs
  have hr := h s hs
  unfold Rule.optional
  cases heq : r s with
  | error e t => rw [heq] at hr; exact hr.2.cons hr.1
  | ok a t => rw [heq] at hr; exact hr

theorem collect {r : Rule (Option α)} (h : Raises r) : Raises (Rule.collect r) := by
  intro s hs
  -- along the rounds
  induction hn : s.cursor.left using Nat.strongRecOn generalizing s with
  | ind n ih =>
    have hr := h s hs
    unfold Rule.collect
    cases heq : r s with
    | error e t => rw [heq] at hr; exact hr
    | ok o t =>
      rw [heq] at hr
      cases o with
      | none => exact hr
      | some a =>
        dsimp only
        split
        · rename_i hlt
          have hrest := ih _ (hn ▸ hlt) t hr rfl
          cases hre : Rule.collect r t with
          | error e u => rw [hre] at hrest; exact hrest
          | ok l u => rw [hre] at hrest; exact hrest
        · exact hr

theorem zeroOrMore (h : Raises r) : Raises (Rule.zeroOrMore r) := by
  refine collect fun s hs => ?_
  unfold Rule.optionalBeforeEnd
  split
  · exact hs
  · exact h.optional s hs

/-- The error of a choice is one of those of its alternatives, or that there is none. -/
theorem choice {rules : List (Rule α)} (h : ∀ r ∈ rules, Raises r) :
    Raises (Rule.choice rules) := by
  suffices ∀ (start : Cursor) (failures : List ParseError), AllOfGrammar failures →
      Raises (Rule.choiceFrom start rules failures) from
    fun s hs => this s.cursor [] (by simp [AllOfGrammar]) s hs
  induction rules with
  | nil =>
    intro start failures hfailures s hs
    unfold Rule.choiceFrom
    split
    · rename_i e he
      exact ⟨hfailures e (mem_of_deepest? he), hs⟩
    · exact ⟨trivial, hs⟩
  | cons r rules ih =>
    intro start failures hfailures s hs
    have hr := h r (List.mem_cons_self ..) s hs
    unfold Rule.choiceFrom
    cases heq : r s with
    | ok a t => rw [heq] at hr; exact hr
    | error e t =>
      rw [heq] at hr
      refine ih (fun r hr => h r (List.mem_cons_of_mem _ hr)) start _ (fun e' he' => ?_) _
        (hr.2.cons hr.1)
      rcases List.mem_append.mp he' with he' | he'
      · exact hfailures e' he'
      · rw [List.mem_singleton.mp he']
        exact hr.1

end Raises

/-- **A composed rule raises errors of the grammar only.** -/
theorem Composed.raises {r : Rule α} (h : Composed r) : Raises r := by
  induction h with
  | pure _ => exact fun _ hs => hs
  | bind _ _ ihr ihf => exact ihr.bind ihf
  | map g _ ih => exact ih.map g
  | cursor | position | peek => exact fun _ hs => hs
  | moveTo _ | readWhile _ => exact fun _ hs => hs
  | failAt _ h | failHere h => exact fun _ hs => ⟨h, hs⟩
  | read => exact .read
  | readN n => exact .readN n
  | mapError hg _ ih => exact ih.mapError hg
  | @readOr cause h =>
    exact fun s hs => Raises.mapError (g := fun _ => .fault cause s.cursor.position)
      (fun _ _ => h) .read s hs
  | optional _ ih => exact ih.optional
  | collect _ ih => exact ih.collect
  | zeroOrMore _ ih => exact ih.zeroOrMore
  | choice _ ih => exact .choice ih

end HttpScript.Grammar
