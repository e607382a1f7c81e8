import HttpScript.Proofs.Grammar.Placed

/-! # The states in which rules are run

Reading a script runs rules in many states: behind others that have succeeded, and again where an
alternative has failed. `Reached` takes in all of these, and more: it is closed under every rule of
the grammar, not only under those that the grammar has run in a state.

* `IsRule`: the rules of the grammar. `IsRule.tracks`: each of them tracks the text.
* `Reached.standsAt`: reading can go on in every state that is reached.
* `Reached.succeeds`: a rule that succeeds there ends behind its beginning and in the text. -/

namespace HttpScript.Grammar

open Script

variable {α β : Type}

/-- **The rules of the grammar**, from reading a character up to whole scripts, and what the
combinators make of them. -/
inductive IsRule : {α : Type} → Rule α → Prop
  | read : IsRule Rule.read
  | readN (n : Nat) : IsRule (Rule.readN n)
  | readWhile (p : Char → Bool) : IsRule (Rule.readWhile p)
  | readOr (cause : Fault) : IsRule (Rule.readOr cause)
  -- lexemes
  | literal (s : String) : IsRule (literal s)
  | blanks : IsRule blanks
  | someBlanks : IsRule someBlanks
  | lineBreak : IsRule lineBreak
  | comment : IsRule comment
  | lineEnd : IsRule lineEnd
  | leadingLines : IsRule leadingLines
  | codePoint : IsRule codePoint
  | escape (plain : List Char) (broken : Fault) : IsRule (escape plain broken)
  | keyChar : IsRule keyChar
  | keyString : IsRule keyString
  | valueChar : IsRule valueChar
  | valueString : IsRule valueString
  | quotedChar : IsRule quotedChar
  | quotedString : IsRule quotedString
  | sign : IsRule sign
  | digits : IsRule digits
  | integer : IsRule integer
  | decimal : IsRule decimal
  | number : IsRule number
  | boolean : IsRule boolean
  | placeholder : IsRule placeholder
  | colon : IsRule colon
  | field : IsRule field
  | fieldLine : IsRule fieldLine
  | filename : IsRule filename
  | url : IsRule url
  | sectionLine (name : String) : IsRule (sectionLine name)
  -- queries and predicates
  | bareSource (s : Source) : IsRule (bareSource s)
  | quotedSource (make : Template → Source) : IsRule (quotedSource make)
  | source : IsRule source
  | regexSubquery : IsRule regexSubquery
  | countSubquery : IsRule countSubquery
  | query : IsRule query
  | keyword (name : String) : IsRule (keyword name)
  | stringLiteral : IsRule stringLiteral
  | numberLiteral : IsRule numberLiteral
  | boolLiteral : IsRule boolLiteral
  | nullLiteral : IsRule nullLiteral
  | equalsVariable : IsRule equalsVariable
  | equalsCondition : IsRule equalsCondition
  | orderedCondition (o : Script.Ordering) : IsRule (orderedCondition o)
  | countCondition : IsRule countCondition
  | quotedCondition (make : Template → Condition) : IsRule (quotedCondition make)
  | includesCondition : IsRule includesCondition
  | presentCondition : IsRule presentCondition
  | condition : IsRule condition
  | negation : IsRule negation
  | predicate : IsRule predicate
  -- bodies
  | templateOf (n : Nat) : IsRule (templateOf n)
  | jsonContent : IsRule jsonContent
  | xmlContent : IsRule xmlContent
  | rawChar : IsRule rawChar
  | rawContent : IsRule rawContent
  | base64Content : IsRule base64Content
  | fileContent : IsRule fileContent
  | content : IsRule content
  | body : IsRule body
  -- responses and requests
  | capture : IsRule capture
  | assert : IsRule assert
  | capturesSection : IsRule capturesSection
  | assertsSection : IsRule assertsSection
  | responseSection : IsRule responseSection
  | version : IsRule version
  | status : IsRule status
  | response : IsRule response
  | method : IsRule method
  | fieldSection (name : String) : IsRule (fieldSection name)
  | contentType : IsRule contentType
  | filePart : IsRule filePart
  | part : IsRule part
  | multipartSection : IsRule multipartSection
  | requestSection : IsRule requestSection
  | request : IsRule request
  | entry : IsRule entry
  | script : IsRule Script.rule
  -- combinations
  | map {α β : Type} {r : Rule α} (f : α → β) (h : IsRule r) : IsRule (f <$> r)
  | seq {α β : Type} {r : Rule α} {k : Rule β} (hr : IsRule r) (hk : IsRule k) :
    IsRule (r >>= fun _ => k)
  | optional {α : Type} {r : Rule α} (h : IsRule r) : IsRule (Rule.optional r)
  | zeroOrMore {α : Type} {r : Rule α} (h : IsRule r) : IsRule (Rule.zeroOrMore r)
  | oneOrMore {α : Type} {r : Rule α} (h : IsRule r) : IsRule (Rule.oneOrMore r)
  | choice {α : Type} {rules : List (Rule α)} (h : ∀ r ∈ rules, IsRule r) :
    IsRule (Rule.choice rules)

/-- What a rule yields set aside. -/
theorem Tracks.forget {text : List Char} {i : Nat} {r : Rule α} {Q : α → Nat → Prop}
    (h : Tracks text i r Q) : Tracks text i r fun _ _ => True :=
  h.mono fun _ _ _ _ => trivial

/-- **Every rule of the grammar tracks the text.** -/
theorem IsRule.tracks {r : Rule α} (h : IsRule r) (text : List Char) (i : Nat) :
    Tracks text i r fun _ _ => True := by
  induction h generalizing i with
  | read => exact Tracks.read.forget
  | readN n => exact .readN n
  | readWhile p => exact .readWhile p
  | readOr cause => exact (Tracks.readOr cause).forget
  | literal s => exact .literal s
  | blanks => exact .blanks
  | someBlanks => exact .someBlanks
  | lineBreak => exact .lineBreak
  | comment => exact Tracks.comment.forget
  | lineEnd => exact Tracks.lineEnd.forget
  | leadingLines => exact Tracks.leadingLines.forget
  | codePoint => exact .codePoint
  | escape plain broken => exact .escape plain broken
  | keyChar => exact Tracks.keyChar.forget
  | keyString => exact Tracks.keyString.forget
  | valueChar => exact (Tracks.valueChar (Nat.le_refl i)).forget
  | valueString => exact Tracks.valueString.forget
  | quotedChar => exact Tracks.quotedChar.forget
  | quotedString => exact Tracks.quotedString.forget
  | sign => exact .sign
  | digits => exact .digits
  | integer => exact .integer
  | decimal => exact .decimal
  | number => exact .number
  | boolean => exact .boolean
  | placeholder => exact Tracks.placeholder.forget
  | colon => exact .colon
  | field => exact Tracks.field.forget
  | fieldLine => exact Tracks.fieldLine.forget
  | filename => exact .filename
  | url => exact Tracks.url.forget
  | sectionLine name => exact .sectionLine name
  | bareSource s => exact (Tracks.literal _).bind fun _ _ _ _ => .pure trivial
  | quotedSource make =>
    exact (Tracks.literal _).bind fun _ _ _ _ => Tracks.someBlanks.bind fun _ _ _ _ =>
      Tracks.quotedString.bind fun _ _ _ _ => .pure trivial
  | source => exact Tracks.source.forget
  | regexSubquery => exact Tracks.regexSubquery.forget
  | countSubquery => exact Tracks.countSubquery.forget
  | query => exact Tracks.query.forget
  | keyword name => exact .keyword name
  | stringLiteral => exact (Tracks.literalValue (by simp)).forget
  | numberLiteral => exact (Tracks.literalValue (by simp)).forget
  | boolLiteral => exact (Tracks.literalValue (by simp)).forget
  | nullLiteral => exact (Tracks.literalValue (by simp)).forget
  | equalsVariable => exact Tracks.placeholder.bind fun _ _ _ _ => .pure trivial
  | equalsCondition => exact Tracks.equalsCondition.forget
  | orderedCondition o => exact (Tracks.orderedCondition o).forget
  | countCondition => exact Tracks.countCondition.forget
  | quotedCondition make =>
    exact (Tracks.keyword _).bind fun _ _ _ _ => Tracks.quotedString.bind fun _ _ _ _ =>
      .pure trivial
  | includesCondition => exact Tracks.includesCondition.forget
  | presentCondition => exact Tracks.presentCondition.forget
  | condition => exact Tracks.condition.forget
  | negation => exact .negation
  | predicate => exact Tracks.predicate.forget
  | templateOf n => exact (Tracks.templateOf n).forget
  | jsonContent => exact Tracks.jsonContent.forget
  | xmlContent => exact Tracks.xmlContent.forget
  | rawChar => exact Tracks.rawChar.forget
  | rawContent => exact Tracks.rawContent.forget
  | base64Content => exact Tracks.base64Content.forget
  | fileContent => exact Tracks.fileContent.forget
  | content => exact Tracks.content.forget
  | body => exact Tracks.body.forget
  | capture => exact Tracks.capture.forget
  | assert => exact Tracks.assert.forget
  | capturesSection => exact Tracks.capturesSection.forget
  | assertsSection => exact Tracks.assertsSection.forget
  | responseSection => exact Tracks.responseSection.forget
  | version => exact Tracks.version.forget
  | status => exact Tracks.status.forget
  | response => exact Tracks.response.forget
  | method => exact .method
  | fieldSection name => exact (Tracks.fieldSection name).forget
  | contentType => exact .contentType
  | filePart => exact Tracks.filePart.forget
  | part => exact Tracks.part.forget
  | multipartSection => exact Tracks.multipartSection.forget
  | requestSection => exact Tracks.requestSection.forget
  | request => exact Tracks.request.forget
  | entry => exact Tracks.entry.forget
  | script => exact Tracks.script.forget
  | map f _ ih => exact (ih i).map fun _ _ _ _ => trivial
  | seq _ _ ihr ihk => exact (ihr i).bind fun _ j _ _ => ihk j
  | optional _ ih => exact (ih i).optional.forget
  | zeroOrMore _ ih => exact (Tracks.zeroOrMore fun j _ => ih j).forget
  | oneOrMore _ ih =>
    exact (ih i).bind fun _ _ _ _ => (Tracks.zeroOrMore fun j _ => ih j).bind fun _ _ _ _ =>
      .pure trivial
  | choice _ ih => exact .choice fun r hr => ih r hr i

/-- **The states in which rules are run** while a text is read: the first one, those behind a rule
that has succeeded, those that a rule which has failed is followed by, and those behind going back
to a place where reading has been. -/
inductive Reached (text : String) : State → Prop
  | start : Reached text (.ofText text)
  | behind {α : Type} {r : Rule α} {s t : State} {a : α} (hr : IsRule r) (hs : Reached text s)
    (h : r s = .ok a t) : Reached text t
  | failed {α : Type} {r : Rule α} {s t : State} {e : ParseError} (hr : IsRule r)
    (hs : Reached text s) (h : r s = .error e t) : Reached text (t.backtrack s.cursor e)
  | back {s t : State} (hs : Reached text s) (ht : Reached text t) :
    Reached text { t with cursor := s.cursor.clear }

variable {text : String} {s t : State} {r : Rule α} {a : α}

/-- **Reading can go on in every state that is reached.** -/
theorem Reached.standsAt (h : Reached text s) : ∃ i, s.StandsAt text.toList i := by
  induction h with
  | start => exact ⟨0, .ofText text⟩
  | behind hr _ h ih =>
    obtain ⟨i, hs⟩ := ih
    obtain ⟨j, -, ht, -⟩ := (hr.tracks text.toList i).ok hs h
    exact ⟨j, ht⟩
  | failed hr _ h ih =>
    obtain ⟨i, hs⟩ := ih
    obtain ⟨he, hlog⟩ := (hr.tracks text.toList i).error hs h
    exact ⟨i, hs.backtrack he hlog⟩
  | back _ _ ihs iht =>
    obtain ⟨i, hs⟩ := ihs
    obtain ⟨j, ht⟩ := iht
    exact ⟨i, hs.text_eq, hs.exact, hs.offset_eq, rfl, ht.log⟩

theorem Reached.fresh (h : Reached text s) : s.cursor.exhausted = false := by
  obtain ⟨i, hs⟩ := h.standsAt
  exact hs.fresh

/-- What is known of a rule at every offset holds where it succeeds in a state that is reached. -/
theorem Reached.yields {Q : Nat → α → Nat → Prop} (hs : Reached text s)
    (hr : ∀ i, Tracks text.toList i r (Q i)) (h : r s = .ok a t) :
    Q s.cursor.position.offset a t.cursor.position.offset := by
  obtain ⟨i, hs⟩ := hs.standsAt
  obtain ⟨j, -, ht, hQ⟩ := (hr i).ok hs h
  rw [hs.offset_eq, ht.offset_eq]
  exact hQ

/-- **A rule that succeeds** ends behind its beginning and in the text, and reading can go on. -/
theorem Reached.succeeds (hs : Reached text s) (hr : IsRule r) (h : r s = .ok a t) :
    s.cursor.position.offset ≤ t.cursor.position.offset ∧
      t.cursor.position.offset ≤ text.length ∧ t.cursor.exhausted = false := by
  obtain ⟨i, hs⟩ := hs.standsAt
  obtain ⟨j, hij, ht, -⟩ := (hr.tracks text.toList i).ok hs h
  have hend := ht.exact.offset_le
  rw [String.length_toList] at hend
  exact ⟨by rw [hs.offset_eq, ht.offset_eq]; exact hij, hend, ht.fresh⟩

end HttpScript.Grammar
