import HttpScript.Proofs.Grammar.Tracks
import HttpScript.Script.Read

/-! # Positions of parts

`Script.positions` are all positions that a script holds, those of its parts and of their texts. The
rules for the smallest parts track the text and yield a part whose positions are exact. -/

namespace HttpScript

namespace Script

/-- The positions of a template. -/
def Template.positions (t : Template) : List Position := [t.position]

/-- The positions of a comment. -/
def Comment.positions (c : Comment) : List Position := [c.position]

/-- The positions of a field. -/
def Field.positions (f : Field) : List Position := f.position :: f.value.positions

/-- The positions of a part of a multipart form. -/
def Part.positions : Part → List Position
  | .text f => f.positions
  | .file f => [f.position]

/-- The positions of the content of a body. -/
def Content.positions : Content → List Position
  | .json t | .xml t | .raw t => t.positions
  | .base64 _ => []
  | .file _ p => [p]

/-- The positions of a body. -/
def Body.positions (b : Body) : List Position := b.position :: b.content.positions

/-- The positions of what a query reads. -/
def Source.positions (s : Source) : List Position := s.argument?.elim [] (·.positions)

/-- The positions of a further step. -/
def Subquery.positions : Subquery → List Position
  | .regex t => t.positions
  | .count => []

/-- The positions of a query. -/
def Query.positions (q : Query) : List Position :=
  q.position :: q.source.positions ++ q.subquery.elim [] (·.positions)

/-- The positions of a literal. -/
def Literal.positions : Literal → List Position
  | .string t => t.positions
  | _ => []

/-- The positions of a condition. -/
def Condition.positions : Condition → List Position
  | .equals l | .includes l => l.positions
  | .equalsVariable _ p => [p]
  | .startsWith t | .contains t | .like t => t.positions
  | .ordered _ _ | .countEquals _ | .present => []

/-- The positions of a predicate. -/
def Predicate.positions (p : Predicate) : List Position := p.position :: p.condition.positions

/-- The positions of a capture. -/
def Capture.positions (c : Capture) : List Position := c.position :: c.query.positions

/-- The positions of an assert. -/
def Assert.positions (a : Assert) : List Position :=
  a.position :: a.query.positions ++ a.predicate.positions

/-- The positions of a request. -/
def Request.positions (r : Request) : List Position :=
  r.position :: r.comments.flatMap (·.positions) ++ r.url.positions ++
    r.headers.flatMap (·.positions) ++ r.query.flatMap (·.positions) ++
    r.form.flatMap (·.positions) ++ r.multipart.flatMap (·.positions) ++
    r.cookies.flatMap (·.positions) ++ r.captures.flatMap (·.positions) ++
    r.asserts.flatMap (·.positions) ++ r.body.elim [] (·.positions)

/-- The positions of an expected response. -/
def Response.positions (r : Response) : List Position :=
  r.position :: r.version.position :: r.status.position :: r.headers.flatMap (·.positions) ++
    r.captures.flatMap (·.positions) ++ r.asserts.flatMap (·.positions) ++
    r.body.elim [] (·.positions)

/-- The positions of an entry. -/
def Entry.positions (e : Entry) : List Position :=
  e.request.positions ++ e.response.elim [] (·.positions)

/-- **All positions in a script.** -/
def positions (s : Script) : List Position := s.entries.flatMap (·.positions)

end Script

namespace Grammar

open Script Text

variable {α : Type} {text : List Char} {i : Nat}

/-- Exact positions. -/
def ExactIn (text : List Char) (l : List Position) : Prop := ∀ p ∈ l, p.IsExact text

@[simp] theorem exactIn_nil : ExactIn text [] := by simp [ExactIn]

@[simp] theorem exactIn_cons {p : Position} {l : List Position} :
    ExactIn text (p :: l) ↔ p.IsExact text ∧ ExactIn text l := by simp [ExactIn]

@[simp] theorem exactIn_append {l k : List Position} :
    ExactIn text (l ++ k) ↔ ExactIn text l ∧ ExactIn text k := by
  simp [ExactIn, or_imp, forall_and]

theorem exactIn_flatMap {f : α → List Position} {l : List α} :
    ExactIn text (l.flatMap f) ↔ ∀ a ∈ l, ExactIn text (f a) := by
  simp only [ExactIn, List.mem_flatMap]
  exact ⟨fun h a ha p hp => h p ⟨a, ha, hp⟩, fun h p ⟨a, ha, hp⟩ => h a ha p hp⟩

theorem exactIn_elim {f : α → List Position} {o : Option α} :
    ExactIn text (o.elim [] f) ↔ ∀ a ∈ o, ExactIn text (f a) := by
  cases o <;> simp

theorem exactIn_sections {σ : Type} {l : List σ} {positions : σ → List Position} {g : σ → List α}
    {f : α → List Position} (h : ∀ s ∈ l, ExactIn text (positions s))
    (hg : ∀ s, (g s).flatMap f ⊆ positions s) : ExactIn text ((l.flatMap g).flatMap f) := by
  rw [List.flatMap_assoc, exactIn_flatMap]
  exact fun s hs p hp => h s hs p (hg s hp)

namespace Tracks

/-- A fault where a condition holds. -/
theorem guardAt {c : Prop} [Decidable c] {p : Position} {cause : Fault} {k : Unit → Rule α}
    {Q : α → Nat → Prop} (hp : p.IsExact text) (h : ¬ c → Tracks text i (k ()) Q) :
    Tracks text i (if c then Rule.failAt p cause >>= k else k ()) Q :=
  .ite (fun _ => (failAt (Q := fun _ _ => False) hp).bind fun _ _ _ h => h.elim) h

/-- A fault at the cursor where a condition holds. -/
theorem guardHere {c : Prop} [Decidable c] {cause : Fault} {k : Unit → Rule α}
    {Q : α → Nat → Prop} (h : ¬ c → Tracks text i (k ()) Q) :
    Tracks text i (if c then Rule.failHere cause >>= k else k ()) Q :=
  .ite (fun _ => (failHere (Q := fun _ _ => False)).bind fun _ _ _ h => h.elim) h

theorem optionalPart {r : Rule α} {P : α → Prop} (h : Tracks text i r fun a _ => P a) :
    Tracks text i (Rule.optional r) fun o _ => ∀ a ∈ o, P a :=
  h.optional.mono fun o j _ ho => by
    rcases ho with ⟨rfl, -⟩ | ⟨a, rfl, ha⟩
    · simp
    · simpa using ha

/-! ### Lexemes -/

theorem literal (s : String) : Tracks text i (literal s) fun _ _ => True := by
  unfold Grammar.literal
  generalize s.toList = l
  induction l generalizing i with
  | nil => exact pure trivial
  | cons x l ih =>
    unfold literalTail
    refine peek.bind fun o j _ _ => ?_
    cases o with
    | none => exact failHere
    | some c => exact .ite (fun _ => read.bind fun _ _ _ _ => ih) fun _ => failHere

theorem blanks : Tracks text i blanks fun _ _ => True :=
  (readWhile _).bind fun _ _ _ _ => pure trivial

theorem someBlanks : Tracks text i someBlanks fun _ _ => True :=
  position.bind fun _ _ _ ⟨_, hp, _⟩ => (readWhile _).bind fun _ _ _ _ =>
    .ite (fun _ => failAt hp) fun _ => pure trivial

theorem lineBreak : Tracks text i lineBreak fun _ _ => True := by
  refine position.bind fun p _ _ ⟨_, hp, _⟩ => read.bind fun c _ _ _ => ?_
  refine .ite (fun _ => pure trivial) fun _ => .ite (fun _ => ?_) fun _ => failAt hp
  exact (mapError (g := fun _ => .fault .lineFeed p) read fun _ _ => hp).bind fun d _ _ _ =>
    .ite (fun _ => pure trivial) fun _ => failAt hp

theorem comment : Tracks text i comment fun c _ => ExactIn text c.positions :=
  position.bind fun _ _ _ ⟨_, hp, _⟩ => (literal "#").bind fun _ _ _ _ =>
    (readWhile _).bind fun _ _ _ _ => pure (by simp [Comment.positions, hp])

theorem endOfLine {p : Position} (hp : p.IsExact text) :
    Tracks text i (endOfLine p) fun _ _ => True := by
  refine peek.bind fun o _ _ _ => ?_
  cases o with
  | none => exact pure trivial
  | some c => exact .ite (fun _ => lineBreak) fun _ => failAt hp

theorem lineEnd : Tracks text i lineEnd fun o _ => ∀ c ∈ o, ExactIn text c.positions := by
  refine position.bind fun p _ _ ⟨_, hp, _⟩ => blanks.bind fun _ _ _ _ => ?_
  refine peek.bind fun o _ _ _ => ?_
  split
  · refine (comment.map (S := fun o _ => ∀ c ∈ o, ExactIn text c.positions)
      fun c _ _ hc => by simpa using hc).bind fun found _ _ hfound => ?_
    exact (endOfLine hp).bind fun _ _ _ _ => pure hfound
  · refine (pure (Q := fun o _ => ∀ c ∈ o, ExactIn text (Comment.positions c))
      (by simp)).bind fun found _ _ hfound => ?_
    exact (endOfLine hp).bind fun _ _ _ _ => pure hfound

theorem leadingLines : Tracks text i leadingLines fun l _ =>
    ∀ c ∈ l, ExactIn text c.positions := by
  refine (zeroOrMore fun _ _ => lineEnd).bind fun l _ _ hl => blanks.bind fun _ _ _ _ => pure ?_
  intro c hc
  obtain ⟨o, ho, rfl⟩ := List.mem_filterMap.mp hc
  exact hl _ ho c rfl

theorem codePoint : Tracks text i codePoint fun _ _ => True := by
  refine position.bind fun p _ _ ⟨_, hp, _⟩ => read.bind fun _ _ _ _ => .guardAt hp fun _ => ?_
  refine (readWhile _).bind fun digits _ _ _ => position.bind fun q _ _ ⟨_, hq, _⟩ => ?_
  refine .guardAt hq fun _ => read.bind fun _ _ _ _ => .guardAt hq fun _ => ?_
  by_cases hvalid : (hexNumber digits).isValidChar
  · rw [dif_pos hvalid]
    exact pure trivial
  · rw [dif_neg hvalid]
    exact failAt hq

theorem escape (plain : List Char) (broken : Fault) :
    Tracks text i (escape plain broken) fun _ _ => True := by
  refine position.bind fun p _ _ ⟨_, hp, _⟩ => (readOr broken).bind fun c _ _ _ => ?_
  refine .ite (fun _ => pure trivial) fun _ => ?_
  split
  all_goals first
    | exact pure trivial
    | exact codePoint
    | exact failAt hp

theorem keyChar : Tracks text i keyChar fun o j => ∀ a ∈ o, i < j := by
  refine peek.bind fun o _ _ _ => ?_
  cases o with
  | none => exact pure (by simp)
  | some c =>
    refine .ite (fun _ => read.map fun _ _ _ hj => ?_) fun _ => .ite (fun _ => ?_) fun _ =>
      pure (by simp)
    · simpa using by omega
    · refine read.bind fun _ _ _ hj => ((escape _ _).later hj).map fun _ _ _ hk => ?_
      simpa using by omega

theorem keyString : Tracks text i keyString fun _ j => i < j := by
  have hchars : ∀ j, Tracks text j (Rule.collect Grammar.keyChar) fun l _ =>
      ∀ a ∈ l, (fun _ : Char => True) a := fun j =>
    collect fun k _ => keyChar.mono fun _ _ _ _ => by simp
  refine position.bind fun p j _ ⟨_, hp, hi⟩ => (hchars j).bind fun _ k hk _ => ?_
  refine position.bind fun q m hm ⟨_, _, hq⟩ => .guardAt hp fun hne => pure ?_
  omega

/-- A character of a value is followed by a place behind the offset where the value begins. -/
theorem valueChar {k : Nat} (hk : k ≤ i) : Tracks text i valueChar fun o j => ∀ v ∈ o, i < j ∧
    v.next.text.toList = text ∧ v.next.position.IsExact text ∧ k ≤ v.next.position.offset := by
  have hnext : ∀ {j : Nat} (c : Char) (b : Bool), i < j → Tracks text j
      (do return some (ValueChar.mk c b (← Rule.cursor))) fun o m => ∀ v ∈ o, i < m ∧
        v.next.text.toList = text ∧ v.next.position.IsExact text ∧
          k ≤ v.next.position.offset := fun c b hj =>
    cursor.bind fun d m hm ⟨_, ht, hx, ho⟩ => pure fun v hv => by
      cases hv
      exact ⟨by omega, ht, hx, by simp only; omega⟩
  refine peek.bind fun o j hj _ => ?_
  cases o with
  | none => exact pure (by simp)
  | some c =>
    refine .ite (fun _ => pure (by simp)) fun _ => .ite (fun _ => ?_) fun _ => ?_
    · exact read.bind fun _ _ _ h => (escape _ _).bind fun d _ h' _ => hnext d false (by omega)
    · exact read.bind fun _ _ _ h => hnext c (isBlank c) (by omega)

theorem mem_of_dropTrailingBlanks {l : List ValueChar} {v : ValueChar}
    (h : v ∈ dropTrailingBlanks l) : v ∈ l := by
  unfold dropTrailingBlanks at h
  rw [List.mem_reverse] at h
  exact List.mem_reverse.mp ((List.dropWhile_sublist _).subset h)

theorem valueString : Tracks text i valueString fun t _ => ExactIn text t.positions := by
  refine cursor.bind fun c j _ ⟨_, ht, hx, ho⟩ => .guardHere fun _ => ?_
  refine goBack (collect fun k hk => (valueChar hk).mono fun _ _ _ h v hv => (h v hv).2)
    (fun l k _ hl => ?_) fun _ _ _ _ => pure (by simp [Template.positions, hx])
  split
  · rename_i v hv
    exact hl v (mem_of_dropTrailingBlanks (List.mem_of_getLast? hv))
  · exact ⟨ht, hx, by omega⟩

theorem quotedChar : Tracks text i quotedChar fun o j => ∀ a ∈ o, i < j := by
  refine (readOr _).bind fun c _ _ hj => .ite (fun _ => pure (by simp)) fun _ => ?_
  refine .ite (fun _ => ((escape _ _).later hj).map fun _ _ _ hk => ?_) fun _ => pure ?_
  · simpa using hk
  · simpa using hj

theorem quotedString : Tracks text i quotedString fun t _ => ExactIn text t.positions := by
  have hchars : ∀ j, Tracks text j (Rule.collect Grammar.quotedChar) fun l _ =>
      ∀ a ∈ l, (fun _ : Char => True) a := fun j =>
    collect fun k _ => quotedChar.mono fun _ _ _ _ => by simp
  refine position.bind fun p _ _ ⟨_, hp, _⟩ => peek.bind fun o _ _ _ => ?_
  split
  · exact read.bind fun _ _ _ _ => (hchars _).bind fun _ _ _ _ =>
      pure (by simp [Template.positions, hp])
  · exact failAt hp

/-! ### Numbers and names -/

theorem sign : Tracks text i sign fun _ _ => True := by
  refine peek.bind fun o _ _ _ => ?_
  split
  · exact read.bind fun _ _ _ _ => pure trivial
  · exact read.bind fun _ _ _ _ => pure trivial
  · exact pure trivial

theorem digits : Tracks text i digits fun _ _ => True :=
  (readWhile _).bind fun _ _ _ _ => .guardHere fun _ => pure trivial

theorem integer : Tracks text i integer fun _ _ => True :=
  position.bind fun _ _ _ ⟨_, hp, _⟩ => sign.bind fun _ _ _ _ => digits.bind fun _ _ _ _ =>
    .guardAt hp fun _ => pure trivial

theorem decimal : Tracks text i decimal fun _ _ => True := by
  refine sign.bind fun _ _ _ _ => digits.bind fun _ _ _ _ => peek.bind fun o _ _ _ => ?_
  split
  · exact read.bind fun _ _ _ _ => digits.bind fun _ _ _ _ => pure trivial
  · exact failHere

theorem number : Tracks text i number fun _ _ => True :=
  choice fun r hr => by
    rcases List.mem_pair.mp hr with rfl | rfl
    · exact decimal
    · exact integer.map fun _ _ _ _ => trivial

theorem boolean : Tracks text i boolean fun _ _ => True := by
  refine position.bind fun p _ _ ⟨_, hp, _⟩ =>
    (firstOf fun _ _ _ _ => literal _).bind fun o _ _ _ => ?_
  cases o with
  | none => exact failAt hp
  | some b => exact pure trivial

theorem placeholder : Tracks text i placeholder fun a _ => a.2.IsExact text :=
  position.bind fun _ _ _ ⟨_, hp, _⟩ => (literal _).bind fun _ _ _ _ =>
    position.bind fun _ _ _ ⟨_, hq, _⟩ => (readWhile _).bind fun _ _ _ _ =>
    .guardAt hq fun _ => (literal _).bind fun _ _ _ _ => pure hp

theorem colon : Tracks text i colon fun _ _ => True :=
  blanks.bind fun _ _ _ _ => (literal _).bind fun _ _ _ _ => blanks

theorem field : Tracks text i field fun f _ => ExactIn text f.positions :=
  position.bind fun _ _ _ ⟨_, hp, _⟩ => keyString.bind fun _ _ _ _ => colon.bind fun _ _ _ _ =>
    valueString.bind fun _ _ _ ht => pure (by simp [Field.positions, hp, ht])

theorem fieldLine : Tracks text i fieldLine fun f _ => ExactIn text f.positions :=
  leadingLines.bind fun _ _ _ _ => field.bind fun _ _ _ hf => lineEnd.bind fun _ _ _ _ => pure hf

theorem filename : Tracks text i filename fun _ _ => True :=
  position.bind fun _ _ _ ⟨_, hp, _⟩ => (readWhile _).bind fun _ _ _ _ =>
    .guardAt hp fun _ => .guardAt hp fun _ => pure trivial

theorem url : Tracks text i url fun t _ => ExactIn text t.positions :=
  position.bind fun _ _ _ ⟨_, hp, _⟩ => (readWhile _).bind fun _ _ _ _ =>
    .guardAt hp fun _ => pure (by simp [Template.positions, hp])

theorem sectionLine (name : String) : Tracks text i (sectionLine name) fun _ _ => True :=
  leadingLines.bind fun _ _ _ _ => (literal _).bind fun _ _ _ _ => lineEnd.bind fun _ _ _ _ =>
    pure trivial

end Tracks

end Grammar

end HttpScript
