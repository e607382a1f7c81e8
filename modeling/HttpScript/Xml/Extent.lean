import HttpScript.Text.Class

/-! # Where an embedded document ends

A body may be an XML document written into the script. `Xml.extent?` finds how many characters it
takes: it follows the markup, keeping the names of the elements that are open, up to the end of
the first element that is not inside another. It checks that tags are balanced and leaves all else
to a real reader.

A `Piece` is one piece of markup: a tag, which changes the open elements, or anything else. -/

namespace HttpScript.Xml

open Text

/-- The rest of a text behind the first place where `needle` stands. -/
def behind? (needle : List Char) : List Char → Option (List Char)
  | [] => none
  | c :: l =>
    if needle.isPrefixOf (c :: l) then some ((c :: l).drop needle.length) else behind? needle l

/-- A character of a tag's name. -/
def isTagNameChar (c : Char) : Bool := !isWhite c && c != '>' && c != '/'

/-- The rest of a text behind the `>` that ends a tag, and whether a `/` stands before it. Quoted
values are skipped; `last` is the character read before. -/
def tagEnd? (quote : Option Char) (last : Char) : List Char → Option (Bool × List Char)
  | [] => none
  | c :: l =>
    match quote with
    | some q => tagEnd? (if c = q then none else some q) c l
    | none =>
      if c = '"' ∨ c = '\'' then tagEnd? (some c) c l
      else if c = '>' then some (last = '/', l)
      else if c = '<' then none
      else tagEnd? none c l

/-- A piece of markup. -/
inductive Piece
  /-- A tag: the elements open behind it, the innermost first, and the rest of the text. -/
  | tag (opened : List (List Char)) (rest : List Char)
  /-- A comment, an instruction, a declaration or character data. -/
  | other (rest : List Char)

/-- The text behind a piece of markup. -/
def Piece.rest : Piece → List Char
  | tag _ r | other r => r

/-- A start tag or an empty tag, behind its `<`. -/
def startTag? (opened : List (List Char)) (l : List Char) : Option Piece :=
  let name := l.takeWhile isTagNameChar
  if name.isEmpty then none
  else match tagEnd? none '<' (l.dropWhile isTagNameChar) with
    | none => none
    | some (true, r) => some (.tag opened r)
    | some (false, r) => some (.tag (name :: opened) r)

/-- An end tag, behind its `</`. -/
def endTag? (opened : List (List Char)) (l : List Char) : Option Piece :=
  let name := l.takeWhile isTagNameChar
  match opened, tagEnd? none '<' (l.dropWhile isTagNameChar) with
  | innermost :: outer, some (_, r) =>
    if name.isEmpty ∨ innermost ≠ name then none else some (.tag outer r)
  | _, _ => none

/-- A piece of markup, behind its `<`. -/
def piece? (opened : List (List Char)) : List Char → Option Piece
  | '!' :: '-' :: '-' :: l => (behind? ['-', '-', '>'] l).map .other
  | '!' :: '[' :: 'C' :: 'D' :: 'A' :: 'T' :: 'A' :: '[' :: l =>
    if opened.isEmpty then none else (behind? [']', ']', '>'] l).map .other
  | '?' :: l => (behind? ['?', '>'] l).map .other
  | '!' :: l => (tagEnd? none '<' l).map fun p => .other p.2
  | '/' :: l => endTag? opened l
  | l => startTag? opened l

/-! ### What is read is gone -/

theorem length_behind? {needle l r : List Char} (h : behind? needle l = some r) :
    r.length ≤ l.length := by
  induction l with
  | nil => simp [behind?] at h
  | cons c l ih =>
    unfold behind? at h
    split at h
    · cases h; simp
    · have := ih h; simp only [List.length_cons]; omega

theorem length_tagEnd? {q : Option Char} {last : Char} {l r : List Char} {b : Bool}
    (h : tagEnd? q last l = some (b, r)) : r.length ≤ l.length := by
  induction l generalizing q last with
  | nil => simp [tagEnd?] at h
  | cons c l ih =>
    have step : ∀ {q' : Option Char} {last' : Char}, tagEnd? q' last' l = some (b, r) →
        r.length ≤ (c :: l).length := fun h' => by
      have := ih h'; simp only [List.length_cons]; omega
    unfold tagEnd? at h
    split at h
    · exact step h
    · split at h
      · exact step h
      · split at h
        · cases h; simp
        · split at h
          · cases h
          · exact step h

theorem length_dropWhile_le (p : Char → Bool) (l : List Char) :
    (l.dropWhile p).length ≤ l.length := (List.dropWhile_sublist p).length_le

theorem length_startTag? {opened : List (List Char)} {l : List Char} {p : Piece}
    (h : startTag? opened l = some p) : p.rest.length ≤ l.length := by
  unfold startTag? at h
  have hd := length_dropWhile_le isTagNameChar l
  simp only at h
  split at h
  · cases h
  · split at h <;> cases h <;> rename_i he <;> have := length_tagEnd? he <;>
      simp only [Piece.rest] <;> omega

theorem length_endTag? {opened : List (List Char)} {l : List Char} {p : Piece}
    (h : endTag? opened l = some p) : p.rest.length ≤ l.length := by
  unfold endTag? at h
  have hd := length_dropWhile_le isTagNameChar l
  simp only at h
  split at h
  · split at h
    · cases h
    · rename_i he _
      cases h
      have := length_tagEnd? he
      simp only [Piece.rest]
      omega
  · cases h

theorem length_piece? {opened : List (List Char)} {l : List Char} {p : Piece}
    (h : piece? opened l = some p) : p.rest.length ≤ l.length := by
  unfold piece? at h
  split at h
  · obtain ⟨r, hr, rfl⟩ := Option.map_eq_some_iff.mp h
    have := length_behind? hr
    simp only [Piece.rest, List.length_cons]; omega
  · split at h
    · cases h
    · obtain ⟨r, hr, rfl⟩ := Option.map_eq_some_iff.mp h
      have := length_behind? hr
      simp only [Piece.rest, List.length_cons]; omega
  · obtain ⟨r, hr, rfl⟩ := Option.map_eq_some_iff.mp h
    have := length_behind? hr
    simp only [Piece.rest, List.length_cons]; omega
  · obtain ⟨⟨b, r⟩, hr, rfl⟩ := Option.map_eq_some_iff.mp h
    have := length_tagEnd? hr
    simp only [Piece.rest, List.length_cons]; omega
  · have := length_endTag? h
    simp only [List.length_cons]; omega
  · exact length_startTag? h

/-! ### The extent -/

/-- The rest of a text behind the document it starts with; `opened` are the open elements. -/
def afterDocument? (opened : List (List Char)) (l : List Char) : Option (List Char) :=
  match l with
  | [] => none
  | c :: l =>
    if c ≠ '<' then
      if opened.isEmpty && !isWhite c then none else afterDocument? opened l
    else
      match _ : piece? opened l with
      | none => none
      | some (.other r) => afterDocument? opened r
      | some (.tag [] r) => some r
      | some (.tag (name :: outer) r) => afterDocument? (name :: outer) r
termination_by l.length
decreasing_by
  · simp
  · rename_i h; have := length_piece? h; simp only [Piece.rest] at this
    simp only [List.length_cons]; omega
  · rename_i h; have := length_piece? h; simp only [Piece.rest] at this
    simp only [List.length_cons]; omega

/-- **The number of characters of the document at the start of a text**, if there is one. -/
def extent? (l : List Char) : Option Nat :=
  (afterDocument? [] l).map fun r => l.length - r.length

end HttpScript.Xml
