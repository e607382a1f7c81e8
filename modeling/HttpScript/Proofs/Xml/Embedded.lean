import HttpScript.Proofs.Xml.Pieces

/-! # Documents

The grammar of an embedded document, and that its extent is found exactly.

* `Element`, `Content`, `Document`: the grammar. An element is an empty tag, or content between a
  start tag and an end tag of the same name.
* `Element.afterDocument?_append`, `Content.afterDocument?_append`: how elements and content are
  passed.
* `Closes`: what is left of a document in which elements are open.
* `extent?_exact`: the extent of a text is `n` just if its first `n` characters are a document, and
  a document has its own extent whatever follows it. -/

namespace HttpScript.Xml.Embedded

open Text

/-! ### The grammar -/

mutual

/-- **An element.** -/
inductive Element : List Char → Prop
  | empty {name rest : List Char} : Tag name rest → IsElementName name → IsEmptyTag rest →
      Element ('<' :: (name ++ rest))
  | pair {name rest content rest' : List Char} : Tag name rest → IsElementName name →
      ¬ IsEmptyTag rest → Content content → Tag name rest' →
      Element ('<' :: (name ++ rest) ++ content ++ '<' :: '/' :: (name ++ rest'))

/-- **The content of an element.** -/
inductive Content : List Char → Prop
  | nil : Content []
  | char {c : Char} {l : List Char} : c ≠ '<' → Content l → Content (c :: l)
  | aside {a l : List Char} : Aside a → Content l → Content (a ++ l)
  | data {a l : List Char} : Data a → Content l → Content (a ++ l)
  | element {a l : List Char} : Element a → Content l → Content (a ++ l)

end

/-- **A document**: an element behind white space, comments, instructions and declarations. -/
inductive Document : List Char → Prop
  | element {l : List Char} : Element l → Document l
  | white {c : Char} {l : List Char} : isWhite c = true → Document l → Document (c :: l)
  | aside {a l : List Char} : Aside a → Document l → Document (a ++ l)

/-! ### Steps -/

/-- The rest behind a document, once a tag has been passed that leaves some elements open. -/
def behindTag? : List (List Char) → List Char → Option (List Char)
  | [], r => some r
  | name :: outer, r => afterDocument? (name :: outer) r

theorem afterDocument?_cons (opened : List (List Char)) {c : Char} (l : List Char) (hc : c ≠ '<')
    (h : opened ≠ [] ∨ isWhite c = true) :
    afterDocument? opened (c :: l) = afterDocument? opened l := by
  rw [afterDocument?, if_pos hc, if_neg]
  rcases h with h | h <;> simp [h]

theorem afterDocument?_other {opened : List (List Char)} {a : List Char}
    (h : Plain opened a) (r : List Char) :
    afterDocument? opened (a ++ r) = afterDocument? opened r := by
  obtain ⟨k, rfl, hk⟩ := h.piece?_append
  rw [List.cons_append, afterDocument?, if_neg (by simp)]
  split <;> rename_i heq <;> rw [hk r] at heq <;> cases heq
  rfl

theorem afterDocument?_tag {opened opened' : List (List Char)} {a : List Char}
    (h : Turns opened a opened') (r : List Char) :
    afterDocument? opened (a ++ r) = behindTag? opened' r := by
  obtain ⟨k, rfl, hk⟩ := h.piece?_append
  rw [List.cons_append, afterDocument?, if_neg (by simp)]
  split <;> rename_i heq <;> rw [hk r] at heq <;> cases heq <;> rfl

/-! ### What belongs to the grammar is passed -/

mutual

theorem Element.afterDocument?_append : ∀ {a : List Char}, Element a →
    ∀ (opened : List (List Char)) (r : List Char),
      afterDocument? opened (a ++ r) = behindTag? opened r
  | _, .empty htag hname he, opened, r => afterDocument?_tag (.empty htag hname he) r
  | _, .pair htag hname he hcontent hclose, opened, r => by
    rw [List.append_assoc, List.append_assoc, afterDocument?_tag (.start htag hname he), behindTag?,
      hcontent.afterDocument?_append, afterDocument?_tag (.close hclose)]

theorem Content.afterDocument?_append : ∀ {a : List Char}, Content a →
    ∀ (name : List Char) (outer : List (List Char)) (r : List Char),
      afterDocument? (name :: outer) (a ++ r) = afterDocument? (name :: outer) r
  | _, .nil, _, _, _ => rfl
  | _, .char hc hl, name, outer, r => by
    rw [List.cons_append, afterDocument?_cons _ _ hc (.inl (List.cons_ne_nil _ _))]
    exact hl.afterDocument?_append name outer r
  | _, .aside ha hl, name, outer, r => by
    rw [List.append_assoc, afterDocument?_other (.aside ha)]
    exact hl.afterDocument?_append name outer r
  | _, .data ha hl, name, outer, r => by
    rw [List.append_assoc, afterDocument?_other (.data (List.cons_ne_nil _ _) ha)]
    exact hl.afterDocument?_append name outer r
  | _, .element ha hl, name, outer, r => by
    rw [List.append_assoc, ha.afterDocument?_append (name :: outer)]
    exact hl.afterDocument?_append name outer r

end

theorem Document.afterDocument?_append {d : List Char} (h : Document d) (r : List Char) :
    afterDocument? [] (d ++ r) = some r := by
  induction h with
  | element h => exact h.afterDocument?_append [] r
  | white hc _ ih =>
    refine (afterDocument?_cons [] _ ?_ (.inr hc)).trans ih
    rintro rfl
    exact absurd hc (by decide)
  | aside ha _ ih =>
    rw [List.append_assoc, afterDocument?_other (.aside ha)]
    exact ih

/-! ### What is passed belongs to the grammar -/

/-- **What is left of a document** behind a tag that leaves elements open, the innermost first: for
each of them the rest of its content and its end tag. -/
inductive Closes : List (List Char) → List Char → Prop
  | nil : Closes [] []
  | cons {name content rest d : List Char} {outer : List (List Char)} : Content content →
      Tag name rest → Closes outer d →
      Closes (name :: outer) (content ++ ('<' :: '/' :: (name ++ rest)) ++ d)

namespace Closes

variable {name a d : List Char} {opened outer : List (List Char)}

/-- What can stand before content belongs to the content of the innermost element. -/
theorem prepend (h : Closes opened d) (hne : opened ≠ [])
    (ha : ∀ l, Content l → Content (a ++ l)) : Closes opened (a ++ d) := by
  cases h with
  | nil => exact absurd rfl hne
  | cons hcontent htag h =>
    have hclose := Closes.cons (ha _ hcontent) htag h
    simpa only [List.append_assoc] using hclose

/-- A start tag, with all that closes its element, is an element. -/
theorem element {rest : List Char} (h : Closes (name :: opened) d) (htag : Tag name rest)
    (hname : IsElementName name) (he : ¬ IsEmptyTag rest) :
    ∃ e d', '<' :: (name ++ rest) ++ d = e ++ d' ∧ Element e ∧ Closes opened d' := by
  cases h with
  | cons hcontent hclose h =>
    refine ⟨_, _, ?_, .pair htag hname he hcontent hclose, h⟩
    simp only [List.append_assoc]

end Closes

/-- What is passed up to the end of a document. -/
def Passed (opened : List (List Char)) (d : List Char) : Prop :=
  opened = [] ∧ Document d ∨ opened ≠ [] ∧ Closes opened d

theorem Passed.of_element {opened : List (List Char)} {e d : List Char} (he : Element e)
    (h : Closes opened d) : Passed opened (e ++ d) := by
  by_cases hopened : opened = []
  · subst hopened
    cases h
    rw [List.append_nil]
    exact .inl ⟨rfl, .element he⟩
  · exact .inr ⟨hopened, h.prepend hopened fun _ hl => .element he hl⟩

/-- A tag in front of all that closes the elements it leaves open. -/
theorem Passed.of_turns {opened opened' : List (List Char)} {a d : List Char}
    (h : Turns opened a opened') (hd : Closes opened' d) : Passed opened (a ++ d) := by
  cases h with
  | empty htag hname he => exact .of_element (.empty htag hname he) hd
  | start htag hname he =>
    obtain ⟨e, d', heq, helement, hd'⟩ := hd.element htag hname he
    rw [heq]
    exact .of_element helement hd'
  | close htag => exact .inr ⟨List.cons_ne_nil _ _, .cons .nil htag hd⟩

theorem Passed.of_plain {opened : List (List Char)} {a d : List Char} (h : Plain opened a)
    (hd : Passed opened d) : Passed opened (a ++ d) := by
  rcases hd with ⟨rfl, hd⟩ | ⟨hopened, hd⟩
  · cases h with
    | aside ha => exact .inl ⟨rfl, .aside ha hd⟩
    | data hne _ => exact absurd rfl hne
  · cases h with
    | aside ha => exact .inr ⟨hopened, hd.prepend hopened fun _ hl => .aside ha hl⟩
    | data _ ha => exact .inr ⟨hopened, hd.prepend hopened fun _ hl => .data ha hl⟩

/-- **What is passed up to the end of a document belongs to the grammar.** -/
theorem passed_of_afterDocument? {opened : List (List Char)} {l r : List Char}
    (h : afterDocument? opened l = some r) : ∃ d, l = d ++ r ∧ Passed opened d := by
  fun_induction afterDocument? opened l with
  | case1 => cases h
  | case2 => cases h
  | case3 opened c l hc hopened ih =>
    obtain ⟨d, rfl, hd⟩ := ih h
    refine ⟨c :: d, rfl, ?_⟩
    rcases hd with ⟨rfl, hd⟩ | ⟨hne, hd⟩
    · exact .inl ⟨rfl, .white (by simpa using hopened) hd⟩
    · exact .inr ⟨hne, hd.prepend (a := [c]) hne fun _ hl => .char hc hl⟩
  | case4 => cases h
  | case5 opened c l hc r' hpiece ih =>
    obtain rfl : c = '<' := by simpa using hc
    obtain ⟨d, rfl, hd⟩ := ih h
    obtain ⟨a, r'', hl, ⟨hplain, hp⟩ | ⟨_, _, hp⟩⟩ := markup_of_piece? hpiece
    · cases hp
      exact ⟨a ++ d, by rw [hl, List.append_assoc], .of_plain hplain hd⟩
    · cases hp
  | case6 opened c l hc r' hpiece =>
    obtain rfl : c = '<' := by simpa using hc
    cases h
    obtain ⟨a, r'', hl, ⟨_, hp⟩ | ⟨opened', hturns, hp⟩⟩ := markup_of_piece? hpiece
    · cases hp
    · cases hp
      refine ⟨a, hl, ?_⟩
      have hpassed := Passed.of_turns hturns .nil
      rwa [List.append_nil] at hpassed
  | case7 opened c l hc name outer r' hpiece ih =>
    obtain rfl : c = '<' := by simpa using hc
    obtain ⟨d, rfl, hd⟩ := ih h
    obtain ⟨a, r'', hl, ⟨_, hp⟩ | ⟨opened', hturns, hp⟩⟩ := markup_of_piece? hpiece
    · cases hp
    · cases hp
      obtain ⟨hnil, _⟩ | ⟨_, hcloses⟩ := hd
      · cases hnil
      · exact ⟨a ++ d, by rw [hl, List.append_assoc], .of_turns hturns hcloses⟩

/-! ### The extent -/

theorem Document.extent?_append {d : List Char} (h : Document d) (rest : List Char) :
    extent? (d ++ rest) = some d.length := by
  have hlength : (d ++ rest).length - rest.length = d.length := by
    rw [List.length_append]
    omega
  rw [extent?, h.afterDocument?_append, Option.map_some, hlength]

theorem document_of_extent? {l : List Char} {n : Nat} (h : extent? l = some n) :
    n ≤ l.length ∧ Document (l.take n) := by
  obtain ⟨r, hr, rfl⟩ := Option.map_eq_some_iff.mp h
  obtain ⟨d, rfl, hd⟩ := passed_of_afterDocument? hr
  have hlength : (d ++ r).length - r.length = d.length := by
    rw [List.length_append]
    omega
  obtain ⟨-, hd⟩ | ⟨hne, -⟩ := hd
  · rw [hlength, List.take_left]
    exact ⟨by rw [List.length_append]; omega, hd⟩
  · exact absurd rfl hne

/-- **The extent of a document is found exactly.** It is `n` just if the first `n` characters of a
text are a document, and a text is a document just if its extent is its length whatever follows. -/
theorem extent?_exact (l : List Char) :
    (∀ n, extent? l = some n ↔ n ≤ l.length ∧ Document (l.take n)) ∧
      (Document l ↔ ∀ rest, extent? (l ++ rest) = some l.length) := by
  have hextent : ∀ n, extent? l = some n ↔ n ≤ l.length ∧ Document (l.take n) := by
    refine fun n => ⟨document_of_extent?, fun ⟨_, hd⟩ => ?_⟩
    have hn := hd.extent?_append (l.drop n)
    rwa [List.take_append_drop, List.length_take_of_le ‹_›] at hn
  refine ⟨hextent, fun hd => hd.extent?_append, fun h => ?_⟩
  have hself := (hextent l.length).mp (by simpa using h [])
  rw [List.take_length] at hself
  exact hself.2

end HttpScript.Xml.Embedded
