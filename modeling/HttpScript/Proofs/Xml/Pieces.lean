import HttpScript.Proofs.Xml.Prolong
import Mathlib.Data.List.TakeWhile
import Mathlib.Tactic.SplitIfs

/-! # Pieces of markup

What a piece of markup is, said without a reader: a comment ends where its terminator first stands,
a tag at the first `>` that is not in a quoted value.

* `EndsFirst`: a text that ends where a terminator first stands in it.
* `Trail`, `Tag`: the rest of a tag behind its name, and a tag behind its opening.
* `Aside`, `Data`: markup that opens and closes nothing.
* `Plain`, `Turns`: the markup that may stand where some elements are open.
* `Plain.piece?_append`, `Turns.piece?_append`, `markup_of_piece?`: it is what `piece?` finds. -/

namespace HttpScript.Xml.Embedded

/-! ### What pieces are -/

/-- **A text that ends where `needle` first stands in it.** -/
structure EndsFirst (needle l : List Char) : Prop where
  suffix : needle <:+ l
  first : ∀ k, k <+: l → needle <:+ k → k = l

/-- The characters that quote a value. -/
abbrev IsQuote (c : Char) : Prop := c = '"' ∨ c = '\''

/-- **What follows the name of a tag**, and the opening of a declaration: it ends with the first `>`
outside quoted values, and there is no `<` outside them. -/
inductive Trail : List Char → Prop
  | close : Trail ['>']
  | char {c : Char} {l : List Char} : ¬ IsQuote c → c ≠ '<' → c ≠ '>' → Trail l → Trail (c :: l)
  | value {q : Char} {v l : List Char} : IsQuote q → q ∉ v → Trail l → Trail (q :: (v ++ q :: l))

/-- **A tag behind its opening**: a name, which is as long as it can be, and what follows it. -/
structure Tag (name rest : List Char) : Prop where
  name_ne_nil : name ≠ []
  isTagNameChar : ∀ c ∈ name, isTagNameChar c = true
  maximal : ∀ c ∈ rest.head?, Xml.isTagNameChar c = false
  trail : Trail rest

/-- A name that an element can have: `<!` and `<?` open other markup. -/
def IsElementName (name : List Char) : Prop := name.head? ≠ some '!' ∧ name.head? ≠ some '?'

/-- Whether a tag is that of an element without content: a `/` stands before its `>`. -/
def IsEmptyTag (rest : List Char) : Prop := ['/', '>'] <:+ rest

/-- **A comment, an instruction or a declaration.** -/
inductive Aside : List Char → Prop
  | comment {l : List Char} : EndsFirst ['-', '-', '>'] l →
      Aside ('<' :: '!' :: '-' :: '-' :: l)
  | instruction {l : List Char} : EndsFirst ['?', '>'] l → Aside ('<' :: '?' :: l)
  | declaration {l : List Char} : Trail l → ¬ ['-', '-'] <+: l →
      ¬ ['[', 'C', 'D', 'A', 'T', 'A', '['] <+: l → Aside ('<' :: '!' :: l)

/-- **A section of character data.** -/
inductive Data : List Char → Prop
  | cdata {l : List Char} : EndsFirst [']', ']', '>'] l →
      Data ('<' :: '!' :: '[' :: 'C' :: 'D' :: 'A' :: 'T' :: 'A' :: '[' :: l)

/-- Markup other than a tag where the elements `opened` are open. -/
inductive Plain (opened : List (List Char)) : List Char → Prop
  | aside {l : List Char} : Aside l → Plain opened l
  | data {l : List Char} : opened ≠ [] → Data l → Plain opened l

/-- **A tag**, with the open elements before and behind it. -/
inductive Turns : List (List Char) → List Char → List (List Char) → Prop
  | empty {opened : List (List Char)} {name rest : List Char} : Tag name rest →
      IsElementName name → IsEmptyTag rest → Turns opened ('<' :: (name ++ rest)) opened
  | start {opened : List (List Char)} {name rest : List Char} : Tag name rest →
      IsElementName name → ¬ IsEmptyTag rest →
      Turns opened ('<' :: (name ++ rest)) (name :: opened)
  | close {outer : List (List Char)} {name rest : List Char} : Tag name rest →
      Turns (name :: outer) ('<' :: '/' :: (name ++ rest)) outer

/-! ### Terminators -/

theorem behind?_of_endsFirst {needle k : List Char} (hne : needle ≠ []) (h : EndsFirst needle k)
    (r : List Char) : behind? needle (k ++ r) = some r := by
  induction k with
  | nil => exact absurd (List.suffix_nil.mp h.suffix) hne
  | cons c k ih =>
    rw [List.cons_append, behind?]
    split
    · -- the needle stands at the beginning, so that nothing else is there
      rename_i hprefix
      rw [List.isPrefixOf_iff_prefix, ← List.cons_append] at hprefix
      have hshort : needle <+: c :: k :=
        List.prefix_of_prefix_length_le hprefix (List.prefix_append _ _) h.suffix.length_le
      rw [h.first needle hshort List.suffix_rfl, ← List.cons_append, List.drop_left]
    · rename_i hprefix
      rw [List.isPrefixOf_iff_prefix, ← List.cons_append] at hprefix
      refine ih ⟨(List.suffix_cons_iff.mp h.suffix).resolve_left fun he => hprefix ?_, ?_⟩
      · rw [he]
        exact List.prefix_append _ _
      · intro m hm hsuffix
        have := h.first (c :: m) (List.cons_prefix_cons.mpr ⟨rfl, hm⟩)
          (hsuffix.trans (List.suffix_cons _ _))
        exact (List.cons.inj this).2

theorem endsFirst_of_behind? {needle l r : List Char} (hne : needle ≠ [])
    (h : behind? needle l = some r) : ∃ k, l = k ++ r ∧ EndsFirst needle k := by
  induction l with
  | nil => cases h
  | cons c l ih =>
    unfold behind? at h
    split at h
    · rename_i hprefix
      obtain ⟨k, hk⟩ := List.isPrefixOf_iff_prefix.mp hprefix
      rw [← hk, List.drop_left] at h
      cases h
      refine ⟨needle, hk.symm, List.suffix_rfl, fun m hm hsuffix => ?_⟩
      exact hm.eq_of_length_le hsuffix.length_le
    · rename_i hprefix
      obtain ⟨k, rfl, hends⟩ := ih h
      refine ⟨c :: k, rfl, hends.suffix.trans (List.suffix_cons _ _), fun m hm hsuffix => ?_⟩
      cases m with
      | nil => exact absurd (List.suffix_nil.mp hsuffix) hne
      | cons d m =>
        obtain ⟨rfl, hshort⟩ := List.cons_prefix_cons.mp hm
        rcases List.suffix_cons_iff.mp hsuffix with rfl | hsuffix
        · -- then the needle would stand at the beginning
          refine absurd (List.isPrefixOf_iff_prefix.mpr ?_) hprefix
          exact hm.trans (List.prefix_append (d :: k) r)
        · rw [hends.first m hshort hsuffix]

/-! ### The ends of tags -/

theorem Trail.ne_nil {l : List Char} (h : Trail l) : l ≠ [] := by
  cases h <;> exact List.cons_ne_nil _ _

theorem Trail.length_pos {l : List Char} (h : Trail l) : 0 < l.length :=
  List.length_pos_iff.mpr h.ne_nil

/-- Whether a text ends with a short one does not depend on what stands before it. -/
theorem suffix_append_iff {s l : List Char} (w : List Char) (h : s.length ≤ l.length) :
    s <:+ w ++ l ↔ s <:+ l :=
  ⟨fun hs => List.suffix_of_suffix_length_le hs (List.suffix_append w l) h,
    fun hs => hs.trans (List.suffix_append w l)⟩

theorem tagEnd?_value {q : Char} {v : List Char} (hv : q ∉ v) (last : Char) (l : List Char) :
    tagEnd? (some q) last (v ++ q :: l) = tagEnd? none q l := by
  induction v generalizing last with
  | nil => rw [List.nil_append, tagEnd?, if_pos rfl]
  | cons c v ih =>
    obtain ⟨hc, hv⟩ := not_or.mp (mt List.mem_cons.mpr hv)
    rw [List.cons_append, tagEnd?, if_neg (Ne.symm hc)]
    exact ih hv c

theorem tagEnd?_of_trail {k : List Char} (h : Trail k) (last : Char) (r : List Char) :
    ∃ b, tagEnd? none last (k ++ r) = some (b, r) ∧ (b = true ↔ ['/', '>'] <:+ last :: k) := by
  induction h generalizing last with
  | close =>
    refine ⟨last = '/', by simp [tagEnd?], ?_⟩
    rw [decide_eq_true_iff]
    constructor
    · rintro rfl
      exact List.suffix_rfl
    · intro h
      exact (List.cons.inj (h.eq_of_length rfl)).1.symm
  | @char c l hquote hopen hclose hl ih =>
    obtain ⟨b, hb, hslash⟩ := ih c
    have hlength : ['/', '>'].length ≤ (c :: l).length := Nat.succ_le_succ hl.length_pos
    refine ⟨b, ?_, hslash.trans (suffix_append_iff [last] hlength).symm⟩
    rw [List.cons_append, tagEnd?, if_neg hquote, if_neg hclose, if_neg hopen]
    exact hb
  | @value q v l hquote hv hl ih =>
    obtain ⟨b, hb, hslash⟩ := ih q
    have hlength : ['/', '>'].length ≤ (q :: l).length := Nat.succ_le_succ hl.length_pos
    refine ⟨b, ?_, hslash.trans (suffix_append_iff (last :: q :: v) hlength).symm⟩
    rw [List.cons_append, tagEnd?, if_pos hquote, List.append_assoc, List.cons_append,
      tagEnd?_value hv]
    exact hb

/-- Where the end of a tag is found, behind what is left of a quoted value, there is one. -/
theorem trail_of_tagEnd? {quote : Option Char} {last : Char} {l r : List Char} {b : Bool}
    (hquote : ∀ q ∈ quote, IsQuote q) (h : tagEnd? quote last l = some (b, r)) :
    match quote with
    | none => ∃ k, l = k ++ r ∧ Trail k
    | some q => ∃ v k, l = v ++ q :: (k ++ r) ∧ q ∉ v ∧ Trail k := by
  induction l generalizing quote last with
  | nil => cases h
  | cons c l ih =>
    cases quote with
    | some q =>
      rw [tagEnd?] at h
      split_ifs at h with hc
      · obtain ⟨k, rfl, hk⟩ := ih (by simp) h
        exact ⟨[], k, by rw [hc]; rfl, List.not_mem_nil, hk⟩
      · obtain ⟨v, k, rfl, hv, hk⟩ := ih hquote h
        exact ⟨c :: v, k, rfl, by simp [Ne.symm hc, hv], hk⟩
    | none =>
      rw [tagEnd?] at h
      split_ifs at h with hc hclose hopen
      · obtain ⟨v, k, rfl, hv, hk⟩ := ih (fun q hq => Option.some.inj hq ▸ hc) h
        exact ⟨c :: (v ++ c :: k), by simp, .value hc hv hk⟩
      · cases h
        exact ⟨['>'], by rw [hclose]; rfl, .close⟩
      · obtain ⟨k, rfl, hk⟩ := ih (by simp) h
        exact ⟨c :: k, rfl, .char hc hopen hclose hk⟩

/-! ### Tags -/

namespace Tag

variable {name rest : List Char}

theorem rest_ne_nil (h : Tag name rest) : rest ≠ [] := h.trail.ne_nil

theorem takeWhile_eq (h : Tag name rest) (r : List Char) :
    (name ++ rest ++ r).takeWhile Xml.isTagNameChar = name ∧
      (name ++ rest ++ r).dropWhile Xml.isTagNameChar = rest ++ r := by
  obtain ⟨c, l, hrest⟩ := List.exists_cons_of_ne_nil h.rest_ne_nil
  have hc : Xml.isTagNameChar c = false := h.maximal c (by rw [hrest]; rfl)
  rw [List.append_assoc, List.takeWhile_append_of_pos h.isTagNameChar,
    List.dropWhile_append_of_pos h.isTagNameChar, hrest, List.cons_append,
    List.takeWhile_cons_of_neg (by simp [hc]), List.dropWhile_cons_of_neg (by simp [hc])]
  exact ⟨List.append_nil _, rfl⟩

end Tag

/-- The `<` before a tag is not the slash of an empty one. -/
theorem isEmptyTag_iff {rest : List Char} : IsEmptyTag rest ↔ ['/', '>'] <:+ '<' :: rest :=
  (List.suffix_cons_iff.trans (or_iff_right fun h => absurd (List.cons.inj h).1 (by decide))).symm

theorem tag_of_tagEnd? {l r : List Char} {b : Bool} (hname : l.takeWhile isTagNameChar ≠ [])
    (h : tagEnd? none '<' (l.dropWhile isTagNameChar) = some (b, r)) :
    ∃ rest, l = l.takeWhile isTagNameChar ++ rest ++ r ∧ Tag (l.takeWhile isTagNameChar) rest ∧
      (b = true ↔ IsEmptyTag rest) := by
  obtain ⟨rest, hrest, htrail⟩ := trail_of_tagEnd? (by simp) h
  obtain ⟨b', hb, hslash⟩ := tagEnd?_of_trail htrail '<' r
  have hl : l = l.takeWhile isTagNameChar ++ (rest ++ r) := by
    rw [← hrest, List.takeWhile_append_dropWhile]
  obtain ⟨c, k, rfl⟩ := List.exists_cons_of_ne_nil htrail.ne_nil
  refine ⟨c :: k, by rw [List.append_assoc]; exact hl, ⟨hname, fun d hd => ?_, ?_, htrail⟩, ?_⟩
  · exact List.mem_takeWhile_imp hd
  · rintro d hd
    obtain rfl : c = d := Option.some.inj hd
    have hhead := List.head?_dropWhile_not isTagNameChar l
    rw [hrest] at hhead
    simpa using hhead
  · rw [hrest, hb] at h
    obtain rfl : b' = b := (Prod.mk.inj (Option.some.inj h)).1
    exact hslash.trans isEmptyTag_iff.symm

theorem startTag?_eq_some_iff (opened : List (List Char)) (l : List Char) (p : Piece) :
    startTag? opened l = some p ↔ ∃ name rest r, l = name ++ rest ++ r ∧ Tag name rest ∧
      (IsEmptyTag rest ∧ p = .tag opened r ∨ ¬ IsEmptyTag rest ∧ p = .tag (name :: opened) r) := by
  constructor
  · intro h
    unfold startTag? at h
    dsimp only at h
    split_ifs at h with hname
    rw [List.isEmpty_iff] at hname
    split at h
    · cases h
    · rename_i r hend
      obtain ⟨rest, hl, htag, hempty⟩ := tag_of_tagEnd? hname hend
      exact ⟨_, rest, r, hl, htag, .inl ⟨hempty.mp rfl, (Option.some.inj h).symm⟩⟩
    · rename_i r hend
      obtain ⟨rest, hl, htag, hempty⟩ := tag_of_tagEnd? hname hend
      refine ⟨_, rest, r, hl, htag, .inr ⟨?_, (Option.some.inj h).symm⟩⟩
      exact fun he => Bool.noConfusion (hempty.mpr he)
  · rintro ⟨name, rest, r, rfl, htag, hp⟩
    obtain ⟨htake, hdrop⟩ := htag.takeWhile_eq r
    obtain ⟨b, hb, hslash⟩ := tagEnd?_of_trail htag.trail '<' r
    rw [← isEmptyTag_iff] at hslash
    unfold startTag?
    simp only [htake, hdrop, hb, List.isEmpty_iff, htag.name_ne_nil, if_false]
    rcases hp with ⟨he, rfl⟩ | ⟨he, rfl⟩
    · obtain rfl := hslash.mpr he
      rfl
    · obtain rfl : b = false := Bool.eq_false_iff.mpr (mt hslash.mp he)
      rfl

theorem endTag?_eq_some_iff (opened : List (List Char)) (l : List Char) (p : Piece) :
    endTag? opened l = some p ↔ ∃ name rest r outer, l = name ++ rest ++ r ∧ Tag name rest ∧
      opened = name :: outer ∧ p = .tag outer r := by
  constructor
  · intro h
    unfold endTag? at h
    dsimp only at h
    split at h
    · rename_i innermost outer b r hend
      split_ifs at h with hname
      rw [List.isEmpty_iff, not_or, not_not] at hname
      obtain ⟨rest, hl, htag, -⟩ := tag_of_tagEnd? hname.1 hend
      exact ⟨_, rest, r, outer, hl, htag, by rw [hname.2], (Option.some.inj h).symm⟩
    · cases h
  · rintro ⟨name, rest, r, outer, rfl, htag, rfl, rfl⟩
    obtain ⟨htake, hdrop⟩ := htag.takeWhile_eq r
    obtain ⟨b, hb, -⟩ := tagEnd?_of_trail htag.trail '<' r
    unfold endTag?
    simp only [htake, hdrop, hb, List.isEmpty_iff, htag.name_ne_nil, ne_eq, not_true_eq_false,
      or_self, if_false]

/-! ### Pieces -/

/-- A declaration does not open a comment or a section because of what follows it. -/
theorem not_prefix_of_trail {w l : List Char} (h : Trail l) (hw : '>' ∉ w) (hl : ¬ w <+: l)
    (r : List Char) : ¬ w <+: l ++ r := by
  rintro ⟨k, hk⟩
  obtain ⟨b, hb, -⟩ := tagEnd?_of_trail h '<' []
  rw [List.append_nil] at hb
  obtain ⟨m, rfl⟩ := prefix_of_declaration hw hb hk.symm
  exact hl (List.prefix_append w m)

theorem piece?_declaration (opened : List (List Char)) {l : List Char}
    (hcomment : ¬ ['-', '-'] <+: l) (hdata : ¬ ['[', 'C', 'D', 'A', 'T', 'A', '['] <+: l) :
    piece? opened ('!' :: l) = (tagEnd? none '<' l).map fun p => .other p.2 := by
  unfold piece?
  split
  · rename_i heq
    exact absurd ⟨_, (List.cons.inj heq).2.symm⟩ hcomment
  · rename_i heq
    exact absurd ⟨_, (List.cons.inj heq).2.symm⟩ hdata
  · rename_i heq
    cases heq
  · rename_i heq
    cases heq
    rfl
  · rename_i heq
    cases heq
  · rename_i h _
    exact (h l rfl).elim

theorem piece?_tag (opened : List (List Char)) {l : List Char}
    (h : ∀ c ∈ l.head?, c ≠ '!' ∧ c ≠ '?' ∧ c ≠ '/') : piece? opened l = startTag? opened l := by
  unfold piece?
  split <;> first | rfl | exact absurd rfl (h _ rfl).1 | exact absurd rfl (h _ rfl).2.1 |
    exact absurd rfl (h _ rfl).2.2

theorem Tag.piece?_eq {name rest : List Char} (h : Tag name rest) (hname : IsElementName name)
    (opened : List (List Char)) (r : List Char) :
    piece? opened (name ++ rest ++ r) = startTag? opened (name ++ rest ++ r) := by
  obtain ⟨c, l, rfl⟩ := List.exists_cons_of_ne_nil h.name_ne_nil
  refine piece?_tag opened fun d hd => ?_
  obtain rfl : c = d := Option.some.inj hd
  have hc := h.isTagNameChar c (List.mem_cons_self ..)
  refine ⟨fun he => hname.1 (congrArg some he), fun he => hname.2 (congrArg some he), ?_⟩
  rintro rfl
  exact absurd hc (by decide)

theorem Plain.piece?_append {opened : List (List Char)} {a : List Char} (h : Plain opened a) :
    ∃ k, a = '<' :: k ∧ ∀ r, piece? opened (k ++ r) = some (.other r) := by
  cases h with
  | aside h =>
    cases h with
    | comment h =>
      exact ⟨_, rfl, fun r => by simp [piece?, behind?_of_endsFirst (by decide) h]⟩
    | instruction h =>
      exact ⟨_, rfl, fun r => by simp [piece?, behind?_of_endsFirst (by decide) h]⟩
    | declaration h hcomment hdata =>
      refine ⟨_, rfl, fun r => ?_⟩
      obtain ⟨b, hb, -⟩ := tagEnd?_of_trail h '<' r
      rw [List.cons_append, piece?_declaration opened (not_prefix_of_trail h (by decide) hcomment r)
        (not_prefix_of_trail h (by decide) hdata r), hb]
      rfl
  | data hopened h =>
    cases h with
    | cdata h =>
      exact ⟨_, rfl, fun r => by simp [piece?, behind?_of_endsFirst (by decide) h, hopened]⟩

theorem Turns.piece?_append {opened opened' : List (List Char)} {a : List Char}
    (h : Turns opened a opened') :
    ∃ k, a = '<' :: k ∧ ∀ r, piece? opened (k ++ r) = some (.tag opened' r) := by
  cases h with
  | empty htag hname he =>
    refine ⟨_, rfl, fun r => (htag.piece?_eq hname opened r).trans ?_⟩
    exact (startTag?_eq_some_iff _ _ _).mpr ⟨_, _, r, rfl, htag, .inl ⟨he, rfl⟩⟩
  | start htag hname he =>
    refine ⟨_, rfl, fun r => (htag.piece?_eq hname opened r).trans ?_⟩
    exact (startTag?_eq_some_iff _ _ _).mpr ⟨_, _, r, rfl, htag, .inr ⟨he, rfl⟩⟩
  | close htag =>
    exact ⟨_, rfl, fun r => (endTag?_eq_some_iff _ _ _).mpr ⟨_, _, r, _, rfl, htag, rfl, rfl⟩⟩

theorem markup_of_piece? {opened : List (List Char)} {l : List Char} {p : Piece}
    (h : piece? opened l = some p) :
    ∃ a r, '<' :: l = a ++ r ∧
      (Plain opened a ∧ p = .other r ∨ ∃ opened', Turns opened a opened' ∧ p = .tag opened' r) := by
  unfold piece? at h
  split at h
  · obtain ⟨r, hr, rfl⟩ := Option.map_eq_some_iff.mp h
    obtain ⟨k, rfl, hk⟩ := endsFirst_of_behind? (by decide) hr
    exact ⟨_, r, rfl, .inl ⟨.aside (.comment hk), rfl⟩⟩
  · split_ifs at h with hopened
    obtain ⟨r, hr, rfl⟩ := Option.map_eq_some_iff.mp h
    obtain ⟨k, rfl, hk⟩ := endsFirst_of_behind? (by decide) hr
    exact ⟨_, r, rfl, .inl ⟨.data (by simpa using hopened) (.cdata hk), rfl⟩⟩
  · obtain ⟨r, hr, rfl⟩ := Option.map_eq_some_iff.mp h
    obtain ⟨k, rfl, hk⟩ := endsFirst_of_behind? (by decide) hr
    exact ⟨_, r, rfl, .inl ⟨.aside (.instruction hk), rfl⟩⟩
  · rename_i l hcomment hdata
    obtain ⟨⟨b, r⟩, hr, rfl⟩ := Option.map_eq_some_iff.mp h
    obtain ⟨k, rfl, hk⟩ := trail_of_tagEnd? (by simp) hr
    refine ⟨_, r, rfl, .inl ⟨.aside (.declaration hk ?_ ?_), rfl⟩⟩
    · rintro ⟨m, rfl⟩
      exact hcomment (m ++ r) rfl
    · rintro ⟨m, rfl⟩
      exact hdata (m ++ r) rfl
  · obtain ⟨name, rest, r, outer, rfl, htag, rfl, rfl⟩ := (endTag?_eq_some_iff _ _ _).mp h
    exact ⟨_, r, rfl, .inr ⟨_, .close htag, rfl⟩⟩
  · rename_i hquestion hmark hslash
    obtain ⟨name, rest, r, rfl, htag, hp⟩ := (startTag?_eq_some_iff _ _ _).mp h
    obtain ⟨c, k, rfl⟩ := List.exists_cons_of_ne_nil htag.name_ne_nil
    have hname : IsElementName (c :: k) :=
      ⟨fun he => hmark _ (by rw [Option.some.inj he]; rfl),
        fun he => hquestion _ (by rw [Option.some.inj he]; rfl)⟩
    rcases hp with ⟨he, rfl⟩ | ⟨he, rfl⟩
    · exact ⟨_, r, rfl, .inr ⟨_, .empty htag hname he, rfl⟩⟩
    · exact ⟨_, r, rfl, .inr ⟨_, .start htag hname he, rfl⟩⟩

end HttpScript.Xml.Embedded
