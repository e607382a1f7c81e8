import HttpScript.Xml.Extent
import Mathlib.Data.List.Infix

/-! # Finding the end of a document with more text behind it

The end of an embedded document is found from the left, and every piece of markup shows its own end.
So whatever `behind?`, `tagEnd?` and `piece?` find in a text they find in every longer one
(`piece?_append`), and the extent of a document does not depend on what follows it
(`extent?_append`). -/

namespace HttpScript.Xml

variable {tail : List Char}

/-- Where a needle is found, there is room for it. -/
theorem length_le_of_behind? {needle l r : List Char} (h : behind? needle l = some r) :
    needle.length ≤ l.length := by
  induction l with
  | nil => cases h
  | cons c l ih =>
    unfold behind? at h
    split at h
    · rename_i hprefix
      exact (List.isPrefixOf_iff_prefix.mp hprefix).length_le
    · have := ih h
      rw [List.length_cons]
      omega

theorem behind?_append {needle l r : List Char} (h : behind? needle l = some r) :
    behind? needle (l ++ tail) = some (r ++ tail) := by
  induction l with
  | nil => cases h
  | cons c l ih =>
    unfold behind? at h
    rw [List.cons_append, behind?]
    split at h
    · rename_i hprefix
      obtain ⟨k, hk⟩ := List.isPrefixOf_iff_prefix.mp hprefix
      cases h
      rw [← hk, List.drop_left, if_pos]
      · rw [← List.cons_append, ← hk, List.append_assoc, List.drop_left]
      · rw [List.isPrefixOf_iff_prefix, ← List.cons_append, ← hk, List.append_assoc]
        exact List.prefix_append _ _
    · rename_i hprefix
      -- the needle does not reach into the text behind, since there is room for it further on
      have hlength := length_le_of_behind? h
      rw [if_neg]
      · exact ih h
      · intro hlong
        rw [List.isPrefixOf_iff_prefix, ← List.cons_append] at hlong
        refine hprefix (List.isPrefixOf_iff_prefix.mpr ?_)
        refine List.prefix_of_prefix_length_le hlong (List.prefix_append _ _) ?_
        rw [List.length_cons]
        omega

theorem tagEnd?_append {quote : Option Char} {last : Char} {l r : List Char} {b : Bool}
    (h : tagEnd? quote last l = some (b, r)) :
    tagEnd? quote last (l ++ tail) = some (b, r ++ tail) := by
  induction l generalizing quote last with
  | nil => cases h
  | cons c l ih =>
    rw [List.cons_append]
    unfold tagEnd? at h ⊢
    split at h
    · exact ih h
    · split at h
      · rename_i hc
        rw [if_pos hc]
        exact ih h
      · rename_i hquote
        rw [if_neg hquote]
        split at h
        · rename_i hc
          rw [if_pos hc]
          cases h
          rfl
        · rename_i hc
          rw [if_neg hc]
          split at h
          · cases h
          · rename_i hopen
            rw [if_neg hopen]
            exact ih h

theorem mem_of_tagEnd? {quote : Option Char} {last : Char} {l : List Char} {p : Bool × List Char}
    (h : tagEnd? quote last l = some p) : '>' ∈ l := by
  induction l generalizing quote last with
  | nil => cases h
  | cons c l ih =>
    unfold tagEnd? at h
    split at h
    · exact List.mem_cons_of_mem _ (ih h)
    · split at h
      · exact List.mem_cons_of_mem _ (ih h)
      · split at h
        · rename_i hc
          rw [hc]
          exact List.mem_cons_self ..
        · split at h
          · cases h
          · exact List.mem_cons_of_mem _ (ih h)

theorem tagName_append (tail : List Char) {l : List Char} {p : Bool × List Char}
    (h : tagEnd? none '<' (l.dropWhile isTagNameChar) = some p) :
    (l ++ tail).takeWhile isTagNameChar = l.takeWhile isTagNameChar ∧
    (l ++ tail).dropWhile isTagNameChar = l.dropWhile isTagNameChar ++ tail := by
  have hne : l.dropWhile isTagNameChar ≠ [] := fun hnil => by
    rw [hnil] at h
    cases h
  constructor
  · rw [List.takeWhile_append, if_neg]
    intro hlength
    have hsum := congrArg List.length
      (List.takeWhile_append_dropWhile (p := isTagNameChar) (l := l))
    rw [List.length_append, hlength] at hsum
    exact hne (List.eq_nil_of_length_eq_zero (by omega))
  · rw [List.dropWhile_append, if_neg]
    rwa [List.isEmpty_iff]

/-- A piece of markup with more text behind it. -/
def Piece.append (tail : List Char) : Piece → Piece
  | tag opened r => tag opened (r ++ tail)
  | other r => other (r ++ tail)

theorem startTag?_append {opened : List (List Char)} {l : List Char} {p : Piece}
    (h : startTag? opened l = some p) : startTag? opened (l ++ tail) = some (p.append tail) := by
  unfold startTag? at h ⊢
  simp only at h ⊢
  split at h
  · cases h
  · rename_i hname
    cases hend : tagEnd? none '<' (l.dropWhile isTagNameChar) with
    | none => rw [hend] at h; cases h
    | some q =>
      obtain ⟨b, r⟩ := q
      obtain ⟨htake, hdrop⟩ := tagName_append tail hend
      rw [htake, hdrop, if_neg hname, tagEnd?_append hend]
      rw [hend] at h
      cases b <;> cases h <;> rfl

theorem endTag?_append {opened : List (List Char)} {l : List Char} {p : Piece}
    (h : endTag? opened l = some p) : endTag? opened (l ++ tail) = some (p.append tail) := by
  unfold endTag? at h ⊢
  simp only at h ⊢
  cases hend : tagEnd? none '<' (l.dropWhile isTagNameChar) with
  | none => rw [hend] at h; simp at h
  | some q =>
    obtain ⟨b, r⟩ := q
    obtain ⟨htake, hdrop⟩ := tagName_append tail hend
    rw [htake, hdrop, tagEnd?_append hend]
    rw [hend] at h
    cases opened with
    | nil => cases h
    | cons innermost outer =>
      simp only at h ⊢
      split at h
      · cases h
      · rename_i hname
        cases h
        rw [if_neg hname]
        rfl

/-- A declaration does not look like a comment or a data section because of what follows it. -/
theorem prefix_of_declaration {w l k : List Char} {p : Bool × List Char} (hw : '>' ∉ w)
    (hl : tagEnd? none '<' l = some p) (h : l ++ tail = w ++ k) : ∃ m, l = w ++ m := by
  rcases List.append_eq_append_iff.mp h with ⟨m, hm, -⟩ | ⟨m, hm, -⟩
  · exact (hw (hm ▸ List.mem_append_left _ (mem_of_tagEnd? hl))).elim
  · exact ⟨m, hm⟩

/-- **A piece of markup is found in the same way** with more text behind it. -/
theorem piece?_append (tail : List Char) {opened : List (List Char)} {l : List Char} {p : Piece}
    (h : piece? opened l = some p) : piece? opened (l ++ tail) = some (p.append tail) := by
  unfold piece? at h
  split at h
  · obtain ⟨r, hr, rfl⟩ := Option.map_eq_some_iff.mp h
    simp [piece?, behind?_append hr, Piece.append]
  · split at h
    · cases h
    · rename_i hopened
      obtain ⟨r, hr, rfl⟩ := Option.map_eq_some_iff.mp h
      simp [piece?, behind?_append hr, Piece.append, hopened]
  · obtain ⟨r, hr, rfl⟩ := Option.map_eq_some_iff.mp h
    simp [piece?, behind?_append hr, Piece.append]
  · rename_i l hcomment hdata
    obtain ⟨⟨b, r⟩, hr, rfl⟩ := Option.map_eq_some_iff.mp h
    rw [List.cons_append]
    unfold piece?
    split
    · rename_i k hk
      obtain ⟨m, rfl⟩ := prefix_of_declaration (w := ['-', '-']) (by decide) hr (List.cons.inj hk).2
      exact (hcomment m rfl).elim
    · rename_i k hk
      obtain ⟨m, rfl⟩ := prefix_of_declaration (w := "[CDATA[".toList) (by decide) hr
        (List.cons.inj hk).2
      exact (hdata m rfl).elim
    · rename_i heq
      cases heq
    · rename_i heq
      cases heq
      rw [tagEnd?_append hr]
      rfl
    · rename_i heq
      cases heq
    · rename_i hne _
      exact (hne _ rfl).elim
  · rw [List.cons_append]
    exact endTag?_append h
  · rename_i hquestion hmark hslash
    cases l with
    | nil => cases h
    | cons c l =>
      have hother : piece? opened (c :: (l ++ tail)) = startTag? opened (c :: (l ++ tail)) := by
        have hc : c ≠ '!' ∧ c ≠ '?' ∧ c ≠ '/' :=
          ⟨fun hc => hmark l (hc ▸ rfl), fun hc => hquestion l (hc ▸ rfl),
            fun hc => hslash l (hc ▸ rfl)⟩
        unfold piece?
        split <;> simp_all
      rw [List.cons_append, hother, ← List.cons_append]
      exact startTag?_append h

theorem afterDocument?_append {opened : List (List Char)} {l r : List Char}
    (h : afterDocument? opened l = some r) :
    afterDocument? opened (l ++ tail) = some (r ++ tail) := by
  fun_induction afterDocument? opened l with
  | case1 => cases h
  | case2 => cases h
  | case3 opened c l hc hopened ih =>
    rw [List.cons_append, afterDocument?, if_pos hc, if_neg hopened]
    exact ih h
  | case4 => cases h
  | case5 opened c l hc r' hpiece ih =>
    have hlong := piece?_append tail hpiece
    rw [List.cons_append, afterDocument?, if_neg hc]
    split <;> rename_i heq <;> rw [hlong] at heq <;> cases heq
    exact ih h
  | case6 opened c l hc r' hpiece =>
    have hlong := piece?_append tail hpiece
    cases h
    rw [List.cons_append, afterDocument?, if_neg hc]
    split <;> rename_i heq <;> rw [hlong] at heq <;> cases heq
    rfl
  | case7 opened c l hc name outer r' hpiece ih =>
    have hlong := piece?_append tail hpiece
    rw [List.cons_append, afterDocument?, if_neg hc]
    split <;> rename_i heq <;> rw [hlong] at heq <;> cases heq
    exact ih h

/-- **The extent of a document does not depend on what follows it.** -/
theorem extent?_append {l : List Char} {n : Nat} (h : extent? l = some n) :
    extent? (l ++ tail) = some n := by
  obtain ⟨r, hr, rfl⟩ := Option.map_eq_some_iff.mp h
  unfold extent?
  rw [afterDocument?_append hr, Option.map_some, List.length_append, List.length_append,
    Nat.add_sub_add_right]

end HttpScript.Xml
