import HttpScript.Proofs.Grammar.Print
import HttpScript.Proofs.Grammar.Reads

/-! # Lexemes read back

What `Script.print` writes for the smallest parts of a script is read by the rules of their own:
fixed texts, blanks, line ends and comments. A lexeme ends in front of a character that it cannot
hold; `HeadNot` says so of what follows.

* `isIdle_eq_false`: a class is apart from what can stand before a construct.
* `Reads.lineEnd`: the end of a line, perhaps with a comment.
* `Reads.leadingLines`: comments on lines of their own. -/

namespace HttpScript.Grammar

open Script Text

variable {text : Array Char} {l : List Char}

/-! ### Fixed texts -/

theorem literalTail_reads (s : String) (w : List Char) :
    Reads text (literalTail s w) (w ++ l) l fun _ => True := by
  induction w with
  | nil => exact .pure trivial
  | cons x w ih =>
    unfold literalTail
    refine Reads.peek.bind fun o ho => ?_
    subst ho
    exact .ite_pos rfl (Reads.read.bind fun _ _ => ih)

theorem Reads.literal (s : String) : Reads text (literal s) (s.toList ++ l) l fun _ => True :=
  literalTail_reads s s.toList

theorem literalTail_rejects (s : String) {w : List Char} (h : ¬ w <+: l) :
    Rejects text (literalTail s w) l := by
  induction w generalizing l with
  | nil => exact (h List.nil_prefix).elim
  | cons x w ih =>
    unfold literalTail
    refine Reads.peek.rejects fun o ho => ?_
    subst ho
    cases l with
    | nil => exact .failHere
    | cons c l =>
      simp only [List.head?_cons]
      by_cases hc : c = x
      · subst hc
        have hw : ¬ w <+: l := fun hw => h ((List.prefix_cons_inj c).mpr hw)
        exact .ite_pos rfl (Reads.read.rejects fun _ _ => ih hw)
      · exact .ite_neg hc .failHere

theorem Rejects.literal {s : String} (h : ¬ s.toList <+: l) : Rejects text (literal s) l :=
  literalTail_rejects s h

theorem Reads.blanks {w : List Char} (hw : ∀ c ∈ w, isBlank c = true) (h : HeadNot isBlank l) :
    Reads text blanks (w ++ l) l fun _ => True :=
  (Reads.readWhile_append hw h).bind fun _ _ => .pure trivial

theorem Reads.no_blanks (h : HeadNot isBlank l) : Reads text Grammar.blanks l l fun _ => True :=
  Reads.blanks (w := []) (by simp) h

theorem Reads.someBlanks (h : HeadNot isBlank l) :
    Reads text someBlanks (' ' :: l) l fun _ => True := by
  refine Reads.position.bind fun p _ => ?_
  refine (Reads.readWhile_append (w := [' ']) (List.all_eq_true.mp rfl) h).bind fun w hw => ?_
  subst hw
  exact .ite_neg (by simp) (.pure trivial)

theorem Rejects.someBlanks (h : HeadNot isBlank l) : Rejects text someBlanks l := by
  refine Reads.position.rejects fun p _ => ?_
  refine (Reads.readWhile_append (w := []) (by simp) h).rejects fun w hw => ?_
  subst hw
  exact .ite_pos rfl .failAt

/-! ### Classes of characters -/

/-- A character that can stand before a construct: a blank, a line break, or the start of a
comment. -/
def isIdle (c : Char) : Bool := isBlank c || isLineBreak c || c == '#'

section

variable {p : Char → Bool} {c : Char}

theorem not_mem_of_any_eq_false {w : List Char} (h : w.any p = false) (hc : p c = true) :
    c ∉ w :=
  fun hw => List.any_eq_false.mp h c hw hc

theorem isBlank_eq_false (h : [' ', '\t'].any p = false) (hc : p c = true) :
    isBlank c = false := by
  simpa [isBlank] using not_mem_of_any_eq_false h hc

theorem isLineBreak_eq_false (h : ['\n', '\r'].any p = false) (hc : p c = true) :
    isLineBreak c = false := by
  simpa [isLineBreak] using not_mem_of_any_eq_false h hc

theorem isIdle_eq_false (h : [' ', '\t', '\n', '\r', '#'].any p = false) (hc : p c = true) :
    isIdle c = false := by
  simpa [isIdle, isBlank, isLineBreak, and_assoc] using not_mem_of_any_eq_false h hc

end

/-! ### Line ends and comments -/

theorem Reads.lineBreak (e : LineEnding) : Reads text lineBreak (e.text ++ l) l fun _ => True := by
  refine Reads.position.bind fun p _ => ?_
  cases e with
  | lineFeed =>
    refine Reads.read.bind fun c hc => ?_
    subst hc
    exact .ite_pos rfl (.pure trivial)
  | carriageReturn =>
    refine Reads.read.bind fun c hc => ?_
    subst hc
    refine .ite_neg (by decide) (.ite_pos rfl ?_)
    refine (Reads.mapError (g := fun _ => .fault .lineFeed p) Reads.read).bind fun d hd => ?_
    subst hd
    exact .ite_pos rfl (.pure trivial)

theorem headNot_ending {p : Char → Bool} (hfeed : p '\n' = false) (hreturn : p '\r' = false)
    (e : LineEnding) : HeadNot p (e.text ++ l) := by
  cases e with
  | lineFeed => exact headNot_cons.mpr hfeed
  | carriageReturn => exact headNot_cons.mpr hreturn

theorem Reads.comment {c : Comment} (hc : c.Printable) (h : HeadNot (!isLineBreak ·) l) :
    Reads text comment (c.value.toList ++ l) l fun d => d.unplaced = c.unplaced := by
  obtain ⟨k, hk⟩ := List.head?_eq_some_iff.mp hc.head
  have hline : ∀ x ∈ k, (!isLineBreak x) = true := fun x hx => by
    simp [hc.oneLine x (hk ▸ List.mem_cons_of_mem _ hx)]
  refine Reads.position.bind fun p _ => ?_
  rw [hk]
  refine (Reads.literal "#").bind fun _ _ => (Reads.readWhile_append hline h).bind fun w hw => ?_
  subst hw
  refine .pure ?_
  have hvalue : "#" ++ String.ofList w = c.value := by
    rw [← String.toList_inj, String.toList_append, hk]
    simp
  simp [Comment.unplaced, hvalue]

/-- **What ends a line** in front of the characters `l`: a line break, or the end of the text. -/
def Breaks (e l : List Char) : Prop := (∃ ending : LineEnding, e = ending.text) ∨ (e = [] ∧ l = [])

theorem breaks_ending (e : LineEnding) (l : List Char) : Breaks e.text l := .inl ⟨e, rfl⟩

theorem Breaks.headNot {p : Char → Bool} {e : List Char} (h : Breaks e l) (hfeed : p '\n' = false)
    (hreturn : p '\r' = false) : HeadNot p (e ++ l) := by
  rcases h with ⟨ending, rfl⟩ | ⟨rfl, rfl⟩
  · exact headNot_ending hfeed hreturn ending
  · exact headNot_nil p

theorem Reads.endOfLine {e : List Char} (h : Breaks e l) {p : Position} :
    Reads text (endOfLine p) (e ++ l) l fun _ => True := by
  refine Reads.peek.bind fun c hc => ?_
  subst hc
  rcases h with ⟨ending, rfl⟩ | ⟨rfl, rfl⟩
  · cases ending <;> exact Reads.lineBreak _
  · exact .pure trivial

theorem Reads.lineEnd {b e : List Char} {o : Option Comment} (hb : ∀ x ∈ b, isBlank x = true)
    (ho : ∀ c ∈ o, c.Printable) (he : Breaks e l) :
    Reads text lineEnd (b ++ (o.elim [] (·.value.toList) ++ (e ++ l))) l fun o' =>
      o'.map (·.unplaced) = o.map (·.unplaced) := by
  refine Reads.position.bind fun p _ => ?_
  cases o with
  | none =>
    have hblank : HeadNot isBlank (e ++ l) := he.headNot rfl rfl
    have hnote : HeadNot (· == '#') (e ++ l) := he.headNot rfl rfl
    refine (Reads.blanks hb hblank).bind fun _ _ => Reads.peek.bind fun x hx => ?_
    subst hx
    dsimp only [Option.elim_none, List.nil_append] at *
    split
    · rename_i hhead
      cases hnote '#' hhead
    · exact (Reads.pure (Q := (· = none)) rfl).bind fun found hfound =>
        (Reads.endOfLine he).bind fun _ _ => .pure (by rw [hfound])
  | some c =>
    obtain ⟨k, hk⟩ := List.head?_eq_some_iff.mp (ho c rfl).head
    have hblank : HeadNot isBlank (c.value.toList ++ (e ++ l)) := by
      rw [hk]
      exact headNot_cons.mpr rfl
    have hbreak : HeadNot (!isLineBreak ·) (e ++ l) := he.headNot rfl rfl
    have hfound : Reads text (some <$> Grammar.comment) (c.value.toList ++ (e ++ l))
        (e ++ l) fun o' => o'.map (·.unplaced) = some c.unplaced :=
      (Reads.comment (ho c rfl) hbreak).map fun d hd => by simp [hd]
    refine (Reads.blanks hb hblank).bind fun _ _ => Reads.peek.bind fun x hx => ?_
    subst hx
    rw [hk] at hfound
    dsimp only [Option.elim_some]
    rw [hk]
    exact hfound.bind fun found hfound => (Reads.endOfLine he).bind fun _ _ => .pure hfound

theorem HeadNot.isBlank (h : HeadNot isIdle l) : HeadNot Text.isBlank l :=
  h.mono fun c hc => by simp [isIdle, hc]

theorem Rejects.lineEnd (h : HeadNot isIdle l) (hl : l ≠ []) : Rejects text lineEnd l := by
  obtain ⟨c, k, rfl⟩ := List.exists_cons_of_ne_nil hl
  have hc := headNot_cons.mp h
  simp only [isIdle, Bool.or_eq_false_iff, beq_eq_false_iff_ne] at hc
  refine Reads.position.rejects fun p _ => (Reads.no_blanks h.isBlank).rejects fun _ _ => ?_
  refine Reads.peek.rejects fun o ho => ?_
  subst ho
  have hfail : Rejects text (endOfLine p) (c :: k) := by
    refine Reads.peek.rejects fun o ho => ?_
    subst ho
    exact .ite_neg (by simp [hc.1.2]) .failAt
  dsimp only
  split
  · rename_i heq
    exact (hc.2 (Option.some.inj heq)).elim
  · exact (Reads.pure (Q := fun _ => True) trivial).rejects fun _ _ => .bind hfail

theorem Reads.commentLines {w : Layout} {comments : List Comment}
    (hcomments : ∀ c ∈ comments, c.Printable) (h : HeadNot isIdle l) :
    Reads text (Rule.zeroOrMore Grammar.lineEnd) (comments.flatMap w.comment ++ l) l fun a =>
      a.map (·.map (·.unplaced)) = comments.map fun c => some c.unplaced := by
  refine Reads.zeroOrMore_flatMap (fun c hc k => ?_) (fun c hc => ?_) (Rejects.lineEnd h)
  · rw [show w.comment c ++ k = c.value.toList ++ (w.ending.text ++ k) from
      List.append_assoc ..]
    exact Reads.lineEnd (b := []) (o := some c) (by simp) (by simpa using hcomments c hc)
      (breaks_ending w.ending k)
  · obtain ⟨k, hk⟩ := List.head?_eq_some_iff.mp (hcomments c hc).head
    simp [Layout.comment, Layout.line, hk]

/-- **The comments in front of a construct.** -/
theorem Reads.leadingLines {w : Layout} {comments : List Comment}
    (hcomments : ∀ c ∈ comments, c.Printable) (h : HeadNot isIdle l) :
    Reads text leadingLines (comments.flatMap w.comment ++ l) l fun a =>
      a.map (·.unplaced) = comments.map (·.unplaced) := by
  refine (Reads.commentLines hcomments h).bind fun a ha =>
    (Reads.no_blanks h.isBlank).bind fun _ _ => .pure ?_
  calc (a.filterMap id).map (·.unplaced)
      = (a.map (·.map (·.unplaced))).filterMap id := by
        rw [List.map_filterMap, List.filterMap_map]
        rfl
    _ = comments.map (·.unplaced) := by
        rw [ha, List.filterMap_map]
        exact congrFun (List.filterMap_eq_map' (f := Comment.unplaced)) comments

theorem Rejects.leadingLines {α : Type} {w : Layout} {comments : List Comment}
    {f : List Comment → Rule α} (hcomments : ∀ c ∈ comments, c.Printable) (h : HeadNot isIdle l)
    (hf : ∀ a, Rejects text (f a) l) :
    Rejects text (Grammar.leadingLines >>= f) (comments.flatMap w.comment ++ l) :=
  (Reads.leadingLines hcomments h).rejects fun a _ => hf a

end HttpScript.Grammar
