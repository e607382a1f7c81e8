import HttpScript.Proofs.Grammar.Placed
import HttpScript.Proofs.Run.Places
import Mathlib.Data.List.Forall2

/-! # What a message points to

A message shows the line of the script that it is about and a caret below the character that is
meant. The line is found by splitting the script at its line feeds, while positions were counted
character by character.

* `splitOn_getD_count`: both ways lead to the same line, which is what stands around the place.
* `pointsTo_locate`: a message about an exact position points to it.
* `messages_point`: so do all messages about reading a script and running it. -/

namespace HttpScript.Report

/-! ### Lines of a text -/

/-- What stands before a place on its line: all behind the last line feed before it. -/
def lineBefore (text : List Char) (offset : Nat) : List Char :=
  (text.take offset).rtakeWhile (· ≠ '\n')

/-- What stands from a place on its line: all up to the next line feed. -/
def lineBehind (text : List Char) (offset : Nat) : List Char :=
  (text.drop offset).takeWhile (· ≠ '\n')

/-- A line without one carriage return at its end. -/
def withoutReturn (line : List Char) : List Char :=
  if line.getLast? = some '\r' then line.dropLast else line

/-- **The line around a place** as it is shown. -/
def shownLine (text : List Char) (offset : Nat) : List Char :=
  withoutReturn (lineBefore text offset ++ lineBehind text offset)

/-- **The blanks up to a place**: one for each character before it on the line that takes room,
which is a tab for a tab. -/
def marks (text : List Char) (offset : Nat) : List Char :=
  (((shownLine text offset).take (lineBefore text offset).length).filter
    fun c => !Text.isCombining c).map fun c => if c = '\t' then '\t' else ' '

/-- **A message points to a place** of a text: the line that it shows is the one around the place,
and the last two lines of the message are this line behind its number and a caret behind the blanks
up to the place. -/
structure PointsTo (source : String) (p : Position) (message : String) : Prop where
  exact : p.IsExact source.toList
  line_eq : sourceLine source p.line = shownLine source.toList p.offset
  last_eq : ∃ first, message.toList.splitOn '\n' = first ++
    [(toString p.line).toList ++ [' ', '|', ' '] ++ shownLine source.toList p.offset,
      List.replicate (toString p.line).length ' ' ++ [' ', '|', ' '] ++
        marks source.toList p.offset ++ ['^']]

theorem length_splitOn (l : List Char) : (l.splitOn '\n').length = l.count '\n' + 1 := by
  induction l with
  | nil => rfl
  | cons c l ih =>
    rw [List.splitOn_cons_eq_if_modifyHead, List.count_cons]
    split_ifs with h
    · rw [List.length_cons, ih]
    · rw [List.length_modifyHead, ih]

/-- A text is begun by what has no line feed in it, up to the first one. -/
theorem splitOn_getD_zero (line l : List Char) (h : '\n' ∉ line) :
    ((line ++ l).splitOn '\n').getD 0 [] = line ++ l.takeWhile (· ≠ '\n') := by
  have hline : '\n' ∉ line ++ l.takeWhile (· ≠ '\n') := by
    rw [List.mem_append, not_or]
    exact ⟨h, fun hc => by simpa using List.mem_takeWhile_imp hc⟩
  have hl : line ++ l = (line ++ l.takeWhile (· ≠ '\n')) ++ l.dropWhile (· ≠ '\n') := by
    rw [List.append_assoc, List.takeWhile_append_dropWhile]
  rw [hl]
  cases hd : l.dropWhile (· ≠ '\n') with
  | nil => rw [List.append_nil, List.splitOn_eq_singleton hline]; rfl
  | cons c r =>
    have hne : l.dropWhile (· ≠ '\n') ≠ [] := hd ▸ List.cons_ne_nil c r
    have hc := List.head_dropWhile_not _ hne
    simp only [hd, List.head_cons, decide_eq_false_iff_not, not_not] at hc
    subst hc
    rw [List.splitOn_append_cons_self_of_not_mem hline]
    rfl

/-- **The line of a place**: splitting a text and counting its line feeds up to a place leads to
what stands around the place. -/
theorem splitOn_getD_count (before l : List Char) :
    ((before ++ l).splitOn '\n').getD (before.count '\n') [] =
      before.rtakeWhile (· ≠ '\n') ++ l.takeWhile (· ≠ '\n') := by
  have hline : '\n' ∉ before.rtakeWhile (· ≠ '\n') := fun hc => by
    simpa using List.mem_rtakeWhile_imp hc
  have hcount : before.count '\n' = (before.rdropWhile (· ≠ '\n')).count '\n' := by
    conv_lhs => rw [← List.rdropWhile_append_rtakeWhile (p := (· ≠ '\n')) (l := before)]
    rw [List.count_append, List.count_eq_zero.mpr hline, Nat.add_zero]
  have hsplit : before ++ l =
      before.rdropWhile (· ≠ '\n') ++ (before.rtakeWhile (· ≠ '\n') ++ l) := by
    rw [← List.append_assoc, List.rdropWhile_append_rtakeWhile]
  rw [hcount, hsplit]
  rcases List.eq_nil_or_concat (before.rdropWhile (· ≠ '\n')) with h | ⟨lines, c, h⟩
  · rw [h]
    exact splitOn_getD_zero _ _ hline
  · rw [List.concat_eq_append] at h
    have hne : before.rdropWhile (· ≠ '\n') ≠ [] :=
      h ▸ List.append_ne_nil_of_right_ne_nil _ (List.cons_ne_nil c [])
    have hc := List.rdropWhile_last_not _ _ hne
    simp only [h, List.getLast_append_singleton, decide_eq_true_eq, not_not] at hc
    subst hc
    have hfeeds : (lines ++ ['\n']).count '\n' = (lines.splitOn '\n').length := by
      rw [length_splitOn, List.count_append, List.count_singleton_self]
    rw [h, hfeeds, List.append_assoc, List.singleton_append, List.splitOn_append_cons_self,
      List.getD_eq_getElem?_getD, List.getElem?_append_right le_rfl, Nat.sub_self,
      ← List.getD_eq_getElem?_getD, splitOn_getD_zero _ _ hline]

theorem sourceLine_eq_withoutReturn (source : String) (n : Nat) :
    sourceLine source n = withoutReturn ((source.toList.splitOn '\n').getD (n - 1) []) := rfl

/-- **The line shown for an exact position** is the one around it. -/
theorem sourceLine_of_isExact {source : String} {p : Position} (h : p.IsExact source.toList) :
    sourceLine source p.line = shownLine source.toList p.offset := by
  have hline := splitOn_getD_count (source.toList.take p.offset) (source.toList.drop p.offset)
  rw [List.take_append_drop] at hline
  rw [sourceLine_eq_withoutReturn, h.line_eq, Nat.add_sub_cancel_left, hline]
  rfl

theorem indent_of_isExact {source : String} {p : Position} (h : p.IsExact source.toList) :
    indent (shownLine source.toList p.offset) p.column = marks source.toList p.offset := by
  unfold indent marks
  rw [h.column_eq, Nat.add_sub_cancel_left]
  rfl

/-! ### The last lines of a message -/

theorem feed_not_mem_withoutReturn {line : List Char} (h : '\n' ∉ line) :
    '\n' ∉ withoutReturn line := by
  unfold withoutReturn
  split_ifs
  · exact fun hc => h (List.dropLast_subset line hc)
  · exact h

theorem feed_not_mem_shownLine (text : List Char) (offset : Nat) :
    '\n' ∉ shownLine text offset := by
  refine feed_not_mem_withoutReturn fun h => ?_
  rcases List.mem_append.mp h with h | h
  · simpa using List.mem_rtakeWhile_imp h
  · simpa using List.mem_takeWhile_imp h

theorem feed_not_mem_marks (text : List Char) (offset : Nat) : '\n' ∉ marks text offset := by
  intro h
  obtain ⟨c, -, hc⟩ := List.mem_map.mp h
  split_ifs at hc <;> exact absurd hc (by decide)

theorem feed_not_mem_toString (n : Nat) : '\n' ∉ (toString n).toList := by
  intro h
  rw [Nat.toString_eq_repr, Nat.toList_repr] at h
  have := Nat.isDigit_of_mem_toDigits (by decide) (by decide) h
  exact absurd this (by decide)

/-- The last two lines of a text. -/
theorem splitOn_last_two (first line last : List Char) (hline : '\n' ∉ line)
    (hlast : '\n' ∉ last) :
    (first ++ '\n' :: (line ++ '\n' :: last)).splitOn '\n' =
      first.splitOn '\n' ++ [line, last] := by
  rw [List.splitOn_append_cons_self, List.splitOn_append_cons_self_of_not_mem hline,
    List.splitOn_eq_singleton hlast]

theorem paint_plain (style : Style) (s : String) : paint style false s = s := rfl

theorem toList_pushn (n : Nat) : ("".pushn ' ' n).toList = List.replicate n ' ' := by
  rw [String.pushn_eq_repeat_push]
  induction n with
  | zero => rfl
  | succ n ih => rw [Nat.repeat, String.toList_push, ih, List.replicate_succ']

/-- What stands before the line that is shown: the place, and what is wrong there. -/
def headline (filename : String) (p : Position) (message : String) : String :=
  filename ++ ":" ++ toString p.line ++ ":" ++ toString p.column ++ ": " ++ "error:" ++ " " ++
    message

/-- The line around an exact position, as a message shows it. -/
def numberedLine (source : String) (p : Position) : List Char :=
  (toString p.line).toList ++ [' ', '|', ' '] ++ shownLine source.toList p.offset

/-- The line with the caret. -/
def caretLine (source : String) (p : Position) : List Char :=
  List.replicate (toString p.line).length ' ' ++ [' ', '|', ' '] ++ marks source.toList p.offset ++
    ['^']

theorem toList_locate (filename : String) {source : String} {p : Position} (message : String)
    (h : p.IsExact source.toList) : (locate filename source p message false).toList =
      (headline filename p message).toList ++
        '\n' :: (numberedLine source p ++ '\n' :: caretLine source p) := by
  have hfeed : "\n".toList = ['\n'] := by simp
  have hbar : " |".toList = [' ', '|'] := by simp
  have hblank : " ".toList = [' '] := by simp
  have hcaret : "^".toList = ['^'] := by simp
  simp only [locate, headline, numberedLine, caretLine, paint_plain, sourceLine_of_isExact h,
    indent_of_isExact h, String.toList_append, String.toList_ofList, toList_pushn, hfeed, hbar,
    hblank, hcaret, List.append_assoc, List.cons_append, List.nil_append]

/-- **The lines of a message** about an exact position. -/
theorem splitOn_locate (filename : String) {source : String} {p : Position} (message : String)
    (h : p.IsExact source.toList) : (locate filename source p message false).toList.splitOn '\n' =
      (headline filename p message).toList.splitOn '\n' ++
        [numberedLine source p, caretLine source p] := by
  have hnumber := feed_not_mem_toString p.line
  have hshown := feed_not_mem_shownLine source.toList p.offset
  have hmarks := feed_not_mem_marks source.toList p.offset
  rw [toList_locate filename message h]
  refine splitOn_last_two _ _ _ ?_ ?_
  · simp only [numberedLine, List.mem_append, hnumber, hshown, or_false, false_or]
    decide
  · simp only [caretLine, List.mem_append, hmarks, or_false, List.mem_replicate]
    simp

/-- **A message about an exact position points to it.** -/
theorem pointsTo_locate (filename : String) {source : String} {p : Position} (message : String)
    (h : p.IsExact source.toList) :
    PointsTo source p (locate filename source p message false) where
  exact := h
  line_eq := sourceLine_of_isExact h
  last_eq := ⟨_, splitOn_locate filename message h⟩

/-- **Every message points to where the fault is**: the one about a script that cannot be read, and
those about all that goes wrong when a script is run, whatever its client answers, its files hold
and its variables are. -/
theorem messages_point (filename text : String) :
    match Script.read? text with
    | .error e => PointsTo text e.position (parseError filename text e false)
    | .ok script => ∀ (σ : Type) (c : Run.Client σ) (m : Run.Material) (toEntry : Option Nat)
        (s : Variables) (w : σ),
        List.Forall₂ (fun p message => PointsTo text p.1 message)
          ((script.run c m toEntry s w).1.entries.flatMap problems)
          (failures filename text (script.run c m toEntry s w).1 false) := by
  have hexact := Script.isExact_read? text
  split <;> rename_i h <;> rw [h] at hexact
  · exact pointsTo_locate filename _ hexact
  · intro σ c m toEntry s w
    unfold failures
    rw [List.forall₂_map_right_iff, List.forall₂_same]
    intro p hp
    exact pointsTo_locate filename p.2 (hexact p.1 (Run.run_problems _ c m toEntry s w p hp))

end HttpScript.Report
