import HttpScript.Grammar.Request
import HttpScript.Proofs.Grammar.Queries
import Mathlib.Data.List.TakeWhile

/-! # Lines read back

The lines of an entry: fields, parts of a multipart form, captures and asserts, each behind the
comments that may stand in front of it. Such a line is read whatever follows it, since its end is
part of it.

Where a list of lines ends, the rule for one more line must fail. All of these rules but that of an
assert begin with a key and a colon: `NoKey` is what a text must be for them to reject it. An assert
begins with the word of a query. -/

namespace HttpScript.Grammar

open Script Text

variable {text : Array Char} {l : List Char}

/-! ### Keys -/

/-- **A text that is no line `key: ...`**: no colon stands behind what could be a key. -/
structure NoKey (l : List Char) : Prop where
  backslash : HeadNot (· == '\\') (l.dropWhile isKeyChar)
  colon : HeadNot (· == ':') ((l.dropWhile isKeyChar).dropWhile isBlank)

theorem noKey_nil : NoKey [] := ⟨headNot_nil _, headNot_nil _⟩

/-- A character at which neither a key goes on nor a colon can stand. -/
def stopsKey (c : Char) : Bool := !isKeyChar c && c != '\\' && c != ':' && !isBlank c

theorem noKey_append {w : List Char} {c : Char} (hw : ∀ x ∈ w, isKeyChar x = true)
    (hc : stopsKey c = true) : NoKey (w ++ c :: l) := by
  simp only [stopsKey, Bool.and_eq_true, Bool.not_eq_true', bne_iff_ne] at hc
  obtain ⟨⟨⟨hkey, hbackslash⟩, hcolon⟩, hblank⟩ := hc
  have hdrop : (w ++ c :: l).dropWhile isKeyChar = c :: l :=
    dropWhile_append_of_headNot hw (headNot_cons.mpr hkey)
  constructor
  · rw [hdrop]
    exact headNot_cons.mpr (by simpa using hbackslash)
  · rw [hdrop, List.dropWhile_cons, if_neg (by simp [hblank])]
    exact headNot_cons.mpr (by simpa using hcolon)

/-- Behind a word and a blank a colon would still count. -/
theorem noKey_word {w : List Char} (hw : ∀ x ∈ w, isKeyChar x = true) (hblank : HeadNot isBlank l)
    (hcolon : HeadNot (· == ':') l) : NoKey (w ++ ' ' :: l) := by
  have hdrop : (w ++ ' ' :: l).dropWhile isKeyChar = ' ' :: l :=
    dropWhile_append_of_headNot hw (headNot_cons.mpr rfl)
  constructor
  · rw [hdrop]
    exact headNot_cons.mpr rfl
  · have hblanks : (' ' :: l).dropWhile isBlank = l :=
      dropWhile_append_of_headNot (w := [' ']) (List.all_eq_true.mp rfl) hblank
    rw [hdrop, hblanks]
    exact hcolon

theorem Rejects.keyString (h : HeadNot (!endsKey ·) l) : Rejects text Grammar.keyString l := by
  intro s hs
  have hchar : keyChar s = .ok none s := by
    have hpeek : s.cursor.peek? = l.head? := by rw [Cursor.peek?_eq_head?, hs.rest_eq]
    unfold keyChar
    show EStateM.bind Rule.peek _ s = _
    unfold EStateM.bind Rule.peek
    simp only [hpeek]
    cases l with
    | nil => rfl
    | cons c k =>
      have hc := headNot_cons.mp h
      simp only [endsKey, Bool.not_eq_false', Bool.and_eq_true, Bool.not_eq_true',
        bne_iff_ne] at hc
      simp only [List.head?_cons, hc.1, hc.2, if_false, Bool.false_eq_true]
      rfl
  have hchars : Rule.collect keyChar s = .ok [] s := by
    unfold Rule.collect
    rw [hchar]
  refine ⟨.fault .emptyKey s.cursor.position, s, ?_⟩
  show EStateM.bind (Rule.collect keyChar) _ s = _
  unfold EStateM.bind
  rw [hchars]
  show (if s.cursor.position.offset = s.cursor.position.offset then _ else _ : Rule _) s = _
  rw [if_pos rfl]
  rfl

/-- **What is no line `key: ...`** is rejected at the colon, if not before. -/
theorem Rejects.key {α : Type} {f : String → Rule α} (h : NoKey l) :
    Rejects text (Grammar.keyString >>= fun key => colon >>= fun _ => f key) l := by
  have hsplit := List.takeWhile_append_dropWhile (p := isKeyChar) (l := l)
  have hends : HeadNot (!endsKey ·) (l.dropWhile isKeyChar) := fun c hc => by
    have hkey := headNot_dropWhile isKeyChar l c hc
    have hbackslash := h.backslash c hc
    simp only [beq_eq_false_iff_ne] at hbackslash
    simp [endsKey, hkey, hbackslash]
  by_cases hw : l.takeWhile isKeyChar = []
  · rw [hw, List.nil_append] at hsplit
    rw [hsplit] at hends
    exact .bind (.keyString hends)
  · have hkey : String.ofList (l.takeWhile isKeyChar) ≠ "" := by simpa using hw
    have htext : keyText (.ofList (l.takeWhile isKeyChar)) = l.takeWhile isKeyChar := by
      unfold keyText
      rw [String.toList_ofList]
      have hword : ∀ c ∈ l.takeWhile isKeyChar, keyWord c = [c] := fun c hc =>
        if_pos (List.mem_takeWhile_imp hc)
      rw [List.flatMap_congr hword]
      exact List.flatMap_singleton' _
    have hread : Reads text Grammar.keyString _ _ _ := Reads.keyString hkey hends
    rw [htext, hsplit] at hread
    refine hread.rejects fun key _ => .bind ?_
    refine ((Reads.readWhile isBlank).bind fun _ _ => .pure trivial).rejects
      (Q := fun _ => True) fun _ _ => .bind (.literal ?_)
    rintro ⟨k, hk⟩
    have := h.colon ':' (by rw [← hk]; rfl)
    cases this

theorem headNot_keyText {key : String} (hkey : key ≠ "") : HeadNot isIdle (keyText key ++ l) := by
  obtain ⟨c, k, hk⟩ := List.exists_cons_of_ne_nil (mt String.toList_eq_nil_iff.mp hkey)
  unfold keyText
  rw [hk, List.flatMap_cons]
  by_cases hc : isKeyChar c = true
  · rw [show keyWord c = [c] from if_pos hc]
    exact headNot_cons.mpr (isIdle_eq_false rfl hc)
  · rw [show keyWord c = escaped keyEscapes c from if_neg hc]
    exact headNot_cons.mpr (show isIdle '\\' = false from rfl)

/-! ### Fields -/

theorem Reads.noLines (h : HeadNot isIdle l) :
    Reads text Grammar.leadingLines l l fun _ => True := by
  let w : Layout := ⟨.lineFeed, fun _ => ⟨false, [], none⟩⟩
  have hread : Reads text Grammar.leadingLines (([] : List Comment).flatMap w.comment ++ l) l _ :=
    Reads.leadingLines (by simp) h
  exact hread.mono fun _ _ => trivial

theorem Reads.lineStop (e : LineEnding) :
    Reads text Grammar.lineEnd (e.text ++ l) l fun _ => True :=
  (Reads.lineEnd (b := []) (o := none) (by simp) (by simp) (breaks_ending e l)).mono
    fun _ _ => trivial

theorem Reads.colon (h : HeadNot isBlank l) :
    Reads text colon (':' :: ' ' :: l) l fun _ => True := by
  refine (Reads.no_blanks (headNot_cons.mpr rfl)).bind fun _ _ => ?_
  refine (Reads.literal (l := ' ' :: l) ":").bind fun _ _ => ?_
  exact Reads.blanks (w := [' ']) (List.all_eq_true.mp rfl) h

theorem Reads.key {α : Type} {f : String → Rule α} {key : String} {l' : List Char} {Q : α → Prop}
    (hkey : key ≠ "") (h : HeadNot isBlank l) (hf : Reads text (f key) l l' Q) :
    Reads text (Grammar.keyString >>= fun key => Grammar.colon >>= fun _ => f key)
      (keyText key ++ ':' :: ' ' :: l) l' Q := by
  refine (Reads.keyString hkey (headNot_cons.mpr rfl)).bind fun k hk => ?_
  subst hk
  exact (Reads.colon h).bind fun _ _ => hf

theorem Reads.fieldLine {w : Layout} {f : Field} (hf : f.Printable) :
    Reads text fieldLine (w.field f ++ l) l fun a => a.unplaced = f.unplaced := by
  have hline : w.field f ++ l =
      keyText f.key ++ ':' :: ' ' :: (valueText f.value.value ++ (w.ending.text ++ l)) := by
    simp [Layout.field, Layout.line]
  have hfield : Reads text Grammar.field (w.field f ++ l) (w.ending.text ++ l) fun a =>
      a.unplaced = f.unplaced := by
    rw [hline]
    refine Reads.position.bind fun p _ => Reads.key hf (headNot_valueText _ _) ?_
    refine (Reads.valueString w.ending f.value.value).bind fun t ht => .pure ?_
    simp [Field.unplaced, Template.unplaced, ht]
  have hidle : HeadNot isIdle (w.field f ++ l) := by
    rw [hline]
    exact headNot_keyText hf
  refine (Reads.noLines hidle).bind fun _ _ => hfield.bind fun a ha => ?_
  exact (Reads.lineStop w.ending).bind fun _ _ => .pure ha

/-! ### Parts of a multipart form -/

theorem hasDoubleDot_eq_false_iff {w : List Char} :
    hasDoubleDot w = false ↔ ¬ ['.', '.'] <:+: w := by
  fun_induction hasDoubleDot w with
  | case1 w =>
    have hdots : ['.', '.'] <:+: '.' :: '.' :: w := ⟨[], w, rfl⟩
    simp [hdots]
  | case2 c w hne ih =>
    have hprefix : ¬ ['.', '.'] <+: c :: w := by
      rintro ⟨rest, hrest⟩
      obtain ⟨rfl, rfl⟩ := List.cons.inj hrest
      exact hne rest rfl rfl
    rw [ih, List.infix_cons_iff, not_or]
    exact (and_iff_right hprefix).symm
  | case3 => simp

theorem isFilename_ofList {name : List Char} (hpath : ∀ c ∈ name, isPathChar c = true)
    (hempty : ¬ name.isEmpty = true) (hdots : ¬ hasDoubleDot name = true) :
    IsFilename (.ofList name) := by
  have hnonempty : name ≠ [] := by simpa using hempty
  have hsingle : hasDoubleDot name = false := by simpa using hdots
  exact {
    ne_empty := by simpa using hnonempty
    path := by simpa using hpath
    inside := by simpa using hasDoubleDot_eq_false_iff.mp hsingle }

theorem Reads.filename {name : String} (hname : IsFilename name) (h : HeadNot isPathChar l) :
    Reads text filename (name.toList ++ l) l (· = name) := by
  refine Reads.position.bind fun p _ => ?_
  refine (Reads.readWhile_append hname.path h).bind fun a ha => ?_
  subst ha
  refine .ite_neg (by simpa using hname.ne_empty) ?_
  refine .ite_neg (by simp [hasDoubleDot_eq_false_iff.mpr hname.inside]) ?_
  exact .pure String.ofList_toList

theorem headNot_filename {name : String} (hname : IsFilename name) :
    HeadNot isBlank (name.toList ++ l) := by
  obtain ⟨c, k, hk⟩ := List.exists_cons_of_ne_nil (mt String.toList_eq_nil_iff.mp hname.ne_empty)
  rw [hk]
  exact headNot_cons.mpr (isBlank_eq_false rfl (hname.path c (by simp [hk])))

theorem Reads.contentType (e : LineEnding) {o : Option String} (ho : o ≠ some "") :
    Reads text contentType (valueText (o.getD "") ++ (e.text ++ l)) (e.text ++ l) (· = o) := by
  refine (Reads.valueString e (o.getD "")).optional.bind fun a ha => .pure ?_
  obtain ⟨t, rfl, ht⟩ := ha
  cases o with
  | none => simp [ht]
  | some s =>
    have hs : s ≠ "" := fun hs => ho (by rw [hs])
    simp [ht, hs]

theorem Reads.filePart {w : Layout} {p : FilePart} (hp : (Part.file p).Printable) :
    Reads text filePart (w.part (.file p) ++ l) l fun a =>
      a = { p with position := a.position } := by
  obtain ⟨hkey, hname, htype⟩ := hp
  -- the blank in front of a content type
  obtain ⟨b, hb, htext⟩ : ∃ b : List Char, (∀ c ∈ b, isBlank c = true) ∧
      p.contentType.elim [] (' ' :: valueText ·) = b ++ valueText (p.contentType.getD "") := by
    cases p.contentType with
    | none => exact ⟨[], by simp, rfl⟩
    | some s => exact ⟨[' '], List.all_eq_true.mp rfl, rfl⟩
  have hline : w.part (.file p) ++ l = keyText p.key ++ ':' :: ' ' :: ("file,".toList ++
      (p.filename.toList ++ (";".toList ++ (b ++ (valueText (p.contentType.getD "") ++
        (w.ending.text ++ l)))))) := by
    simp [Layout.part, Layout.line, htext]
  rw [hline]
  refine (Reads.noLines (headNot_keyText hkey)).bind fun _ _ => Reads.position.bind fun q _ => ?_
  refine Reads.key hkey (headNot_cons.mpr rfl) ?_
  refine (Reads.literal _).bind fun _ _ => ?_
  refine (Reads.no_blanks (headNot_filename hname)).bind fun _ _ => ?_
  refine (Reads.filename hname (headNot_cons.mpr rfl)).bind fun a ha => ?_
  refine (Reads.no_blanks (headNot_cons.mpr rfl)).bind fun _ _ => ?_
  refine (Reads.literal ";").bind fun _ _ => ?_
  refine (Reads.blanks hb (headNot_valueText _ _)).bind fun _ _ => ?_
  refine (Reads.contentType w.ending htype).bind fun c hc => ?_
  exact (Reads.lineStop w.ending).bind fun _ _ => .pure (by rw [ha, hc])

/-- A word of plain characters that begins a value as it is printed begins the value. -/
theorem prefix_of_prefix_valueWord {x c : Char} {edge : Bool} {m k : List Char} (hx : x ≠ '\\')
    (h : x :: m <+: valueWord edge c ++ k) : x = c ∧ m <+: k := by
  unfold valueWord at h
  split at h
  · exact (hx (List.cons_prefix_cons.mp h).1).elim
  · exact List.cons_prefix_cons.mp h

theorem prefix_of_prefix_valueTail {m k : List Char} (e : LineEnding)
    (hm : ∀ x ∈ m, x ≠ '\\' ∧ isLineBreak x = false) (h : m <+: valueTail k ++ (e.text ++ l)) :
    m <+: k := by
  induction k generalizing m with
  | nil =>
    cases m with
    | nil => exact List.nil_prefix
    | cons x m =>
      have hx := (hm x (by simp)).2
      cases e <;> rw [(List.cons_prefix_cons.mp h).1] at hx <;> cases hx
  | cons c k ih =>
    cases m with
    | nil => exact List.nil_prefix
    | cons x m =>
      rw [valueTail, List.append_assoc] at h
      obtain ⟨rfl, hmk⟩ := prefix_of_prefix_valueWord (hm x (by simp)).1 h
      exact List.cons_prefix_cons.mpr ⟨rfl, ih (fun y hy => hm y (by simp [hy])) hmk⟩

theorem prefix_of_prefix_valueText {m : List Char} {s : String} (e : LineEnding)
    (hm : ∀ x ∈ m, x ≠ '\\' ∧ isLineBreak x = false) (h : m <+: valueText s ++ (e.text ++ l)) :
    m <+: s.toList := by
  unfold valueText at h
  cases hs : s.toList with
  | nil =>
    rw [hs] at h
    exact prefix_of_prefix_valueTail e hm (k := []) h
  | cons c k =>
    rw [hs] at h
    cases m with
    | nil => exact List.nil_prefix
    | cons x m =>
      rw [List.append_assoc] at h
      obtain ⟨rfl, hmk⟩ := prefix_of_prefix_valueWord (hm x (by simp)).1 h
      have := prefix_of_prefix_valueTail e (fun y hy => hm y (by simp [hy])) hmk
      exact List.cons_prefix_cons.mpr ⟨rfl, this⟩

theorem Rejects.filePart {w : Layout} {f : Field} (hf : (Part.text f).Printable) :
    Rejects text filePart (w.field f ++ l) := by
  have hline : w.field f ++ l =
      keyText f.key ++ ':' :: ' ' :: (valueText f.value.value ++ (w.ending.text ++ l)) := by
    simp [Layout.field, Layout.line]
  rw [hline]
  refine (Reads.noLines (headNot_keyText hf.1)).rejects fun _ _ => ?_
  refine Reads.position.rejects fun p _ => ?_
  refine (Reads.keyString hf.1 (headNot_cons.mpr rfl)).rejects fun k _ => ?_
  refine (Reads.colon (headNot_valueText _ _)).rejects fun _ _ => .bind (.literal fun h => ?_)
  exact hf.2 (prefix_of_prefix_valueText w.ending (by simp [isLineBreak]) h)

theorem Reads.part {w : Layout} {p : Part} (hp : p.Printable) :
    Reads text part (w.part p ++ l) l fun a => a.unplaced = p.unplaced := by
  cases p with
  | file p =>
    refine (Reads.filePart hp).optional.bind fun o ho => ?_
    obtain ⟨a, rfl, ha⟩ := ho
    refine .pure ?_
    rw [ha]
    rfl
  | text f =>
    refine (Reads.optional_none (Rejects.filePart hp)).bind fun o ho => ?_
    subst ho
    exact (Reads.fieldLine hp.1).map fun a ha => by simp [Part.unplaced, ha]

/-! ### Captures and asserts -/

theorem headNot_query {p : Char → Bool}
    (hp : ∀ name ∈ sourceNames, name.toList.head?.map p = some false) (q : Query) :
    HeadNot p (Layout.query q ++ l) := by
  unfold Layout.query
  rw [List.append_assoc, List.append_assoc]
  exact headNot_name hp (name_mem_sourceNames q.source)

theorem Reads.capture {w : Layout} {c : Capture} (hc : c.Printable) :
    Reads text capture (w.capture c ++ l) l fun a => a.unplaced = c.unplaced := by
  have hline : w.capture c ++ l =
      keyText c.name ++ ':' :: ' ' :: (Layout.query c.query ++ (w.ending.text ++ l)) := by
    simp [Layout.capture, Layout.line]
  rw [hline]
  refine (Reads.noLines (headNot_keyText hc)).bind fun _ _ => Reads.position.bind fun p _ => ?_
  refine Reads.key hc (headNot_query (by decide) c.query) ?_
  refine (Reads.query (endsQuery_ending w.ending)).bind fun q hq => ?_
  exact (Reads.lineStop w.ending).bind fun _ _ => .pure (by simp [Capture.unplaced, hq])

/-- **An assert is read back.** -/
theorem Reads.assert {w : Layout} {a : Assert} (ha : a.Printable w) :
    Reads text assert (w.assert a ++ l) l fun b => b.unplaced = a.unplaced := by
  have hline : w.assert a ++ l =
      Layout.query a.query ++ ' ' :: (w.predicate a.predicate ++ (w.ending.text ++ l)) := by
    simp [Layout.assert, Layout.line]
  have hblank : HeadNot isBlank (w.predicate a.predicate ++ (w.ending.text ++ l)) := by
    obtain ⟨name, hname, k, hk⟩ := predicate_names w a.predicate
    rw [hk, List.append_assoc]
    exact headNot_name (by decide) hname
  rw [hline]
  refine (Reads.noLines (headNot_query (by decide) a.query)).bind fun _ _ => ?_
  refine Reads.position.bind fun p _ => ?_
  refine (Reads.query (endsQuery_predicate w a.predicate)).bind fun q hq => ?_
  refine (Reads.someBlanks hblank).bind fun _ _ => ?_
  refine (Reads.predicate ha (headNot_ending rfl rfl _)).bind fun d hd => ?_
  exact (Reads.lineStop w.ending).bind fun _ _ => .pure (by simp [Assert.unplaced, hq, hd])

end HttpScript.Grammar
