import HttpScript.Proofs.Bytes.Base64
import HttpScript.Proofs.Grammar.Lines
import HttpScript.Proofs.Json.Extent
import HttpScript.Proofs.Xml.Prolong

/-! # Bodies read back

The five kinds of content are told apart by how they begin. An embedded document has no mark of its
own: it is found by its extent, which the line behind it does not change. A raw text goes up to the
first marker, which by what is demanded of it is the one behind it. -/

namespace HttpScript.Grammar

open Script Text

variable {text : Array Char} {l : List Char}

/-! ### Embedded documents -/

theorem isWhite_of_isBlank {c : Char} (h : Json.isBlank c = true) : isWhite c = true := by
  simp only [Json.isBlank, Bool.or_eq_true, beq_iff_eq] at h
  rcases h with ((rfl | rfl) | rfl) | rfl <;> decide

theorem isBlank_of_ending (e : LineEnding) :
    ∀ c ∈ (e.text ++ l).head?, Json.isBlank c = true := by
  cases e <;> exact fun c hc => Option.some.inj hc ▸ rfl

/-- A JSON value begins with a character that tells its kind. -/
theorem cons_of_json {t : Template} (h : (Content.json t).Printable) :
    ∃ c k, t.value.toList = c :: k ∧ isWhite c = false ∧ Json.isBlank c = false ∧
      Json.startsValue c = true := by
  obtain ⟨hwhite, hextent⟩ := h
  obtain ⟨c, k, hk, hc⟩ := Json.startsValue_of_extent? hextent
  have hblank : HeadNot Json.isBlank t.value.toList :=
    HeadNot.mono hwhite fun _ => isWhite_of_isBlank
  have hdrop : t.value.toList.dropWhile Json.isBlank = t.value.toList :=
    dropWhile_append_of_headNot (w := []) (by simp) hblank
  rw [hdrop] at hk
  exact ⟨c, k, hk, hwhite c (by rw [hk]; rfl), hblank c (by rw [hk]; rfl), hc⟩

theorem Reads.templateOf {w : List Char} :
    Reads text (templateOf w.length) (w ++ l) l fun t => t.value = .ofList w :=
  Reads.position.bind fun _ _ => Reads.readN.bind fun a ha => .pure (by rw [ha])

theorem Rejects.jsonContent (h : Json.extent? l = none) : Rejects text jsonContent l := by
  refine Reads.cursor.rejects fun c hc => ?_
  rw [hc.2, h]
  by_cases hwhite : (c.peek?.map isWhite).getD true = true
  · exact .ite_pos hwhite (.bind .failHere)
  · exact .ite_neg hwhite .failHere

theorem Reads.jsonContent {t : Template} (h : (Content.json t).Printable) (e : LineEnding) :
    Reads text jsonContent (t.value.toList ++ (e.text ++ l)) (e.text ++ l) fun a =>
      a.unplaced = (Content.json t).unplaced := by
  obtain ⟨x, k, hk, hwhite, -, -⟩ := cons_of_json h
  refine Reads.cursor.bind fun c hc => ?_
  have hpeek : c.peek? = some x := by rw [Cursor.peek?_eq_head?, hc.2, hk]; rfl
  have hextent : Json.extent? c.rest = some t.value.toList.length := by
    rw [hc.2, String.length_toList]
    have hvalue := h.2
    rw [← String.length_toList] at hvalue ⊢
    exact Json.extent?_append hvalue (isBlank_of_ending e)
  refine .ite_neg (by simp [hpeek, hwhite]) ?_
  rw [hextent]
  refine Reads.templateOf.map fun a ha => ?_
  rw [String.ofList_toList] at ha
  simp [Content.unplaced, Template.unplaced, ha]

theorem Rejects.xmlContent (h : l.head? ≠ some '<') : Rejects text xmlContent l := by
  refine Reads.cursor.rejects fun c hc => .ite_pos ?_ (.bind .failHere)
  rw [Cursor.peek?_eq_head?, hc.2]
  exact h

theorem Reads.xmlContent {t : Template} (h : (Content.xml t).Printable) :
    Reads text xmlContent (t.value.toList ++ l) l fun a =>
      a.unplaced = (Content.xml t).unplaced := by
  obtain ⟨k, hk⟩ := List.head?_eq_some_iff.mp h.1
  refine Reads.cursor.bind fun c hc => ?_
  have hpeek : c.peek? = some '<' := by rw [Cursor.peek?_eq_head?, hc.2, hk]; rfl
  have hextent : Xml.extent? c.rest = some t.value.toList.length := by
    have hvalue := h.2
    rw [← String.length_toList] at hvalue
    rw [hc.2, Xml.extent?_append hvalue]
  refine .ite_neg (by simp [hpeek]) ?_
  rw [hextent]
  refine Reads.templateOf.map fun a ha => ?_
  rw [String.ofList_toList] at ha
  simp [Content.unplaced, Template.unplaced, ha]

/-! ### Raw texts -/

theorem atMarker_iff {c : Cursor} (h : c.rest = l) : atMarker c = true ↔ marker.toList <+: l := by
  have hslice : c.slice c.position.offset (c.position.offset + marker.length) =
      l.take marker.toList.length := by
    rw [← h, String.length_toList]
    simp [Cursor.slice, Cursor.rest, List.take_drop]
  unfold atMarker
  rw [hslice, decide_eq_true_iff, List.prefix_iff_eq_take, eq_comm]

theorem Reads.rawChar_none (h : marker.toList <+: l) :
    Reads text Grammar.rawChar l l (· = none) := by
  refine Reads.cursor.bind fun c hc => .ite_pos ?_ (.pure rfl)
  exact (atMarker_iff hc.2).mpr h

theorem Reads.rawChar {c : Char} (h : ¬ marker.toList <+: c :: l) :
    Reads text Grammar.rawChar (c :: l) l fun o => ∃ a, o = some a ∧ a = c := by
  refine Reads.cursor.bind fun d hd => .ite_neg ?_ ?_
  · exact mt (atMarker_iff hd.2).mp h
  · exact (Reads.mapError Reads.read).map fun x hx => ⟨x, rfl, hx⟩

/-- A marker that would stand in a text or begin in it does so also in front of most of another
marker. -/
theorem not_marker_append {c : Char} {w : List Char}
    (h : ¬ marker.toList <:+: c :: w ++ marker.toList.dropLast) :
    ¬ marker.toList <+: c :: w ++ (marker.toList ++ l) := by
  intro hprefix
  refine h (List.IsPrefix.isInfix (List.prefix_of_prefix_length_le hprefix ?_ ?_))
  · exact ⟨'\x60' :: l, by simp [marker]⟩
  · simp [marker]

/-- **A raw text is read up to the marker behind it.** -/
theorem Reads.collect_rawChar {w : List Char}
    (h : ¬ marker.toList <:+: w ++ marker.toList.dropLast) :
    Reads text (Rule.collect Grammar.rawChar) (w ++ (marker.toList ++ l)) (marker.toList ++ l)
      (· = w) := by
  induction w with
  | nil => exact Reads.collect_nil (Reads.rawChar_none (List.prefix_append _ _))
  | cons c w ih =>
    have hw : ¬ marker.toList <:+: w ++ marker.toList.dropLast := fun hw =>
      h (List.infix_cons_iff.mpr (.inr hw))
    refine (Reads.collect_cons (Reads.rawChar (not_marker_append h)) ?_ (ih hw)).mono fun a ha => ?_
    · simp
    · obtain ⟨b, a', rfl, rfl, rfl⟩ := ha
      rfl

theorem Reads.rawContent {t : Template} (h : (Content.raw t).Printable) (e : LineEnding) :
    Reads text rawContent
      (marker.toList ++ (e.text ++ (t.value.toList ++ (marker.toList ++ l)))) l fun a =>
      a.unplaced = (Content.raw t).unplaced := by
  have hbreak : Reads text (do Grammar.blanks; Grammar.lineBreak)
      (e.text ++ (t.value.toList ++ (marker.toList ++ l)))
      (t.value.toList ++ (marker.toList ++ l)) fun _ => True :=
    (Reads.no_blanks (headNot_ending rfl rfl e)).bind fun _ _ =>
      Reads.lineBreak e
  refine (Reads.literal marker).bind fun _ _ => hbreak.optional.bind fun _ _ => ?_
  refine Reads.position.bind fun p _ => (Reads.collect_rawChar h).bind fun a ha => ?_
  refine (Reads.literal marker).bind fun _ _ => .pure ?_
  rw [ha, String.ofList_toList]
  rfl

/-! ### Bytes and files -/

theorem isBase64Char_of_mem_encode {bytes : List UInt8} {c : Char}
    (hc : c ∈ Bytes.Base64.encode bytes) : isBase64Char c = true := by
  rcases Bytes.Base64.class_of_mem_encode hc with h | rfl | rfl | rfl
  · simp [isBase64Char, h]
  all_goals rfl

theorem headNot_base64 (bytes : List UInt8) :
    HeadNot isBlank (Bytes.Base64.encode bytes ++ ';' :: l) := by
  cases hencode : Bytes.Base64.encode bytes with
  | nil => exact headNot_cons.mpr rfl
  | cons c k =>
    have hc : isBase64Char c = true := isBase64Char_of_mem_encode (by rw [hencode]; simp)
    exact headNot_cons.mpr (isBlank_eq_false rfl hc)

theorem Reads.base64Content (bytes : List UInt8) :
    Reads text base64Content
      ("base64,".toList ++ (Bytes.Base64.encode bytes ++ (";".toList ++ l))) l fun a =>
      a.unplaced = .base64 bytes := by
  have hbreak : ∀ c ∈ Bytes.Base64.encode bytes, isLineBreak c = false := fun c hc => by
    rcases Bytes.Base64.class_of_mem_encode hc with h | rfl | rfl | rfl
    · exact isLineBreak_eq_false rfl h
    all_goals rfl
  refine (Reads.literal _).bind fun _ _ => ?_
  refine (Reads.no_blanks (headNot_base64 bytes)).bind fun _ _ => ?_
  refine Reads.position.bind fun p _ => ?_
  refine (Reads.readWhile_append (fun c hc => isBase64Char_of_mem_encode hc)
    (headNot_cons.mpr rfl)).bind fun a ha => ?_
  have hfilter : (Bytes.Base64.encode bytes).filter (fun c => !isLineBreak c) =
      Bytes.Base64.encode bytes := List.filter_eq_self.mpr fun c hc => by simp [hbreak c hc]
  rw [ha, hfilter, Bytes.Base64.decode?_encode]
  refine (Reads.no_blanks (headNot_cons.mpr rfl)).bind fun _ _ => ?_
  exact (Reads.literal _).bind fun _ _ => .pure rfl

theorem Reads.fileContent {name : String} (h : IsFilename name) :
    Reads text fileContent ("file,".toList ++ (name.toList ++ (";".toList ++ l))) l fun a =>
      a.unplaced = .file name .start := by
  refine (Reads.literal _).bind fun _ _ => (Reads.no_blanks (headNot_filename h)).bind fun _ _ => ?_
  refine Reads.position.bind fun p _ => ?_
  refine (Reads.filename h (headNot_cons.mpr rfl)).bind fun a ha => ?_
  refine (Reads.no_blanks (headNot_cons.mpr rfl)).bind fun _ _ => ?_
  exact (Reads.literal _).bind fun _ _ => .pure (by rw [ha]; rfl)

/-! ### Contents -/

theorem extent?_eq_none (hblank : HeadNot Json.isBlank l) (h : HeadNot Json.startsValue l) :
    Json.extent? l = none := by
  cases hl : Json.extent? l with
  | none => rfl
  | some n =>
    obtain ⟨c, k, hk, hc⟩ := Json.startsValue_of_extent? hl
    have hdrop : l.dropWhile Json.isBlank = l :=
      dropWhile_append_of_headNot (w := []) (by simp) hblank
    have := h c (by rw [← hdrop, hk]; rfl)
    rw [hc] at this
    cases this

/-- The word that a file begins with is not the one that begins like it. -/
theorem extent?_file : Json.extent? ("file,".toList ++ l) = none := by
  cases hl : Json.extent? ("file,".toList ++ l) with
  | none => rfl
  | some n =>
    unfold Json.extent? at hl
    rw [show Json.deepest = 127 + 1 from rfl] at hl
    unfold Json.readValue at hl
    rw [show "file,".toList ++ l = 'f' :: 'i' :: ("le,".toList ++ l) from rfl,
      Json.skipBlanks_cons (by decide)] at hl
    have hword : ∀ b, Json.readWord "alse".toList ⟨'i' :: ("le,".toList ++ l), b⟩ =
        Json.Rest.failNext ⟨'i' :: ("le,".toList ++ l), b⟩ .word := fun b => by
      rw [show "alse".toList = 'a' :: "lse".toList from rfl]
      unfold Json.readWord
      exact if_neg (by decide)
    simp only [Json.Rest.skip, hword] at hl
    cases hl

theorem Reads.content {w : Layout} {c : Content} (hc : c.Printable) :
    Reads text content (w.content c ++ (w.ending.text ++ l)) (w.ending.text ++ l) fun a =>
      a.unplaced = c.unplaced := by
  have hjson : ∀ {x : Char} {k : List Char}, Json.isBlank x = false → Json.startsValue x = false →
      Rejects text Grammar.jsonContent (x :: k) := fun hblank hx =>
    .jsonContent (extent?_eq_none (headNot_cons.mpr hblank) (headNot_cons.mpr hx))
  have hxml : ∀ {x : Char} {k : List Char}, x ≠ '<' → Rejects text Grammar.xmlContent (x :: k) :=
    fun hx => .xmlContent fun h => hx (Option.some.inj h)
  refine Reads.position.bind fun p _ => Reads.mapError ?_
  cases c with
  | json t =>
    rw [show w.content (.json t) = t.value.toList from rfl]
    exact Reads.choice [] rfl (by simp) (Reads.jsonContent hc w.ending)
  | xml t =>
    obtain ⟨k, hk⟩ := List.head?_eq_some_iff.mp hc.1
    rw [show w.content (.xml t) = t.value.toList from rfl]
    refine Reads.choice [Grammar.jsonContent] rfl (fun r hr => ?_) (Reads.xmlContent hc)
    rw [List.mem_singleton.mp hr, hk]
    exact hjson (by decide) (by decide)
  | raw t =>
    rw [show w.content (.raw t) = marker.toList ++ w.ending.text ++ t.value.toList ++ marker.toList
      from rfl, List.append_assoc, List.append_assoc, List.append_assoc]
    refine Reads.choice [Grammar.jsonContent, Grammar.xmlContent] rfl (fun r hr => ?_)
      (Reads.rawContent hc w.ending)
    rcases List.mem_pair.mp hr with rfl | rfl
    · exact hjson (x := '\x60') (by decide) (by decide)
    · exact hxml (x := '\x60') (by decide)
  | base64 bytes =>
    rw [show w.content (.base64 bytes) = "base64,".toList ++ Bytes.Base64.encode bytes ++
      ";".toList from rfl, List.append_assoc, List.append_assoc]
    refine Reads.choice [Grammar.jsonContent, Grammar.xmlContent, Grammar.rawContent] rfl
      (fun r hr => ?_) (Reads.base64Content bytes)
    fin_cases hr
    · exact hjson (x := 'b') (by decide) (by decide)
    · exact hxml (x := 'b') (by decide)
    · exact .bind (.literal (not_prefix_append (by decide) (by decide)))
  | file name q =>
    rw [show w.content (.file name q) = "file,".toList ++ name.toList ++ ";".toList from rfl,
      List.append_assoc, List.append_assoc]
    refine Reads.choice [Grammar.jsonContent, Grammar.xmlContent, Grammar.rawContent,
      Grammar.base64Content] rfl (fun r hr => ?_) (Reads.fileContent hc)
    fin_cases hr
    · exact .jsonContent extent?_file
    · exact hxml (x := 'f') (by decide)
    · exact .bind (.literal (not_prefix_append (by decide) (by decide)))
    · exact .bind (.literal (not_prefix_append (by decide) (by decide)))

end HttpScript.Grammar
