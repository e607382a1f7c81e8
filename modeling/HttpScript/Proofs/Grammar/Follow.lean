import HttpScript.Proofs.Grammar.Bodies

/-! # What stands behind a construct

An entry is a row of parts of which each may be missing. Where one is missing or a list of them
ends, the rule for one more has to reject the part that comes next. The parts come in a fixed order,
so what may stand behind one of them is a chain:

* `EndsLines`: behind lines of a section; a section, a body, a response or a request begins so.
* `EndsSections`: behind sections; a body, a response or a request.
* `EndsBody`: where a body may be missing; a response or a request.
* `EndsResponse`: where a response may be missing; a request, or the end of the text.

A request may have comments in front of it, which every rule that is tried there reads and gives
back (`Led`). -/

namespace HttpScript.Grammar

open Script Text

variable {text : Array Char} {l : List Char}

/-- The names of sections, in the order of the alternatives. -/
def sectionNames : List String :=
  ["QueryStringParams", "FormParams", "Cookies", "MultipartFormData", "Captures", "Asserts"]

/-- The lines that open sections. -/
def sectionTitles : List String := sectionNames.map fun name => "[" ++ name ++ "]"

/-- A character that a body can begin with. -/
def startsContent (c : Char) : Bool :=
  Json.startsValue c || Json.isBlank c || ['<', '\x60', 'b', 'f'].contains c

/-- **What ends a list of lines.** -/
structure EndsLines (l : List Char) : Prop where
  idle : HeadNot isIdle l
  key : NoKey l
  source : ∀ name ∈ sourceNames, ¬ name.toList <+: l

/-- **What ends a list of sections.** -/
structure EndsSections (l : List Char) : Prop extends EndsLines l where
  title : ∀ name ∈ sectionTitles, ¬ name.toList <+: l

/-- **What is no body.** -/
structure EndsBody (l : List Char) : Prop extends EndsSections l where
  content : HeadNot startsContent l

/-- **What is no response.** -/
structure EndsResponse (l : List Char) : Prop extends EndsBody l where
  version : ∀ v ∈ VersionPattern.all, ¬ v.name.toList <+: l

/-! ### Comments in front -/

/-- A text with the property `P`, behind comments. -/
def Led (w : Layout) (P : List Char → Prop) (l : List Char) : Prop :=
  ∃ (comments : List Comment) (k : List Char), (∀ c ∈ comments, c.Printable) ∧
    l = comments.flatMap w.comment ++ k ∧ P k

namespace Led

variable {w : Layout} {P Q : List Char → Prop}

theorem of (h : P l) : Led w P l := ⟨[], l, by simp, rfl, h⟩

theorem mono (h : Led w P l) (hPQ : ∀ k, P k → Q k) : Led w Q l := by
  obtain ⟨comments, k, hcomments, hl, hk⟩ := h
  exact ⟨comments, k, hcomments, hl, hPQ k hk⟩

/-- What rejects behind comments rejects in front of them. -/
theorem rejects {α : Type} {f : List Comment → Rule α} (h : Led w P l)
    (hidle : ∀ k, P k → HeadNot isIdle k) (hf : ∀ k, P k → ∀ a, Rejects text (f a) k) :
    Rejects text (leadingLines >>= f) l := by
  obtain ⟨comments, k, hcomments, rfl, hk⟩ := h
  exact .leadingLines hcomments (hidle k hk) (hf k hk)

end Led

/-! ### What the rules reject -/

section

variable {w : Layout}

theorem rejects_keyLine {α : Type} {f : Position → String → Rule α} (h : Led w EndsLines l) :
    Rejects text (leadingLines >>= fun _ => Rule.position >>= fun p =>
      keyString >>= fun key => colon >>= fun _ => f p key) l :=
  h.rejects (fun _ hk => hk.idle) fun _ hk _ => Reads.position.rejects fun _ _ => .key hk.key

theorem Rejects.fieldLine (h : Led w EndsLines l) : Rejects text Grammar.fieldLine l :=
  h.rejects (fun _ hk => hk.idle) fun _ hk _ =>
    .bind (Reads.position.rejects fun _ _ => .key hk.key)

theorem Rejects.part (h : Led w EndsLines l) : Rejects text Grammar.part l :=
  (Reads.optional_none (rejects_keyLine h)).rejects fun o ho => by
    subst ho
    exact .map (.fieldLine h)

theorem Rejects.capture (h : Led w EndsLines l) : Rejects text Grammar.capture l :=
  rejects_keyLine h

theorem Rejects.assert (h : Led w EndsLines l) : Rejects text Grammar.assert l :=
  h.rejects (fun _ hk => hk.idle) fun _ hk _ => Reads.position.rejects fun _ _ => .bind <|
    Reads.position.rejects fun _ _ => .bind <|
      .choice (rejects_of_opens opens_sources hk.source)

theorem Rejects.sectionLine {name : String}
    (h : Led w (fun k => HeadNot isIdle k ∧ ¬ ("[" ++ name ++ "]").toList <+: k) l) :
    Rejects text (Grammar.sectionLine name) l :=
  h.rejects (fun _ hk => hk.1) fun _ hk _ => .bind (.literal hk.2)

theorem Rejects.content (h : HeadNot startsContent l) : Rejects text Grammar.content l := by
  have hword : ∀ {word : String} {c : Char}, word.toList.head? = some c →
      startsContent c = true → ¬ word.toList <+: l := by
    rintro word c hhead hc ⟨k, rfl⟩
    obtain ⟨m, hm⟩ := List.head?_eq_some_iff.mp hhead
    rw [hm] at h
    rw [headNot_cons.mp h] at hc
    cases hc
  refine Reads.position.rejects fun p _ => .mapError (.choice fun r hr => ?_)
  fin_cases hr
  · exact .jsonContent (extent?_eq_none (h.mono fun c hc => by simp [startsContent, hc])
      (h.mono fun c hc => by simp [startsContent, hc]))
  · refine .xmlContent fun hhead => ?_
    cases h '<' hhead
  · exact .bind (.literal (hword rfl (by decide)))
  · exact .bind (.literal (hword rfl (by decide)))
  · exact .bind (.literal (hword rfl (by decide)))

theorem Rejects.body (h : Led w EndsBody l) : Rejects text Grammar.body l :=
  h.rejects (fun _ hk => hk.idle) fun _ hk _ => Reads.position.rejects fun _ _ =>
    .bind (.content hk.content)

theorem Rejects.response (h : Led w EndsResponse l) : Rejects text Grammar.response l :=
  h.rejects (fun _ hk => hk.idle) fun _ hk _ => Reads.position.rejects fun _ _ => .bind <|
    Reads.position.rejects fun _ _ =>
      (Reads.firstOf_none fun v hv => .literal (hk.version v hv)).rejects fun o ho => by
        subst ho
        exact .failAt

end

/-! ### What texts begin with -/

theorem endsResponse_nil : EndsResponse [] where
  idle := headNot_nil _
  key := noKey_nil
  source := by decide
  title := by decide
  content := headNot_nil _
  version := by decide

/-- A word and a character behind it that no key goes on with. -/
theorem endsSections_word (key : List Char) {c : Char} (hkey : ∀ x ∈ key, isKeyChar x = true)
    (hc : stopsKey c = true) (hidle : HeadNot isIdle (key ++ [c]))
    (hapart : TellsApart (key ++ [c]) (sourceNames ++ sectionTitles)) :
    EndsSections (key ++ c :: l) := by
  have hsplit : key ++ c :: l = key ++ [c] ++ l := by simp
  have hapart' := not_prefix_of_tellsApart (l := l) _ hapart
  rw [← hsplit] at hapart'
  refine ⟨⟨?_, noKey_append hkey hc, ?_⟩, ?_⟩
  · cases key with
    | nil => exact headNot_cons.mpr (headNot_cons.mp hidle)
    | cons x key => exact headNot_cons.mpr (headNot_cons.mp hidle)
  · exact fun name hname => hapart' name (List.mem_append_left _ hname)
  · exact fun name hname => hapart' name (List.mem_append_right _ hname)

theorem endsLines_title {k : List Char} : EndsLines ('[' :: k) where
  idle := headNot_cons.mpr rfl
  key := noKey_append (w := []) (by simp) rfl
  source := not_prefix_of_tellsApart (l := k) ['['] (by decide)

theorem not_prefix_of_head {p : Char → Bool} {names : List String} {c : Char} {k : List Char}
    (hp : ∀ name ∈ names, name.toList.head?.map p = some false) (hc : p c = true) :
    ∀ name ∈ names, ¬ name.toList <+: c :: k := by
  rintro name hname ⟨m, hm⟩
  have hhead := headNot_name (l := m) hp hname
  rw [hm] at hhead
  rw [headNot_cons.mp hhead] at hc
  cases hc

/-! ### Bodies -/

/-- A number goes on behind the characters of a key at its sign only. -/
theorem stopsKey_of_isNumberChar {c : Char} (h : Json.isNumberChar c = true ∨ c.isAlpha = true)
    (hkey : isKeyChar c = false) : stopsKey c = true := by
  have hplus : c = '+' := by
    simp only [isKeyChar, Char.isAlphanum, Bool.or_eq_false_iff, beq_eq_false_iff_ne] at hkey
    obtain ⟨⟨⟨⟨halpha, hdigit⟩, -⟩, hminus⟩, hpoint⟩ := hkey
    rw [halpha] at h
    simp only [Json.isNumberChar, hdigit, Bool.false_or, Bool.or_eq_true, beq_iff_eq,
      Bool.false_eq_true, or_false] at h
    rcases h with (((rfl | rfl) | rfl) | rfl) | rfl
    · rfl
    · exact (hminus rfl).elim
    · exact (hpoint rfl).elim
    · exact absurd halpha (by decide)
    · exact absurd halpha (by decide)
  rw [hplus]
  rfl

theorem noKey_scalar {w : List Char} (e : LineEnding)
    (hw : ∀ c ∈ w, Json.isNumberChar c = true ∨ c.isAlpha = true) :
    NoKey (w ++ (e.text ++ l)) := by
  have hkey : ∀ c ∈ w.takeWhile isKeyChar, isKeyChar c = true := fun c hc =>
    List.mem_takeWhile_imp hc
  have hsplit := List.takeWhile_append_dropWhile (p := isKeyChar) (l := w)
  cases hrest : w.dropWhile isKeyChar with
  | nil =>
    rw [hrest, List.append_nil] at hsplit
    rw [← hsplit]
    cases e <;> exact noKey_append hkey rfl
  | cons c k =>
    rw [hrest] at hsplit
    have hc : isKeyChar c = false := headNot_dropWhile isKeyChar w c (by rw [hrest]; rfl)
    have hmem : c ∈ w := by rw [← hsplit]; simp
    rw [← hsplit, List.append_assoc]
    exact noKey_append hkey (stopsKey_of_isNumberChar (hw c hmem) hc)

/-- A list of values does not look like the title of a section. -/
theorem not_title_of_list {k : List Char} (h : Json.extent? ('[' :: k) = some ('[' :: k).length) :
    ∀ name ∈ sectionTitles, ¬ name.toList <+: '[' :: k ++ l := by
  intro name hname hprefix
  obtain ⟨c, m, hdrop, hc⟩ := Json.startsValue_of_list h
  -- what can stand behind the bracket that opens a list
  let p : Char → Bool := fun c => Json.isBlank c || c == ']' || Json.startsValue c
  obtain ⟨d, k', rfl, hd⟩ : ∃ d k', k = d :: k' ∧ p d = true := by
    cases k with
    | nil => cases hdrop
    | cons d k' =>
      refine ⟨d, k', rfl, ?_⟩
      by_cases hblank : Json.isBlank d = true
      · simp [p, hblank]
      · rw [List.dropWhile_cons, if_neg hblank] at hdrop
        rw [(List.cons.inj hdrop).1]
        rcases hc with rfl | hc
        · rfl
        · simp [p, hc]
  have hsecond : ∀ name ∈ sectionTitles, (name.toList.drop 1).head?.map p = some false := by decide
  obtain ⟨x, hx, hpx⟩ := Option.map_eq_some_iff.mp (hsecond name hname)
  obtain ⟨n, hn⟩ := List.head?_eq_some_iff.mp hx
  have htail := hprefix.drop 1
  rw [hn] at htail
  rw [(List.cons_prefix_cons.mp htail).1, hd] at hpx
  cases hpx

theorem endsSections_json {t : Template} (h : (Content.json t).Printable) (e : LineEnding) :
    EndsSections (t.value.toList ++ (e.text ++ l)) := by
  obtain ⟨c, k, hk, -, hblank, hc⟩ := cons_of_json h
  have hextent : Json.extent? (c :: k) = some (c :: k).length := by
    have := h.2
    rwa [← String.length_toList, hk] at this
  rw [hk]
  by_cases hself : Json.isSelfDelimiting c = true
  · simp only [Json.isSelfDelimiting, Bool.or_eq_true, beq_iff_eq] at hself
    rcases hself with (rfl | rfl) | rfl
    · refine ⟨endsLines_title, ?_⟩
      exact not_title_of_list hextent
    · exact endsSections_word [] (by simp) rfl (headNot_cons.mpr rfl) (by decide)
    · exact endsSections_word [] (by simp) rfl (headNot_cons.mpr rfl) (by decide)
  · have hchars := Json.extent?_scalar hextent fun d hd => by
      rw [← Option.some.inj hd]
      exact ⟨hblank, by simpa using hself⟩
    refine ⟨⟨headNot_cons.mpr (isIdle_eq_false rfl hc), noKey_scalar e hchars, ?_⟩, ?_⟩
    · exact not_prefix_of_head (p := Json.startsValue) (by decide) hc
    · refine not_prefix_of_head (p := (· != '[')) (by decide) ?_
      rw [bne_iff_ne]
      rintro rfl
      exact hself rfl

/-- **A body is no line and no section.** -/
theorem endsSections_content {w : Layout} {c : Content} (hc : c.Printable) :
    EndsSections (w.content c ++ (w.ending.text ++ l)) := by
  cases c with
  | json t => exact endsSections_json hc w.ending
  | xml t =>
    obtain ⟨k, hk⟩ := List.head?_eq_some_iff.mp hc.1
    rw [show w.content (.xml t) = t.value.toList from rfl, hk]
    exact endsSections_word [] (by simp) rfl (headNot_cons.mpr rfl) (by decide)
  | raw t =>
    exact endsSections_word [] (c := '\x60') (by simp) rfl (headNot_cons.mpr rfl) (by decide)
  | base64 bytes =>
    exact endsSections_word "base64".toList (c := ',') (List.all_eq_true.mp rfl) rfl
      (headNot_cons.mpr rfl) (by decide)
  | file name p =>
    exact endsSections_word "file".toList (c := ',') (List.all_eq_true.mp rfl) rfl
      (headNot_cons.mpr rfl) (by decide)

/-- **A body is read back.** -/
theorem Reads.body {w : Layout} {b : Body} (hb : b.content.Printable) :
    Reads text body (w.body b ++ l) l fun a => a.unplaced = b.unplaced := by
  rw [show w.body b ++ l = w.content b.content ++ (w.ending.text ++ l) from List.append_assoc ..]
  refine (Reads.noLines (endsSections_content hb).idle).bind fun _ _ => ?_
  refine Reads.position.bind fun p _ => (Reads.content hb).bind fun c hc => ?_
  exact (Reads.lineStop w.ending).bind fun _ _ => .pure (by simp [Body.unplaced, hc])

/-! ### Responses and requests -/

theorem endsBody_version (v : VersionPattern) : EndsBody (v.name.toList ++ l) where
  toEndsSections := by
    have hword : ∀ k, EndsSections ("HTTP".toList ++ '/' :: k) := fun k =>
      endsSections_word _ (List.all_eq_true.mp rfl) rfl (headNot_cons.mpr rfl) (by decide)
    cases v with
    | _ => exact hword _
  content := by
    cases v with
    | _ => exact headNot_cons.mpr rfl

/-- **A method is no response**, and its line is none with a key. -/
theorem endsResponse_method (m : Method) (hblank : HeadNot isBlank l)
    (hcolon : HeadNot (· == ':') l) : EndsResponse (m.name.toList ++ ' ' :: l) := by
  have hm : m ∈ Method.all := by cases m <;> simp [Method.all]
  have hkey : ∀ x ∈ m.name.toList, isKeyChar x = true := by
    cases m <;> exact List.all_eq_true.mp rfl
  have hapart : ∀ m ∈ Method.all, TellsApart m.name.toList
      (sourceNames ++ sectionTitles ++ VersionPattern.all.map (·.name)) := by decide
  have hnot := not_prefix_of_tellsApart (l := ' ' :: l) _ (hapart m hm)
  have hhead : ∀ {p : Char → Bool},
      (∀ name ∈ Method.all.map (·.name), name.toList.head?.map p = some false) →
      HeadNot p (m.name.toList ++ ' ' :: l) := fun hp =>
    headNot_name hp (List.mem_map_of_mem hm)
  refine ⟨⟨⟨⟨hhead (by decide), noKey_word hkey hblank hcolon, ?_⟩, ?_⟩, hhead (by decide)⟩, ?_⟩
  · exact fun name hname => hnot name (by simp [hname])
  · exact fun name hname => hnot name (by simp [hname])
  · exact fun v hv => hnot v.name (List.mem_append_right _ (List.mem_map_of_mem hv))

end HttpScript.Grammar
