import HttpScript.Proofs.Grammar.Composed
import HttpScript.Proofs.Grammar.Strings
import HttpScript.Proofs.Report.Marks

/-! # Messages in one line

A report about a script that cannot be read has a line for the message, one for the script and one
for the caret. The message quotes characters of the script: those that are not expected are made
visible, but one behind a backslash is quoted as it stands in the script.

* `Script.ofGrammar_of_read?`: what can be wrong with a script.
* `eq_unknownEscape`: a line break in a message is one behind a backslash.
* `parseError_lines`: **the lines of every report**. `parseError_escaped_feed`: a report with one
  line too many. -/

namespace HttpScript

namespace Grammar

open Text

/-! ### What can be wrong with a script -/

theorem ofGrammar_unexpectedAt (chars : Array Char) (p : Position) :
    (Script.unexpectedAt chars p).OfGrammar := by
  unfold Script.unexpectedAt
  split <;> trivial

/-- **All that can be wrong with a script** is a fault of the grammar. -/
theorem ofGrammar_of_read? {text : String} {e : ParseError} (h : Script.read? text = .error e) :
    e.OfGrammar := by
  have hrule := Composed.script.raises (.ofText text) (by simp [State.ofText, AllOfGrammar])
  unfold Script.read? at h
  cases heq : Script.rule (.ofText text) with
  | error e' s =>
    rw [heq] at h hrule
    cases h
    exact hrule.1
  | ok script s =>
    rw [heq] at h hrule
    dsimp only at h
    split at h
    · cases h
    · rename_i c _
      cases h
      rcases reported_cases s.cursor.text s.candidates
        (.fault (.unexpectedChar c) s.cursor.position) with hmem | ⟨e, -, he⟩
      · rcases List.mem_append.mp hmem with hmem | hmem
        · exact hrule _ (mem_log_of_mem_candidates hmem)
        · rw [List.mem_singleton.mp hmem]
          trivial
      · rw [he]
        exact ofGrammar_unexpectedAt _ _

/-! ### Line breaks in messages -/

theorem oneLine_append {s t : String} : OneLine (s ++ t) ↔ OneLine s ∧ OneLine t := by
  simp [OneLine, or_imp, forall_and]

theorem oneLine_singleton {c : Char} : OneLine (.singleton c) ↔ isLineBreak c = false := by
  simp [OneLine]

/-- A character that is made visible breaks no line. -/
theorem oneLine_visible (c : Char) : OneLine (.ofList (visible c)) := by
  have hcodePoint : ∀ d ∈ Text.codePoint c, isLineBreak d = false := by
    intro d hd
    simp only [Text.codePoint, List.mem_append, List.mem_cons, List.not_mem_nil, or_false] at hd
    rcases hd with ((rfl | rfl | rfl) | hd) | rfl
    · rfl
    · rfl
    · rfl
    · refine Bool.eq_false_iff.mpr fun hbreak => ?_
      have hdigit := isHexDigit_of_mem_toDigits hd
      simp only [isLineBreak, Bool.or_eq_true, beq_iff_eq] at hbreak
      rcases hbreak with rfl | rfl <;> exact absurd hdigit (by decide)
    · rfl
  intro d hd
  rw [String.toList_ofList] at hd
  unfold visible at hd
  split_ifs at hd with hzero htab hreturn hfeed hquote hhidden
  · rcases List.mem_pair.mp hd with rfl | rfl <;> rfl
  · rcases List.mem_pair.mp hd with rfl | rfl <;> rfl
  · rcases List.mem_pair.mp hd with rfl | rfl <;> rfl
  · rcases List.mem_pair.mp hd with rfl | rfl <;> rfl
  · rcases List.mem_pair.mp hd with rfl | rfl
    · rfl
    · simp [isLineBreak, hreturn, hfeed]
  · exact hcodePoint d hd
  · rw [List.mem_singleton.mp hd]
    simp [isLineBreak, hreturn, hfeed]

theorem oneLine_invalidEscape : OneLine "invalid escape char " := by decide +kernel

/-- **A message is one line**, unless it quotes a line break behind a backslash. -/
theorem oneLine_message_iff {cause : Fault} (h : cause.OfGrammar) :
    OneLine cause.message ↔ ∀ c, cause = .unknownEscape c → isLineBreak c = false := by
  -- the equations of the wording are slow to make, so it is opened once for all causes
  unfold Fault.message
  cases cause with
  | literal text found wanted =>
    obtain ⟨htext, hwanted⟩ := h
    have hsingle : OneLine (.singleton wanted) := oneLine_singleton.mpr (htext wanted hwanted)
    refine iff_of_true ?_ (by simp)
    cases found with
    | none =>
      dsimp only
      simp only [oneLine_append, htext, hsingle]
      decide +kernel
    | some c =>
      dsimp only
      simp only [oneLine_append, htext, hsingle, oneLine_visible]
      decide +kernel
  | unknownEscape c =>
    dsimp only
    simp only [oneLine_append, oneLine_singleton, oneLine_invalidEscape, true_and,
      Fault.unknownEscape.injEq, forall_eq']
  | unexpectedChar c =>
    refine iff_of_true ?_ (by simp)
    dsimp only
    simp only [oneLine_append, oneLine_visible]
    decide +kernel
  | note message => exact h.elim
  | _ => exact iff_of_true (by decide +kernel) (by simp)

theorem message_unknownEscape (c : Char) :
    (Fault.unknownEscape c).message = "invalid escape char " ++ .singleton c := by
  unfold Fault.message
  dsimp only

/-- **A line break in a message** is one that stands behind a backslash. -/
theorem eq_unknownEscape {e : ParseError} {c : Char} (h : e.OfGrammar)
    (hc : c ∈ e.message.toList) (hbreak : isLineBreak c = true) :
    ∃ p, e = .fault (.unknownEscape c) p := by
  cases e with
  | endOfText p =>
    have hmessage : OneLine "end of file" := by decide +kernel
    rw [hmessage c hc] at hbreak
    cases hbreak
  | fault cause p =>
    have hlines : ¬ OneLine cause.message := fun hline => by
      rw [hline c hc] at hbreak
      cases hbreak
    rw [oneLine_message_iff h] at hlines
    push Not at hlines
    obtain ⟨d, rfl, -⟩ := hlines
    have hmem : c ∈ (Fault.unknownEscape d).message.toList := hc
    rw [message_unknownEscape, String.toList_append, List.mem_append, String.toList_singleton,
      List.mem_singleton] at hmem
    rcases hmem with hmem | rfl
    · rw [oneLine_invalidEscape c hmem] at hbreak
      cases hbreak
    · exact ⟨p, rfl⟩

end Grammar

namespace Report

open Grammar Text

/-! ### The lines of a report -/

/-- The headline of a report is one line if its message is. -/
theorem feed_not_mem_headline {filename : String} (p : Position) (message : String)
    (hname : '\n' ∉ filename.toList) (hmessage : '\n' ∉ message.toList) :
    '\n' ∉ (headline filename p message).toList := by
  have hline := feed_not_mem_toString p.line
  have hcolumn := feed_not_mem_toString p.column
  simp only [headline, String.toList_append, List.mem_append, hname, hmessage, hline, hcolumn]
  decide

/-- **The lines of a report** about a script that cannot be read: what is wrong, the line of the
script and the line of the caret. Only where a line feed stands behind a backslash and is no escape
is the message quoting it broken in two. -/
theorem parseError_lines {filename text : String} {e : ParseError}
    (hname : '\n' ∉ filename.toList) (h : Script.read? text = .error e) :
    ((∃ c ∈ e.message.toList, isLineBreak c = true) ↔
      ∃ c p, isLineBreak c = true ∧ e = .fault (.unknownEscape c) p) ∧
    (parseError filename text e false).toList.splitOn '\n' =
      (if e = .fault (.unknownEscape '\n') e.position then
        [(headline filename e.position "invalid escape char ").toList, []]
      else [(headline filename e.position e.message).toList]) ++
        [numberedLine text e.position, caretLine text e.position] := by
  have hgrammar := ofGrammar_of_read? h
  have hexact : e.position.IsExact text.toList := by
    have hread := Script.isExact_read? text
    rwa [h] at hread
  constructor
  · constructor
    · rintro ⟨c, hc, hbreak⟩
      obtain ⟨p, he⟩ := eq_unknownEscape hgrammar hc hbreak
      exact ⟨c, p, hbreak, he⟩
    · rintro ⟨c, p, hbreak, rfl⟩
      refine ⟨c, ?_, hbreak⟩
      show c ∈ (Fault.unknownEscape c).message.toList
      rw [message_unknownEscape, String.toList_append, String.toList_singleton]
      exact List.mem_append_right _ (List.mem_singleton_self c)
  · show (locate filename text e.position e.message false).toList.splitOn '\n' = _
    rw [splitOn_locate filename e.message hexact]
    congr 1
    split_ifs with he
    · have hmessage : e.message = "invalid escape char " ++ "\n" := by
        rw [he]
        exact message_unknownEscape '\n'
      have hheadline : (headline filename e.position e.message).toList =
          (headline filename e.position "invalid escape char ").toList ++ ['\n'] := by
        simp [hmessage, headline]
      have hfeed := feed_not_mem_headline e.position "invalid escape char " hname
        (by decide +kernel)
      rw [hheadline, List.splitOn_append_cons_self_of_not_mem hfeed]
      rfl
    · refine List.splitOn_eq_singleton (feed_not_mem_headline e.position _ hname fun hfeed => he ?_)
      obtain ⟨p, hp⟩ := eq_unknownEscape hgrammar hfeed rfl
      rw [hp]
      rfl

/-- An error with the script set aside, which cannot be compared. -/
theorem read?_eq_error {text : String} {e : ParseError}
    (h : (Script.read? text).map (fun _ => ()) = .error e) : Script.read? text = .error e := by
  cases hread : Script.read? text with
  | ok script => rw [hread] at h; cases h
  | error e' => rw [hread] at h; exact congrArg _ (Except.error.inj h)

/-- A letter that no escape uses. -/
theorem parseError_lines_letter :
    let text := "GET http://h\na\\x: b\n"
    let e : ParseError := .fault (.unknownEscape 'x') ⟨15, 2, 3⟩
    ('\n' ∉ "a.script".toList ∧ Script.read? text = .error e) ∧
      ((∃ c ∈ e.message.toList, isLineBreak c = true) ↔
        ∃ c p, isLineBreak c = true ∧ e = .fault (.unknownEscape c) p) ∧
      (parseError "a.script" text e false).toList.splitOn '\n' =
        (if e = .fault (.unknownEscape '\n') e.position then
          [(headline "a.script" e.position "invalid escape char ").toList, []]
        else [(headline "a.script" e.position e.message).toList]) ++
          [numberedLine text e.position, caretLine text e.position] := by
  intro text e
  have hname : '\n' ∉ "a.script".toList := by decide +kernel
  have hread : Script.read? text = .error e := read?_eq_error (by decide +kernel)
  exact ⟨⟨hname, hread⟩, parseError_lines hname hread⟩

/-- **A report of four lines**: the line feed behind a backslash is quoted as it is. -/
theorem parseError_escaped_feed :
    let text := "GET http://h\na\\\nb: c\n"
    ∃ e, Script.read? text = .error e ∧ '\n' ∉ "a.script".toList ∧
      parseError "a.script" text e false =
        "a.script:2:3: error: invalid escape char \n\n2 | a\\\n  |   ^" ∧
      ((parseError "a.script" text e false).toList.splitOn '\n').length = 4 := by
  intro text
  refine ⟨.fault (.unknownEscape '\n') ⟨15, 2, 3⟩, read?_eq_error (by decide +kernel),
    by decide +kernel, by decide +kernel, by decide +kernel⟩

end Report

end HttpScript
