import HttpScript.Proofs.Template.Split

/-! # Filling in a template

Rendering looks at a text once. Its split is that of the text alone, and what variables put in is
not looked at again; the first placeholder that has no text is reported.

* `mapM_fill`, `render_eq`: filling in segments, by the first name without a text.
* `render_single_pass`: what rendering gives on every text, for all variables. -/

namespace HttpScript

/-- The text that a name stands for: that of a string, a number or a truth value. -/
def Variables.textOf? (vars : Variables) (name : String) : Option String :=
  (vars.find? name).bind Variable.text?

namespace Template

/-- The name in a placeholder. -/
def Segment.name? : Segment → Option String
  | literal _ => none
  | placeholder _ name => some (.ofList name)

/-- The names in placeholders, from left to right. -/
def names (s : List Segment) : List String := s.filterMap Segment.name?

/-- A segment with the text that its name stands for. -/
def Segment.filled (vars : Variables) : Segment → String
  | literal l => .ofList l
  | placeholder _ name => (vars.textOf? (.ofList name)).getD ""

/-- Why a name has no text. -/
def reason (vars : Variables) (name : String) : Reason :=
  if (vars.find? name).isNone then .undefined else .opaqueValue

theorem reason_message (vars : Variables) (name : String) :
    (reason vars name).message =
      if (vars.find? name).isNone then "undefined variable" else "invalid variable" := by
  unfold reason
  split <;> rfl

/-- Looking up a name gives its text or the reason why there is none. -/
theorem lookup_eq (vars : Variables) (p : Position) (name : List Char) :
    lookup vars p name = match vars.textOf? (.ofList name) with
      | some t => .ok t
      | none => .error ⟨.ofList name, p, reason vars (.ofList name)⟩ := by
  unfold lookup Variables.textOf? reason
  dsimp only
  cases vars.find? (.ofList name) with
  | none => rfl
  | some v => cases h : v.text? <;> simp [h]

/-- **Filling in segments**: either all names have a text, or the first that has none is
reported. -/
theorem mapM_fill (vars : Variables) (p : Position) (s : List Segment) :
    s.mapM (Segment.fill vars p) =
      match (names s).find? fun name => (vars.textOf? name).isNone with
      | some name => .error ⟨name, p, reason vars name⟩
      | none => .ok (s.map (Segment.filled vars)) := by
  induction s with
  | nil => rfl
  | cons x s ih =>
    rw [List.mapM_cons, ih]
    cases x with
    | literal l =>
      have hnames : names (.literal l :: s) = names s := rfl
      rw [hnames]
      cases (names s).find? fun name => (vars.textOf? name).isNone <;> rfl
    | placeholder w n =>
      have hnames : names (.placeholder w n :: s) = String.ofList n :: names s := rfl
      have hfill : Segment.fill vars p (.placeholder w n) = lookup vars p n := rfl
      rw [hnames, hfill, lookup_eq, List.find?_cons]
      cases ht : vars.textOf? (.ofList n) with
      | none => rfl
      | some t =>
        have hfilled : Segment.filled vars (.placeholder w n) = t := by
          simp [Segment.filled, ht]
        rw [List.map_cons, hfilled]
        simp only [Option.isNone_some]
        cases (names s).find? fun name => (vars.textOf? name).isNone <;> rfl

theorem mapM_fill_congr {vars vars' : Variables} (p : Position) {s : List Segment}
    (h : ∀ name ∈ names s, vars.find? name = vars'.find? name) :
    s.mapM (Segment.fill vars p) = s.mapM (Segment.fill vars' p) := by
  induction s with
  | nil => rfl
  | cons x s ih =>
    rw [List.mapM_cons, List.mapM_cons]
    cases x with
    | literal l => rw [ih h]; rfl
    | placeholder w n =>
      have hhead : vars.find? (.ofList n) = vars'.find? (.ofList n) := h _ (List.mem_cons_self ..)
      have hfill : Segment.fill vars p (.placeholder w n) =
          Segment.fill vars' p (.placeholder w n) := by
        simp only [Segment.fill, lookup, hhead]
      rw [hfill, ih fun name hname => h name (List.mem_cons_of_mem _ hname)]

/-- A text with a placeholder has two opening braces that follow each other. -/
theorem StartsWith.braces {l w n : List Char} (h : StartsWith l w n) :
    ['\x7b', '\x7b'] <:+: l := by
  obtain ⟨n, m, rest, hn, -, -, -, rfl, rfl⟩ := h
  rcases hn with rfl | rfl
  · exact ⟨[], _, rfl⟩
  · exact ⟨['\x7b'], _, rfl⟩

/-- **A text without a placeholder**: none starts at any place of it. -/
def Plain (l : List Char) : Prop := ∀ v w name, v <:+ l → ¬ StartsWith v w name

theorem plain_of_no_braces {l : List Char} (h : ¬ ['\x7b', '\x7b'] <:+: l) : Plain l :=
  fun _ _ _ hsuffix hv => h (hv.braces.trans hsuffix.isInfix)

theorem Split.names_eq_nil {l : List Char} {s : List Segment} (h : Split l s) (hl : Plain l) :
    names s = [] := by
  induction h with
  | nil => rfl
  | placeholder hw _ _ => exact absurd hw (hl _ _ _ (List.suffix_refl _))
  | literal _ _ _ _ ih => exact ih fun v w name hv => hl v w name (hv.trans (List.suffix_append _ _))

theorem map_filled_of_names_eq_nil (vars : Variables) {s : List Segment} (h : names s = []) :
    String.join (s.map (Segment.filled vars)) = .ofList (s.flatMap Segment.written) := by
  induction s with
  | nil => rfl
  | cons x s ih =>
    cases x with
    | literal l =>
      rw [List.map_cons, List.flatMap_cons, String.ofList_append, String.join_cons, ih h]
      rfl
    | placeholder w n => exact absurd h (by simp [names, Segment.name?])

/-- **What rendering gives**, by the first name of the text that has no text of its own. -/
theorem render_eq (vars : Variables) (p : Position) (text : String) : render vars p text =
    match (names (segments text.toList)).find? fun name => (vars.textOf? name).isNone with
    | some name => .error ⟨name, p, reason vars name⟩
    | none => .ok (.join ((segments text.toList).map (Segment.filled vars))) := by
  unfold render
  rw [mapM_fill]
  cases (names (segments text.toList)).find? fun name => (vars.textOf? name).isNone <;> rfl

theorem render_of_plain {text : String} (h : Plain text.toList) (vars : Variables) (p : Position) :
    render vars p text = .ok text := by
  have hsplit := segments_split text.toList
  have hnames := hsplit.names_eq_nil h
  rw [render_eq, hnames]
  simp only [List.find?_nil]
  rw [map_filled_of_names_eq_nil vars hnames, hsplit.written_eq, String.ofList_toList]

theorem render_of_not_infix {text : String} (h : ¬ ['\x7b', '\x7b'] <:+: text.toList)
    (vars : Variables) (p : Position) : render vars p text = .ok text :=
  render_of_plain (plain_of_no_braces h) vars p

/-- **Rendering is one pass that does not depend on the variables.** The text is split in one way
only. Where every name has a text, these are put between the literals as they are; otherwise the
first name without one is reported, at the position that was given. -/
theorem render_single_pass (text : String) :
    ∃ s, Split text.toList s ∧ (∀ s', Split text.toList s' → s' = s) ∧
      s.flatMap Segment.written = text.toList ∧
      (∀ vars p, match (names s).find? fun name => (vars.textOf? name).isNone with
        | none => render vars p text = .ok (.join (s.map (Segment.filled vars)))
        | some name => ∃ reason, render vars p text = .error ⟨name, p, reason⟩ ∧
          reason.message =
            if (vars.find? name).isNone then "undefined variable" else "invalid variable") ∧
      (∀ vars vars' p, (∀ name ∈ names s, vars.find? name = vars'.find? name) →
        render vars p text = render vars' p text) ∧
      (¬ ['\x7b', '\x7b'] <:+: text.toList → ∀ vars p, render vars p text = .ok text) := by
  have hsplit := segments_split text.toList
  refine ⟨segments text.toList, hsplit, fun s' h => h.unique hsplit, hsplit.written_eq,
    fun vars p => ?_, fun vars vars' p hvars => ?_, fun hl vars p => render_of_not_infix hl vars p⟩
  · have hr := render_eq vars p text
    split
    · rename_i hnone
      rwa [hnone] at hr
    · rename_i name hsome
      rw [hsome] at hr
      exact ⟨reason vars name, hr, reason_message vars name⟩
  · unfold render
    rw [mapM_fill_congr p hvars]

/-- What a variable puts in is no placeholder. -/
example : render (.ofStrings [("x", "\x7b\x7by\x7d\x7d"), ("y", "z")]) .start
    "\x7b\x7bx\x7d\x7d" = .ok "\x7b\x7by\x7d\x7d" := by cbv

end Template

end HttpScript
