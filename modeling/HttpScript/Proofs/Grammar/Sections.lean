import HttpScript.Proofs.Grammar.Follow

/-! # Sections read back

A section is its title and its lines; it is printed only where it has lines. The sections of a
request and those of a response are read as lists of tagged sections, and what they hold is then
collected by tag: `RequestSection.all` and `ResponseSection.all` are the lists that are printed, and
`RequestSection.collected` and `ResponseSection.collected` say that collecting undoes the tags. -/

namespace HttpScript.Grammar

open Script Text

variable {text : Array Char} {l : List Char} {w : Layout}

/-! ### Lines under a title -/

theorem line_ne_nil (w : Layout) (l : List Char) : w.line l ≠ [] := by
  unfold Layout.line LineEnding.text
  cases w.ending <;> simp

theorem part_ne_nil (w : Layout) (p : Part) : w.part p ≠ [] := by
  cases p <;> exact line_ne_nil w _

theorem title_cons (name : String) :
    ("[" ++ name ++ "]").toList = '[' :: (name.toList ++ [']']) := by
  simp [String.toList_append]

theorem Reads.sectionLine {name : String} :
    Reads text (Grammar.sectionLine name) (w.line ("[" ++ name ++ "]").toList ++ l) l
      fun _ => True := by
  have hidle : HeadNot isIdle (w.line ("[" ++ name ++ "]").toList ++ l) := by
    unfold Layout.line
    rw [title_cons]
    exact headNot_cons.mpr rfl
  refine (Reads.noLines hidle).bind fun _ _ => ?_
  rw [show w.line ("[" ++ name ++ "]").toList ++ l = ("[" ++ name ++ "]").toList ++
    (w.ending.text ++ l) from List.append_assoc ..]
  refine (Reads.literal _).bind fun _ _ => ?_
  exact (Reads.lineStop w.ending).bind fun _ _ => .pure trivial

section

variable {α γ δ : Type} {name : String} {items : List γ} {print : γ → List Char}

theorem lines_eq (hne : items ≠ []) : w.lines name print items =
    w.line ("[" ++ name ++ "]").toList ++ items.flatMap print :=
  if_neg (by simpa using hne)

theorem lines_title (hne : items ≠ []) :
    ∃ m, w.lines name print items = ("[" ++ name ++ "]").toList ++ m := by
  rw [lines_eq hne, Layout.line, List.append_assoc]
  exact ⟨_, rfl⟩

theorem lines_cons (hne : items ≠ []) : ∃ m, w.lines name print items = '[' :: m := by
  obtain ⟨m, hm⟩ : ∃ m, w.lines name print items = ("[" ++ name ++ "]").toList ++ m :=
    lines_title hne
  exact ⟨_, hm.trans (by rw [title_cons]; rfl)⟩

/-- **Lines under a title are read back**, given that each line is. -/
theorem Reads.lines {r : Rule α} {g : α → δ} {g' : γ → δ} (hne : items ≠ [])
    (hitem : ∀ b ∈ items, ∀ k, Reads text r (print b ++ k) k fun a => g a = g' b)
    (hprint : ∀ b ∈ items, print b ≠ []) (hend : Rejects text r l) :
    Reads text (do Grammar.sectionLine name; Rule.zeroOrMore r) (w.lines name print items ++ l) l
      fun as => as.map g = items.map g' := by
  rw [lines_eq hne, List.append_assoc]
  exact Reads.sectionLine.bind fun _ _ => Reads.zeroOrMore_flatMap hitem hprint fun _ => hend

/-- **A section is read by the alternative with its title.** -/
theorem Reads.choice_lines {rules : List (Rule α)} {titles : List String} {r : Rule α}
    {Q : α → Prop} (hopens : ∀ k, HeadNot isIdle k → List.Forall₂ (Opens text k k) rules titles)
    (i : Nat) (hr : rules[i]? = some r) (hne : items ≠ [])
    (htitle : TellsApart ("[" ++ name ++ "]").toList (titles.take i))
    (h : Reads text r (w.lines name print items ++ l) l Q) :
    Reads text (Rule.choice rules) (w.lines name print items ++ l) l Q := by
  obtain ⟨m, hm⟩ : ∃ m, w.lines name print items = ("[" ++ name ++ "]").toList ++ m :=
    lines_title hne
  rw [hm, List.append_assoc] at h ⊢
  have hidle : HeadNot isIdle (("[" ++ name ++ "]").toList ++ (m ++ l)) := by
    rw [title_cons]
    exact headNot_cons.mpr rfl
  exact Reads.choice_opens (hopens _ hidle) i hr (not_prefix_of_tellsApart _ htitle) h

end

/-- **A row of sections** ends the lines before it, and so does what stands behind it. -/
theorem led_sections {σ : Type} {sections : List σ} {print : σ → List Char}
    (hprint : ∀ s ∈ sections, ∃ k, print s = '[' :: k) (hl : Led w EndsSections l) :
    Led w EndsLines (sections.flatMap print ++ l) := by
  cases sections with
  | nil => exact hl.mono fun _ hk => hk.toEndsLines
  | cons s sections =>
    obtain ⟨k, hk⟩ := hprint s (by simp)
    rw [List.flatMap_cons, hk]
    exact .of endsLines_title

/-- A row of sections is read back, given that each section is. -/
theorem Reads.zeroOrMore_sections {σ : Type} {r : Rule σ} {sections : List σ}
    {print : σ → List Char} {unplaced : σ → σ}
    (hitem : ∀ s ∈ sections, ∀ k, Led w EndsLines k →
      Reads text r (print s ++ k) k fun a => unplaced a = unplaced s)
    (hprint : ∀ s ∈ sections, ∃ k, print s = '[' :: k) (hl : Led w EndsSections l)
    (hend : Rejects text r l) :
    Reads text (Rule.zeroOrMore r) (sections.flatMap print ++ l) l fun as =>
      as.map unplaced = sections.map unplaced := by
  refine Reads.zeroOrMore_items hitem (fun s hs => ?_) (fun s hs k _ => ?_)
    (hl.mono fun _ hk => hk.toEndsLines) fun _ => hend
  · obtain ⟨k, hk⟩ := hprint s hs
    rw [hk]
    exact List.cons_ne_nil _ _
  · obtain ⟨m, hm⟩ := hprint s hs
    rw [hm]
    exact .of endsLines_title

/-! ### The kinds of sections -/

theorem Reads.fieldSection {name : String} {fields : List Field} (hne : fields ≠ [])
    (hfields : ∀ f ∈ fields, f.Printable) (hl : Led w EndsLines l) :
    Reads text (fieldSection name) (w.lines name w.field fields ++ l) l fun as =>
      as.map (·.unplaced) = fields.map (·.unplaced) :=
  Reads.lines hne (fun f hf _ => Reads.fieldLine (hfields f hf)) (fun _ _ => line_ne_nil w _)
    (.fieldLine hl)

theorem Reads.multipartSection {parts : List Part} (hne : parts ≠ [])
    (hparts : ∀ p ∈ parts, p.Printable) (hl : Led w EndsLines l) :
    Reads text multipartSection (w.lines "MultipartFormData" w.part parts ++ l) l fun as =>
      as.map (·.unplaced) = parts.map (·.unplaced) :=
  Reads.lines hne (fun p hp _ => Reads.part (hparts p hp)) (fun p _ => part_ne_nil w p) (.part hl)

theorem Reads.capturesSection {captures : List Capture} (hne : captures ≠ [])
    (hcaptures : ∀ c ∈ captures, c.Printable) (hl : Led w EndsLines l) :
    Reads text capturesSection (w.lines "Captures" w.capture captures ++ l) l fun as =>
      as.map (·.unplaced) = captures.map (·.unplaced) :=
  Reads.lines hne (fun c hc _ => Reads.capture (hcaptures c hc)) (fun _ _ => line_ne_nil w _)
    (.capture hl)

theorem Reads.assertsSection {asserts : List Assert} (hne : asserts ≠ [])
    (hasserts : ∀ a ∈ asserts, a.Printable w) (hl : Led w EndsLines l) :
    Reads text assertsSection (w.lines "Asserts" w.assert asserts ++ l) l fun as =>
      as.map (·.unplaced) = asserts.map (·.unplaced) :=
  Reads.lines hne (fun a ha _ => Reads.assert (hasserts a ha)) (fun _ _ => line_ne_nil w _)
    (.assert hl)

/-- Leaving out what contributes nothing. -/
theorem flatMap_filter {α β : Type} {p : α → Bool} {f : α → List β} {l : List α}
    (h : ∀ a, p a = false → f a = []) : (l.filter p).flatMap f = l.flatMap f := by
  induction l with
  | nil => rfl
  | cons a l ih =>
    rw [List.flatMap_cons, ← ih]
    by_cases ha : p a = true
    · rw [List.filter_cons_of_pos ha, List.flatMap_cons]
    · rw [List.filter_cons_of_neg ha, h a (by simpa using ha), List.nil_append]

theorem map_flatMap_unplaced {α γ : Type} {unplaced : α → α} {get : α → List γ} {u : γ → γ}
    {as bs : List α} (hget : ∀ a, (get a).map u = get (unplaced a))
    (h : as.map unplaced = bs.map unplaced) : (as.flatMap get).map u = (bs.flatMap get).map u := by
  have hall : ∀ as : List α, (as.flatMap get).map u = (as.map unplaced).flatMap get := fun as => by
    rw [List.map_flatMap, List.flatMap_map]
    exact List.flatMap_congr fun a _ => hget a
  rw [hall, hall, h]

/-! ### Sections of a request -/

namespace RequestSection

/-- A section without positions. -/
def unplaced : RequestSection → RequestSection
  | query l => .query (l.map (·.unplaced))
  | form l => .form (l.map (·.unplaced))
  | multipart l => .multipart (l.map (·.unplaced))
  | cookies l => .cookies (l.map (·.unplaced))
  | captures l => .captures (l.map (·.unplaced))
  | asserts l => .asserts (l.map (·.unplaced))

/-- Whether a section has a line. -/
def holds : RequestSection → Bool
  | query l | form l | cookies l => !l.isEmpty
  | multipart l => !l.isEmpty
  | captures l => !l.isEmpty
  | asserts l => !l.isEmpty

/-- A section as it is printed. -/
def print (w : Layout) : RequestSection → List Char
  | query l => w.lines "QueryStringParams" w.field l
  | form l => w.lines "FormParams" w.field l
  | multipart l => w.lines "MultipartFormData" w.part l
  | cookies l => w.lines "Cookies" w.field l
  | captures l => w.lines "Captures" w.capture l
  | asserts l => w.lines "Asserts" w.assert l

/-- A section that can be printed. -/
def Printable (w : Layout) : RequestSection → Prop
  | query l | form l | cookies l => ∀ f ∈ l, f.Printable
  | multipart l => ∀ p ∈ l, p.Printable
  | captures l => ∀ c ∈ l, c.Printable
  | asserts l => ∀ a ∈ l, a.Printable w

/-- The sections of a request that have lines, in the order in which they are printed. -/
def all (r : Request) : List RequestSection :=
  [.query r.query, .form r.form, .multipart r.multipart, .cookies r.cookies, .captures r.captures,
    .asserts r.asserts].filter (·.holds)

theorem print_of_not_holds {s : RequestSection} (h : s.holds = false) : s.print w = [] := by
  cases s with
  | _ l =>
    have hl : l = [] := by simpa [holds] using h
    rw [hl]
    rfl

theorem print_all (r : Request) : (all r).flatMap (·.print w) =
    w.lines "QueryStringParams" w.field r.query ++ (w.lines "FormParams" w.field r.form ++
      (w.lines "MultipartFormData" w.part r.multipart ++ (w.lines "Cookies" w.field r.cookies ++
        (w.lines "Captures" w.capture r.captures ++ w.lines "Asserts" w.assert r.asserts)))) := by
  rw [all, flatMap_filter fun s => print_of_not_holds]
  simp [print]

theorem print_of_holds {s : RequestSection} (h : s.holds = true) : ∃ k, s.print w = '[' :: k := by
  cases s with
  | _ l => exact lines_cons (by simpa [holds] using h)

theorem printable_of_mem_all {r : Request} (hr : r.Printable w) {s : RequestSection}
    (hs : s ∈ all r) : s.Printable w ∧ s.holds = true := by
  obtain ⟨hs, hholds⟩ := List.mem_filter.mp hs
  refine ⟨?_, hholds⟩
  fin_cases hs
  · exact hr.query
  · exact hr.form
  · exact hr.multipart
  · exact hr.cookies
  · exact hr.captures
  · exact hr.asserts

/-- **Collecting what was read by tag** gives what the request holds. -/
theorem collected {γ : Type} {r : Request} {as : List RequestSection}
    (h : as.map (·.unplaced) = (all r).map (·.unplaced)) (get : RequestSection → List γ) {u : γ → γ}
    (hget : ∀ s, (get s).map u = get s.unplaced) (hnil : ∀ s, s.holds = false → get s = []) :
    (as.flatMap get).map u = ([.query r.query, .form r.form, .multipart r.multipart,
      .cookies r.cookies, .captures r.captures, .asserts r.asserts].flatMap get).map u := by
  rw [map_flatMap_unplaced hget h, all, flatMap_filter hnil]

theorem gathered {r : Request} {as : List RequestSection}
    (h : as.map (·.unplaced) = (all r).map (·.unplaced)) :
    (as.flatMap (·.getQuery)).map (·.unplaced) = r.query.map (·.unplaced) ∧
    (as.flatMap (·.getForm)).map (·.unplaced) = r.form.map (·.unplaced) ∧
    (as.flatMap (·.getMultipart)).map (·.unplaced) = r.multipart.map (·.unplaced) ∧
    (as.flatMap (·.getCookies)).map (·.unplaced) = r.cookies.map (·.unplaced) ∧
    (as.flatMap (·.getCaptures)).map (·.unplaced) = r.captures.map (·.unplaced) ∧
    (as.flatMap (·.getAsserts)).map (·.unplaced) = r.asserts.map (·.unplaced) := by
  -- a getter reads the lines of its own tag, and nothing from the other ones
  refine ⟨?_, ?_, ?_, ?_, ?_, ?_⟩ <;> refine (collected h _ (fun s => ?_) fun s hs => ?_).trans ?_
  all_goals first
    | cases s <;> rfl
    | cases s <;> simp_all [holds, getQuery, getForm, getMultipart, getCookies, getCaptures,
        getAsserts]
    | simp [getQuery, getForm, getMultipart, getCookies, getCaptures, getAsserts]

end RequestSection

/-- The alternatives for sections of a request. -/
def requestSectionRules : List (Rule RequestSection) :=
  [.query <$> fieldSection "QueryStringParams", .form <$> fieldSection "FormParams",
    .cookies <$> fieldSection "Cookies", .multipart <$> multipartSection,
    .captures <$> capturesSection, .asserts <$> assertsSection]

theorem opens_requestSections (comments : List Comment) {k : List Char}
    (hcomments : ∀ c ∈ comments, c.Printable) (hk : HeadNot isIdle k) :
    List.Forall₂ (Opens text (comments.flatMap w.comment ++ k) k) requestSectionRules
      sectionTitles := by
  have hline : ∀ {name : String} {α : Type} {r : Rule (List α)} {g : List α → RequestSection},
      Opens text (comments.flatMap w.comment ++ k) k
        (g <$> (sectionLine name >>= fun _ => r)) ("[" ++ name ++ "]") := fun h =>
    .map (.bind (.sectionLine ⟨comments, k, hcomments, rfl, hk, h⟩))
  exact .cons hline (.cons hline (.cons hline (.cons hline (.cons hline (.cons hline .nil)))))

theorem Rejects.requestSection (hl : Led w EndsSections l) :
    Rejects text Grammar.requestSection l := by
  obtain ⟨comments, k, hcomments, rfl, hk⟩ := hl
  exact .choice (rejects_of_opens (opens_requestSections _ hcomments hk.idle) hk.title)

theorem Reads.requestSection {s : RequestSection} (hs : s.Printable w) (hholds : s.holds = true)
    (hl : Led w EndsLines l) :
    Reads text requestSection (s.print w ++ l) l fun a => a.unplaced = s.unplaced := by
  have hopens : ∀ k, HeadNot isIdle k →
      List.Forall₂ (Opens text k k) requestSectionRules sectionTitles := fun k hk =>
    opens_requestSections (w := w) [] (by simp) hk
  cases s with
  | query fields =>
    have hne : fields ≠ [] := by simpa [RequestSection.holds] using hholds
    refine Reads.choice_lines hopens 0 rfl hne (by decide) ?_
    exact (Reads.fieldSection hne hs hl).map fun a ha => congrArg RequestSection.query ha
  | form fields =>
    have hne : fields ≠ [] := by simpa [RequestSection.holds] using hholds
    refine Reads.choice_lines hopens 1 rfl hne (by decide) ?_
    exact (Reads.fieldSection hne hs hl).map fun a ha => congrArg RequestSection.form ha
  | cookies fields =>
    have hne : fields ≠ [] := by simpa [RequestSection.holds] using hholds
    refine Reads.choice_lines hopens 2 rfl hne (by decide) ?_
    exact (Reads.fieldSection hne hs hl).map fun a ha => congrArg RequestSection.cookies ha
  | multipart parts =>
    have hne : parts ≠ [] := by simpa [RequestSection.holds] using hholds
    refine Reads.choice_lines hopens 3 rfl hne (by decide) ?_
    exact (Reads.multipartSection hne hs hl).map fun a ha => congrArg RequestSection.multipart ha
  | captures captures =>
    have hne : captures ≠ [] := by simpa [RequestSection.holds] using hholds
    refine Reads.choice_lines hopens 4 rfl hne (by decide) ?_
    exact (Reads.capturesSection hne hs hl).map fun a ha => congrArg RequestSection.captures ha
  | asserts asserts =>
    have hne : asserts ≠ [] := by simpa [RequestSection.holds] using hholds
    refine Reads.choice_lines hopens 5 rfl hne (by decide) ?_
    exact (Reads.assertsSection hne hs hl).map fun a ha => congrArg RequestSection.asserts ha

/-- **The sections of a request are read back.** -/
theorem Reads.requestSections {r : Request} (hr : r.Printable w) (hl : Led w EndsSections l) :
    Reads text (Rule.zeroOrMore Grammar.requestSection)
      ((RequestSection.all r).flatMap (·.print w) ++ l) l fun as =>
        as.map (·.unplaced) = (RequestSection.all r).map (·.unplaced) := by
  refine Reads.zeroOrMore_sections (fun s hs k hk => ?_) (fun s hs => ?_) hl (.requestSection hl)
  · obtain ⟨hprintable, hholds⟩ := RequestSection.printable_of_mem_all hr hs
    exact Reads.requestSection hprintable hholds hk
  · exact RequestSection.print_of_holds (RequestSection.printable_of_mem_all hr hs).2

/-! ### Sections of a response -/

namespace ResponseSection

/-- A section without positions. -/
def unplaced : ResponseSection → ResponseSection
  | captures l => .captures (l.map (·.unplaced))
  | asserts l => .asserts (l.map (·.unplaced))

/-- Whether a section has a line. -/
def holds : ResponseSection → Bool
  | captures l => !l.isEmpty
  | asserts l => !l.isEmpty

/-- A section as it is printed. -/
def print (w : Layout) : ResponseSection → List Char
  | captures l => w.lines "Captures" w.capture l
  | asserts l => w.lines "Asserts" w.assert l

/-- A section that can be printed. -/
def Printable (w : Layout) : ResponseSection → Prop
  | captures l => ∀ c ∈ l, c.Printable
  | asserts l => ∀ a ∈ l, a.Printable w

/-- The sections of a response that have lines, in the order in which they are printed. -/
def all (r : Response) : List ResponseSection :=
  [.captures r.captures, .asserts r.asserts].filter (·.holds)

theorem print_of_not_holds {s : ResponseSection} (h : s.holds = false) : s.print w = [] := by
  cases s with
  | _ l =>
    have hl : l = [] := by simpa [holds] using h
    rw [hl]
    rfl

theorem print_all (r : Response) : (all r).flatMap (·.print w) =
    w.lines "Captures" w.capture r.captures ++ w.lines "Asserts" w.assert r.asserts := by
  rw [all, flatMap_filter fun s => print_of_not_holds]
  simp [print]

theorem print_of_holds {s : ResponseSection} (h : s.holds = true) : ∃ k, s.print w = '[' :: k := by
  cases s with
  | _ l => exact lines_cons (by simpa [holds] using h)

theorem printable_of_mem_all {r : Response} (hr : r.Printable w) {s : ResponseSection}
    (hs : s ∈ all r) : s.Printable w ∧ s.holds = true := by
  obtain ⟨hs, hholds⟩ := List.mem_filter.mp hs
  refine ⟨?_, hholds⟩
  rcases List.mem_pair.mp hs with rfl | rfl
  · exact hr.captures
  · exact hr.asserts

/-- **Collecting what was read by tag** gives what the response holds. -/
theorem collected {γ : Type} {r : Response} {as : List ResponseSection}
    (h : as.map (·.unplaced) = (all r).map (·.unplaced)) (get : ResponseSection → List γ)
    {u : γ → γ} (hget : ∀ s, (get s).map u = get s.unplaced)
    (hnil : ∀ s, s.holds = false → get s = []) :
    (as.flatMap get).map u = ([.captures r.captures, .asserts r.asserts].flatMap get).map u := by
  rw [map_flatMap_unplaced hget h, all, flatMap_filter hnil]

/-- What was read holds of each kind what the response does. -/
theorem gathered {r : Response} {as : List ResponseSection}
    (h : as.map (·.unplaced) = (all r).map (·.unplaced)) :
    (as.flatMap (·.getCaptures)).map (·.unplaced) = r.captures.map (·.unplaced) ∧
    (as.flatMap (·.getAsserts)).map (·.unplaced) = r.asserts.map (·.unplaced) := by
  refine ⟨?_, ?_⟩ <;> refine (collected h _ (fun s => ?_) fun s hs => ?_).trans ?_
  all_goals first
    | cases s <;> rfl
    | cases s <;> simp_all [holds, getCaptures, getAsserts]
    | simp [getCaptures, getAsserts]

end ResponseSection

/-- The alternatives for sections of a response. -/
def responseSectionRules : List (Rule ResponseSection) :=
  [.captures <$> capturesSection, .asserts <$> assertsSection]

theorem opens_responseSections (comments : List Comment) {k : List Char}
    (hcomments : ∀ c ∈ comments, c.Printable) (hk : HeadNot isIdle k) :
    List.Forall₂ (Opens text (comments.flatMap w.comment ++ k) k) responseSectionRules
      (sectionTitles.drop 4) := by
  have hline : ∀ {name : String} {α : Type} {r : Rule (List α)} {g : List α → ResponseSection},
      Opens text (comments.flatMap w.comment ++ k) k
        (g <$> (sectionLine name >>= fun _ => r)) ("[" ++ name ++ "]") := fun h =>
    .map (.bind (.sectionLine ⟨comments, k, hcomments, rfl, hk, h⟩))
  exact .cons hline (.cons hline .nil)

theorem Rejects.responseSection (hl : Led w EndsSections l) :
    Rejects text Grammar.responseSection l := by
  obtain ⟨comments, k, hcomments, rfl, hk⟩ := hl
  exact .choice (rejects_of_opens (opens_responseSections _ hcomments hk.idle) fun name hname =>
    hk.title name (List.mem_of_mem_drop hname))

theorem Reads.responseSection {s : ResponseSection} (hs : s.Printable w) (hholds : s.holds = true)
    (hl : Led w EndsLines l) :
    Reads text responseSection (s.print w ++ l) l fun a => a.unplaced = s.unplaced := by
  have hopens : ∀ k, HeadNot isIdle k →
      List.Forall₂ (Opens text k k) responseSectionRules (sectionTitles.drop 4) := fun k hk =>
    opens_responseSections (w := w) [] (by simp) hk
  cases s with
  | captures captures =>
    have hne : captures ≠ [] := by simpa [ResponseSection.holds] using hholds
    refine Reads.choice_lines hopens 0 rfl hne (by decide) ?_
    exact (Reads.capturesSection hne hs hl).map fun a ha => congrArg ResponseSection.captures ha
  | asserts asserts =>
    have hne : asserts ≠ [] := by simpa [ResponseSection.holds] using hholds
    refine Reads.choice_lines hopens 1 rfl hne (by decide) ?_
    exact (Reads.assertsSection hne hs hl).map fun a ha => congrArg ResponseSection.asserts ha

/-- **The sections of a response are read back.** -/
theorem Reads.responseSections {r : Response} (hr : r.Printable w) (hl : Led w EndsSections l) :
    Reads text (Rule.zeroOrMore Grammar.responseSection)
      ((ResponseSection.all r).flatMap (·.print w) ++ l) l fun as =>
        as.map (·.unplaced) = (ResponseSection.all r).map (·.unplaced) := by
  refine Reads.zeroOrMore_sections (fun s hs k hk => ?_) (fun s hs => ?_) hl (.responseSection hl)
  · obtain ⟨hprintable, hholds⟩ := ResponseSection.printable_of_mem_all hr hs
    exact Reads.responseSection hprintable hholds hk
  · exact ResponseSection.print_of_holds (ResponseSection.printable_of_mem_all hr hs).2

end HttpScript.Grammar
