import HttpScript.Proofs.Grammar.Filenames

/-! # The files that a run reads

A run takes from the files only what is behind the names in its script, and it is known before the
run which paths these are.

* `Material.AgreeOn`: two materials in which some names stand for the same.
* `fill_congr`, `checks_congr`, `runEntries_congr`, `run_congr`: a run takes nothing from the files
  but what the names in the script stand for.
* `run_loaded`: so these can be read beforehand.
* `run_reads`: where the names of a script lead to that was read. Those that are not absolute lead
  to paths inside the directory for files; those that are absolute are opened as they are. -/

namespace HttpScript

namespace Run

/-! ### What names stand for -/

/-- **Two materials in which some names stand for the same.** -/
def Material.AgreeOn (m m' : Material) (names : List String) : Prop :=
  ∀ name ∈ names, ∀ p, m.read name p = m'.read name p

theorem Material.AgreeOn.mono {m m' : Material} {names names' : List String}
    (h : m.AgreeOn m' names) (hsub : ∀ name ∈ names', name ∈ names) : m.AgreeOn m' names' :=
  fun name hname => h name (hsub name hname)

theorem Material.agreeOn_of_read {f g : Files} {root : String} {names : List String}
    (h : ∀ name ∈ names, f.read (Path.join root name) = g.read (Path.join root name)) :
    Material.AgreeOn ⟨f, root⟩ ⟨g, root⟩ names := by
  intro name hname p
  unfold Material.read
  simp only [h name hname]

section

variable {m m' : Material}

theorem mapM_congr {α β : Type} {f g : α → Except Error β} {l : List α}
    (h : ∀ a ∈ l, f a = g a) : l.mapM f = l.mapM g := by
  induction l with
  | nil => rfl
  | cons a l ih =>
    have ha : f a = g a := h a (List.mem_cons_self ..)
    have hl : l.mapM f = l.mapM g := ih fun b hb => h b (List.mem_cons_of_mem a hb)
    rw [List.mapM_cons, List.mapM_cons, ha, hl]

/-! ### Requests and checks -/

theorem fillContent_congr {c : Script.Content} (s : Variables)
    (h : m.AgreeOn m' (App.fileOf? c).toList) : fillContent m s c = fillContent m' s c := by
  cases c with
  | file name p => exact h name (List.mem_singleton_self name) p
  | _ => rfl

theorem fillPart_congr {p : Script.Part} (s : Variables)
    (h : m.AgreeOn m' (App.fileOfPart? p).toList) : fillPart m s p = fillPart m' s p := by
  cases p with
  | text f => rfl
  | file f =>
    have hread := h f.filename (List.mem_singleton_self _) f.position
    unfold fillPart
    simp only [hread]

theorem fill_congr {e : Script.Entry} (s : Variables) (h : m.AgreeOn m' (App.filesOf e)) :
    e.request.fill m s = e.request.fill m' s := by
  have hbody : e.request.body.mapM (fillBody m s) = e.request.body.mapM (fillBody m' s) := by
    cases hb : e.request.body with
    | none => rfl
    | some b =>
      have hcontent := fillContent_congr (c := b.content) s
        (h.mono fun name hname => by simp [App.filesOf, hb, hname])
      unfold fillBody
      simp only [Option.mapM_some, hcontent]
  have hparts : e.request.multipart.mapM (fillPart m s) =
      e.request.multipart.mapM (fillPart m' s) :=
    mapM_congr fun p hp => fillPart_congr s (h.mono fun name hname => by
      have hfile : name ∈ e.request.multipart.filterMap App.fileOfPart? :=
        List.mem_filterMap.mpr ⟨p, hp, Option.mem_toList.mp hname⟩
      simp [App.filesOf, hfile])
  unfold Script.Request.fill
  rw [hbody, hparts]

theorem checks_congr {e : Script.Entry} (x : Exchange) (h : m.AgreeOn m' (App.filesOf e)) :
    checks e x m = checks e x m' := by
  unfold checks
  cases hr : e.response with
  | none => rfl
  | some r =>
    cases hb : r.body with
    | none => simp [checkExpected, hb]
    | some b =>
      have hcontent := fillContent_congr (c := b.content) x.store
        (h.mono fun name hname => by simp [App.filesOf, hr, hb, hname])
      have hbody : checkBody b x m = checkBody b x m' := by
        unfold checkBody
        rw [hcontent]
      simp [checkExpected, hb, hbody]

/-! ### Runs -/

variable {σ : Type}

theorem runEntry_congr (c : Client σ) {e : Script.Entry} (s : Variables) (w : σ)
    (h : m.AgreeOn m' (App.filesOf e)) : runEntry c m e s w = runEntry c m' e s w := by
  unfold runEntry conclude
  rw [fill_congr s h]
  simp only [checks_congr _ h]

theorem runEntries_congr (c : Client σ) (toEntry : Option Nat) {l : List Script.Entry}
    (h : m.AgreeOn m' (l.flatMap App.filesOf)) (number : Nat) (s : Variables) (w : σ) :
    runEntries c m toEntry number l s w = runEntries c m' toEntry number l s w := by
  induction l generalizing number s w with
  | nil => rfl
  | cons e l ih =>
    have hentry : ∀ s w, runEntry c m e s w = runEntry c m' e s w := fun s w =>
      runEntry_congr c s w (h.mono fun name hname => by simp [hname])
    have hrest := ih (h.mono fun name hname => by
      rw [List.flatMap_cons]
      exact List.mem_append_right _ hname)
    unfold runEntries
    simp only [hentry, hrest]

/-- **A run takes nothing from the files but what the names in its script stand for.** -/
theorem run_congr (c : Client σ) (toEntry : Option Nat) {script : Script}
    (h : m.AgreeOn m' script.filenames) (s : Variables) (w : σ) :
    script.run c m toEntry s w = script.run c m' toEntry s w := by
  unfold Script.run
  rw [runEntries_congr c toEntry h]

end

theorem read_loaded (f : Files) {paths : List String} {path : String} (h : path ∈ paths) :
    (App.loaded (paths.map fun path => (path, f.read path))).read path = f.read path := by
  unfold App.loaded
  dsimp only
  induction paths with
  | nil => cases h
  | cons q paths ih =>
    rw [List.map_cons, List.lookup_cons]
    by_cases hq : path = q
    · simp [hq]
    · rw [beq_false_of_ne hq]
      exact ih ((List.mem_cons.mp h).resolve_left hq)

/-- **The files of a script can be read before it is run.** -/
theorem run_loaded {σ : Type} (c : Client σ) (f : Files) (root : String) (toEntry : Option Nat)
    (script : Script) (s : Variables) (w : σ) :
    let paths := script.filenames.map (Path.join root)
    script.run c ⟨App.loaded (paths.map fun path => (path, f.read path)), root⟩ toEntry s w =
      script.run c ⟨f, root⟩ toEntry s w :=
  run_congr c toEntry
    (Material.agreeOn_of_read fun _ hname => read_loaded f (List.mem_map_of_mem hname)) s w

/-! ### Where names lead -/

/-- **Where the names in a script lead to that was read**, and what a run takes from the files.

A name that is not absolute leads to a path inside the directory for files, and what is read there
in a tree of files stands below the place of that directory. A name that is absolute is opened as it
is. Runs with files that agree inside the directory, and at the absolute names of the script, are
the same. -/
theorem run_reads {text : String} {script : Script} (h : Script.read? text = .ok script)
    (root : String) :
    (∀ name ∈ script.filenames, Path.isAbsolute name = false →
      Path.Inside root (Path.join root name) ∧
      ∀ (t : Files.Tree) (content : List UInt8), t.read (Path.join root name) = .ok content →
        ∃ d place, t.follow [] (Path.names root) = .ok d ∧ d <+: place ∧
          t.entry? place = some (.file content)) ∧
    (∀ name ∈ script.filenames, Path.isAbsolute name = true → Path.join root name = name) ∧
    ∀ f g : Files, (∀ path, Path.Inside root path → f.read path = g.read path) →
      (∀ name ∈ script.filenames, Path.isAbsolute name = true → f.read name = g.read name) →
      ∀ {σ : Type} (c : Client σ) (toEntry : Option Nat) (s : Variables) (w : σ),
        script.run c ⟨f, root⟩ toEntry s w = script.run c ⟨g, root⟩ toEntry s w := by
  have hnames := Script.isFilename_of_mem_filenames h
  have hinside : ∀ name ∈ script.filenames, Path.isAbsolute name = false →
      Path.Inside root (Path.join root name) := fun name hname hrelative =>
    Path.inside_join hrelative (hnames name hname).not_parent root
  refine ⟨fun name hname hrelative => ?_, fun name _ habsolute =>
    Path.join_of_absolute habsolute root, fun f g hfg habsolutes σ c toEntry s w => ?_⟩
  · have hpath := hinside name hname hrelative
    exact ⟨hpath, fun t content hread => Files.Tree.read_inside hpath hread⟩
  · refine run_congr c toEntry (Material.agreeOn_of_read fun name hname => ?_) s w
    cases hkind : Path.isAbsolute name with
    | true =>
      rw [Path.join_of_absolute hkind]
      exact habsolutes name hname hkind
    | false => exact hfg _ (hinside name hname hkind)

/-- A script that names a file as a body, as a part of a form and, by an absolute name, as an
expected body. -/
theorem run_reads_upload :
    let text := "POST http://h\n[MultipartFormData]\nk: file,a/g;\nfile,f;\n" ++
      "HTTP/1.1 200\nfile,/f;\n"
    ∃ script, (Script.read? text = .ok script ∧ script.filenames = ["f", "a/g", "/f"]) ∧
      (∀ name ∈ script.filenames, Path.isAbsolute name = false →
        Path.Inside "r" (Path.join "r" name) ∧
        ∀ (t : Files.Tree) (content : List UInt8), t.read (Path.join "r" name) = .ok content →
          ∃ d place, t.follow [] (Path.names "r") = .ok d ∧ d <+: place ∧
            t.entry? place = some (.file content)) ∧
      (∀ name ∈ script.filenames, Path.isAbsolute name = true → Path.join "r" name = name) ∧
      ∀ f g : Files, (∀ path, Path.Inside "r" path → f.read path = g.read path) →
        (∀ name ∈ script.filenames, Path.isAbsolute name = true → f.read name = g.read name) →
        ∀ {σ : Type} (c : Client σ) (toEntry : Option Nat) (s : Variables) (w : σ),
          script.run c ⟨f, "r"⟩ toEntry s w = script.run c ⟨g, "r"⟩ toEntry s w := by
  intro text
  have hnames : (Script.read? text).toOption.map Script.filenames = some ["f", "a/g", "/f"] := by
    decide +kernel
  cases hread : Script.read? text with
  | error e =>
    rw [hread] at hnames
    cases hnames
  | ok script =>
    rw [hread] at hnames
    exact ⟨script, ⟨rfl, Option.some.inj hnames⟩, run_reads hread "r"⟩

/-- A name that is absolute leads outside, and what is there goes into the request. -/
theorem outside_of_absolute :
    let text := "POST http://h\nfile,/f;\n"
    let f : Files := ⟨fun path => if path = "/f" then .ok [1] else .error .missing⟩
    ∃ script, Script.read? text = .ok script ∧ script.filenames = ["/f"] ∧
      ¬ Path.Inside "r" (Path.join "r" "/f") ∧
      script.entries.map (fun e => ((e.request.fill ⟨f, "r"⟩ .empty).toOption.bind (·.body)).map
        (·.content)) = [some [1]] := by
  intro text f
  have hread : (Script.read? text).toOption.map (fun script => (script.filenames,
      script.entries.map fun e => ((e.request.fill ⟨f, "r"⟩ .empty).toOption.bind (·.body)).map
        (·.content))) = some (["/f"], [some [1]]) := by
    decide +kernel
  have houtside : ¬ Path.Inside "r" (Path.join "r" "/f") := by
    rw [Path.join_of_absolute (by decide) "r"]
    exact Path.not_inside_of_absolute (by decide) (by decide)
  cases hscript : Script.read? text with
  | error e =>
    rw [hscript] at hread
    cases hread
  | ok script =>
    rw [hscript] at hread
    obtain ⟨hnames, hbodies⟩ := Prod.mk.inj (Option.some.inj hread)
    exact ⟨script, rfl, hnames, houtside, hbodies⟩

end Run

end HttpScript
