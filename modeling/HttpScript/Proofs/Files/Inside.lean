import HttpScript.Files

/-! # Paths inside a directory

From a directory, a name that is not absolute and does not refer to a parent directory leads to a
path *inside* that directory.

* `Path.infix_of_mem_splitOn`: the names in a path are parts of it.
* `Path.Inside`: the paths inside a directory. `Path.inside_join` gives them.
* `Path.names_join`: the names behind the directory come after those of the directory.
* `Files.Tree.read_inside`: what is read in a tree of files under a path inside a directory stands
  below the place of that directory. -/

namespace HttpScript

namespace Path

/-- Whether a path does not depend on a directory. -/
def isAbsolute (path : String) : Bool := path.toList.head? == some '/'

/-- What stands between a directory and a name in it. -/
def separator (root : String) : String :=
  if root = "" ∨ root.toList.getLast? = some '/' then "" else "/"

/-- **The paths inside a directory**: behind the directory comes a path that is not absolute and in
which no name is that of a parent directory. -/
def Inside (root path : String) : Prop :=
  ∃ below, isAbsolute below = false ∧ ".." ∉ names below ∧ path = root ++ separator root ++ below

/-! ### Names in a path -/

/-- The pieces between separators are parts of a list; the first one begins it. -/
theorem splitOn_spec (a : Char) (l : List Char) :
    ∃ first rest, l.splitOn a = first :: rest ∧ first <+: l ∧ ∀ piece ∈ rest, piece <:+: l := by
  induction l with
  | nil => exact ⟨[], [], rfl, List.prefix_rfl, by simp⟩
  | cons c l ih =>
    obtain ⟨first, rest, heq, hfirst, hrest⟩ := ih
    have hl : l <:+: c :: l := (List.suffix_cons c l).isInfix
    rw [List.splitOn_eq_splitOnP] at heq ⊢
    rw [List.splitOnP_cons_eq_if_modifyHead, heq]
    by_cases hc : (c == a) = true
    · refine ⟨[], first :: rest, if_pos hc, List.nil_prefix, fun piece hpiece => ?_⟩
      rcases List.mem_cons.mp hpiece with rfl | hpiece
      · exact hfirst.isInfix.trans hl
      · exact (hrest piece hpiece).trans hl
    · exact ⟨c :: first, rest, if_neg hc, (List.prefix_cons_inj c).mpr hfirst,
        fun piece hpiece => (hrest piece hpiece).trans hl⟩

theorem infix_of_mem_splitOn {a : Char} {l piece : List Char} (h : piece ∈ l.splitOn a) :
    piece <:+: l := by
  obtain ⟨first, rest, heq, hfirst, hrest⟩ := splitOn_spec a l
  rcases List.mem_cons.mp (heq ▸ h) with rfl | hpiece
  · exact hfirst.isInfix
  · exact hrest piece hpiece

theorem infix_of_mem_names {path name : String} (h : name ∈ names path) :
    name.toList <:+: path.toList := by
  obtain ⟨piece, hpiece, rfl⟩ := List.mem_map.mp (List.mem_filter.mp h).1
  rw [String.toList_ofList]
  exact infix_of_mem_splitOn hpiece

theorem names_slash {path before behind : String}
    (h : path.toList = before.toList ++ '/' :: behind.toList) :
    names path = names before ++ names behind := by
  unfold names
  rw [h, List.splitOn_append_cons_self, List.map_append, List.filter_append]

/-! ### Joining -/

theorem join_of_absolute {name : String} (h : isAbsolute name = true) (root : String) :
    join root name = name :=
  if_pos (.inl (by simpa [isAbsolute] using h))

theorem join_of_not_absolute {name : String} (h : isAbsolute name = false) (root : String) :
    join root name = root ++ separator root ++ name := by
  have hname : name.toList.head? ≠ some '/' := by simpa [isAbsolute] using h
  unfold join separator
  by_cases hroot : root = ""
  · simp [hroot]
  · simp only [hname, hroot, false_or, if_false]
    split <;> simp

theorem names_join {name : String} (h : isAbsolute name = false) (root : String) :
    names (join root name) = names root ++ names name := by
  rw [join_of_not_absolute h]
  unfold separator
  by_cases hroot : root = ""
  · subst hroot
    have hnone : names "" = [] := by decide
    simp [hnone]
  · by_cases hlast : root.toList.getLast? = some '/'
    · rw [if_pos (.inr hlast)]
      obtain ⟨before, hbefore⟩ := List.getLast?_eq_some_iff.mp hlast
      -- the slash at the end of the directory is the one between them
      have hroot : names root = names (.ofList before) ++ names "" :=
        names_slash (by simpa using hbefore)
      have hpath : names (root ++ "" ++ name) = names (.ofList before) ++ names name :=
        names_slash (by simp [hbefore])
      have hnone : names "" = [] := by decide
      rw [hpath, hroot, hnone, List.append_nil]
    · rw [if_neg (by simp [hroot, hlast])]
      exact names_slash (by simp)

/-- **A name that is not absolute leads inside**, unless it refers to a parent directory. -/
theorem inside_join {name : String} (h : isAbsolute name = false) (hup : ".." ∉ names name)
    (root : String) : Inside root (join root name) :=
  ⟨name, h, hup, join_of_not_absolute h root⟩

theorem Inside.names_eq {root path : String} (h : Inside root path) :
    ∃ below, names path = names root ++ below ∧ ".." ∉ below := by
  obtain ⟨below, habsolute, hup, rfl⟩ := h
  exact ⟨names below, by rw [← join_of_not_absolute habsolute, names_join habsolute], hup⟩

/-- No absolute path is inside a directory that depends on where one is. -/
theorem not_inside_of_absolute {root path : String} (hroot : isAbsolute root = false)
    (h : isAbsolute path = true) : ¬ Inside root path := by
  rintro ⟨below, hbelow, -, rfl⟩
  have hjoin : isAbsolute (root ++ separator root ++ below) = false := by
    by_cases hempty : root = ""
    · simpa [hempty, separator] using hbelow
    · have hne : root.toList ≠ [] := mt String.toList_eq_nil_iff.mp hempty
      simpa [isAbsolute, List.head?_append, List.head?_eq_some_head hne] using hroot
  rw [hjoin] at h
  exact Bool.noConfusion h

end Path

namespace Files.Tree

variable {t : Tree} {place found : List String}

theorem follow_append {a b : List String} (h : t.follow place (a ++ b) = .ok found) :
    ∃ d, t.follow place a = .ok d ∧ t.follow d b = .ok found := by
  induction a generalizing place with
  | nil => exact ⟨place, rfl, h⟩
  | cons n a ih =>
    rw [List.cons_append, follow] at h
    rw [follow]
    by_cases hlong : 255 < n.utf8ByteSize
    · simp [hlong] at h
    · simp only [hlong, if_false] at h ⊢
      by_cases hup : n = ".."
      · simp only [hup, if_true] at h ⊢
        exact ih h
      · simp only [hup, if_false] at h ⊢
        split at h
        · cases h
        · exact ih h
        · -- nothing can follow a file
          cases a with
          | nil =>
            cases b with
            | nil => exact ⟨place ++ [n], rfl, h⟩
            | cons m b => simp at h
          | cons m a => simp at h

/-- Without going to a parent, one stays below the place where one began. -/
theorem prefix_of_follow {l : List String} (hup : ".." ∉ l) (h : t.follow place l = .ok found) :
    place <+: found := by
  induction l generalizing place with
  | nil =>
    rw [follow] at h
    obtain rfl := Except.ok.inj h
    exact List.prefix_rfl
  | cons n l ih =>
    have hn : n ≠ ".." := fun hn => hup (by simp [hn])
    have hl : ".." ∉ l := fun hl => hup (List.mem_cons_of_mem n hl)
    rw [follow] at h
    simp only [hn, if_false] at h
    split at h
    · cases h
    · split at h
      · cases h
      · exact (List.prefix_append place [n]).trans (ih hl h)
      · split at h
        · rw [← Except.ok.inj h]
          exact List.prefix_append place [n]
        · cases h

theorem read_place {path : String} {content : List UInt8} (h : t.read path = .ok content) :
    ∃ found, t.follow [] (Path.names path) = .ok found ∧
      t.entry? found = some (.file content) := by
  unfold read at h
  simp only [bind, Except.bind, pure, Except.pure, throw, throwThe, MonadExceptOf.throw] at h
  -- the path itself has to be one that can be followed
  by_cases hnul : path.toList.contains '\x00' = true
  · rw [if_pos hnul] at h
    cases h
  by_cases hempty : path = ""
  · rw [if_neg hnul, if_pos hempty] at h
    cases h
  by_cases habsolute : path.toList.head? = some '/'
  · rw [if_neg hnul, if_neg hempty, if_pos habsolute] at h
    cases h
  rw [if_neg hnul, if_neg hempty, if_neg habsolute] at h
  cases hfollow : t.follow [] (Path.names path) with
  | error e => simp [hfollow] at h
  | ok found =>
    simp only [hfollow] at h
    split at h
    · rename_i hentry
      split at h
      · cases h
      · exact ⟨found, rfl, by rw [hentry, Except.ok.inj h]⟩
    · cases h

/-- **What is read under a path inside a directory stands below the place of the directory.** -/
theorem read_inside {root path : String} {content : List UInt8} (hpath : Path.Inside root path)
    (h : t.read path = .ok content) :
    ∃ d found, t.follow [] (Path.names root) = .ok d ∧ d <+: found ∧
      t.entry? found = some (.file content) := by
  obtain ⟨found, hfound, hcontent⟩ := read_place h
  obtain ⟨below, hnames, hup⟩ := hpath.names_eq
  rw [hnames] at hfound
  obtain ⟨d, hd, hbelow⟩ := follow_append hfound
  exact ⟨d, found, hd, prefix_of_follow hup hbelow, hcontent⟩

end Files.Tree

end HttpScript
