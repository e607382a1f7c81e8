import HttpScript.Url.Read

/-! # URLs that are read

A URL comes from a text, from a reference to another URL, or from one with more of a query. Where its
scheme is special it then has a host and a path that begins with a slash.

* `Url.Formed`: the URLs that there are.
* `Url.Complete`: what a special scheme asks for, kept by each step of a reading.
* `Url.Formed.complete`: every URL is complete. -/

namespace HttpScript.Url

/-- **A URL that can come about.** -/
inductive Formed : Url → Prop
  | read {s : String} {u : Url} (h : read? s = some u) : Formed u
  | join {base u : Url} {s : String} (hbase : Formed base) (h : base.join? s = some u) : Formed u
  | query {u : Url} (h : Formed u) (l : List (String × String)) : Formed (u.appendQuery l)

/-- **A URL with a host and a segment in its path**, if its scheme is special. -/
def Complete (u : Url) : Prop :=
  isSpecial u.scheme = true → u.host.isSome = true ∧ ∃ s l, u.path = .segments (s :: l)

/-! ### The steps of a reading -/

theorem walk_ne_nil {l : List (List Char)} (hl : l ≠ []) (reversed : List String) :
    walk reversed l ≠ [] := by
  induction l generalizing reversed with
  | nil => exact absurd rfl hl
  | cons s l ih =>
    have hstay : ∀ r, walk (if l.isEmpty then "" :: r else r) l ≠ [] := by
      intro r
      cases l with
      | nil => simp [walk]
      | cons t l => exact ih (by simp) _
    unfold walk
    dsimp only
    split
    · exact hstay _
    · split
      · exact hstay _
      · cases l with
        | nil => simp [walk]
        | cons t l => exact ih (by simp) _

theorem exists_pathIn (special : Bool) (directory : List String) (l : List Char) :
    ∃ s l', pathIn special directory l = .segments (s :: l') := by
  have hpieces : pieces special l ≠ [] := List.splitOnP_ne_nil _ _
  obtain ⟨s, l', h⟩ := List.exists_cons_of_ne_nil (walk_ne_nil hpieces directory.reverse)
  exact ⟨s, l', by rw [pathIn, h]⟩

theorem Complete.of_some {u v : Url} (hv : Complete v) (h : some v = some u) : Complete u := by
  cases h
  exact hv

theorem Complete.tail {u : Url} (h : Complete u) (l : List Char) : Complete (tail u l) := by
  unfold Url.tail
  split <;> exact h

theorem complete_pathIn {u : Url} (hhost : isSpecial u.scheme = true → u.host.isSome = true)
    (special : Bool) (directory : List String) (l : List Char) :
    Complete { u with path := pathIn special directory l } := by
  obtain ⟨s, l', h⟩ := exists_pathIn special directory l
  exact fun hspecial => ⟨hhost hspecial, s, l', h⟩

theorem complete_pathAndTail {u : Url} (hhost : isSpecial u.scheme = true → u.host.isSome = true)
    (l : List Char) : Complete (pathAndTail u l) := by
  unfold pathAndTail
  dsimp only
  split
  · refine Complete.tail ?_ _
    intro hspecial
    have hroot : isSpecial u.scheme = true := hspecial
    exact ⟨hhost hroot, "", [], by simp [hroot]⟩
  · exact (complete_pathIn hhost _ _ _).tail _

/-- A host that was read completes a URL, whatever port comes behind it. -/
theorem complete_bind_host {u : Url} {host? : Option Host} {port? : Option (Option Nat)}
    {url : Host → Option Nat → Url} {l : List Char}
    (hurl : ∀ host port, (url host port).host.isSome = true)
    (h : (host?.bind fun host => port?.bind fun port => some (pathAndTail (url host port) l)) =
      some u) : Complete u := by
  obtain ⟨host, -, h⟩ := Option.bind_eq_some_iff.mp h
  obtain ⟨port, -, h⟩ := Option.bind_eq_some_iff.mp h
  exact Complete.of_some (complete_pathAndTail (fun _ => hurl host port) _) h

theorem complete_authority? {scheme : String} {l : List Char} {u : Url}
    (h : authority? scheme l = some u) : Complete u := by
  unfold authority? at h
  dsimp only at h
  -- with a user and without one
  split at h
  all_goals
    split at h
    · cases h
    · split at h
      · exact complete_bind_host (fun _ _ => rfl) h
      · exact complete_bind_host (fun _ _ => rfl) h

theorem complete_file? {l : List Char} {u : Url} (h : file? l = some u) : Complete u := by
  unfold file? at h
  dsimp only at h
  split at h
  · split at h
    · split at h
      · exact Complete.of_some (complete_pathAndTail (fun _ => rfl) _) h
      · obtain ⟨host, -, h⟩ := Option.bind_eq_some_iff.mp h
        exact Complete.of_some (complete_pathAndTail (fun _ => rfl) _) h
    · exact Complete.of_some (complete_pathAndTail (fun _ => rfl) _) h
  · exact Complete.of_some (complete_pathAndTail (fun _ => rfl) _) h

theorem complete_afterScheme? {scheme : String} {l : List Char} {u : Url}
    (h : afterScheme? scheme l = some u) : Complete u := by
  unfold afterScheme? at h
  split at h
  · exact complete_file? h
  · split at h
    · exact complete_authority? h
    · -- a scheme that is not special asks for nothing
      rename_i hplain
      dsimp only at h
      split at h
      · exact complete_authority? h
      · exact Complete.of_some (complete_pathAndTail (fun hspecial => absurd hspecial hplain) _) h
      · exact Complete.of_some (Complete.tail (fun hspecial => absurd hspecial hplain) _) h

theorem Complete.relative? {base u : Url} {l : List Char} (hbase : Complete base)
    (h : relative? base l = some u) : Complete u := by
  have hhost : isSpecial base.scheme = true → base.host.isSome = true := fun hs => (hbase hs).1
  unfold Url.relative? at h
  dsimp only at h
  split at h
  · rw [← Option.some.inj h]
    exact hbase
  · rw [← Option.some.inj h]
    exact hbase
  · cases h
  · split at h
    · exact Complete.of_some (hbase.tail _) h
    · split at h
      · split at h
        · split at h
          · split at h
            · exact complete_file? h
            · exact complete_authority? h
          · exact Complete.of_some (complete_pathAndTail hhost _) h
        · exact Complete.of_some (complete_pathAndTail hhost _) h
      · exact Complete.of_some ((complete_pathIn hhost _ _ _).tail _) h

/-- A joined URL is complete where the URL is that it is joined to. -/
theorem Complete.join? {base u : Url} {s : String} (hbase : Complete base)
    (h : base.join? s = some u) : Complete u := by
  unfold Url.join? at h
  dsimp only at h
  split at h
  · exact hbase.relative? h
  · split at h
    · split at h
      · exact complete_file? h
      · exact hbase.relative? h
    · exact complete_afterScheme? h

theorem complete_read? {s : String} {u : Url} (h : read? s = some u) : Complete u := by
  obtain ⟨p, -, h⟩ := Option.bind_eq_some_iff.mp h
  exact complete_afterScheme? h

theorem Complete.appendQuery {u : Url} (h : Complete u) (l : List (String × String)) :
    Complete (u.appendQuery l) := by
  unfold Url.appendQuery
  split
  · exact h
  · dsimp only
    split <;> exact h

/-- **Every URL is complete.** -/
theorem Formed.complete {u : Url} (h : Formed u) : Complete u := by
  induction h with
  | read h => exact complete_read? h
  | join _ h ih => exact ih.join? h
  | query _ l ih => exact ih.appendQuery l

/-! ### What is written -/

/-- A URL with a special scheme has a host, -/
theorem Complete.hostText? {u : Url} (h : Complete u) (hspecial : isSpecial u.scheme = true) :
    ∃ host, u.hostText? = some host := by
  obtain ⟨host, hhost⟩ := Option.isSome_iff_exists.mp (h hspecial).1
  exact ⟨host.text, by simp [Url.hostText?, hhost]⟩

/-- and its path begins with a slash. -/
theorem Complete.pathText {u : Url} (h : Complete u) (hspecial : isSpecial u.scheme = true) :
    ∃ l, u.pathText.toList = '/' :: l := by
  obtain ⟨-, s, l, hpath⟩ := h hspecial
  rw [Url.pathText, hpath]
  simp [Path.text]

end HttpScript.Url
