import HttpScript.Cookie.Path

/-! # What a cookie path finds

A cookie path is the name of a cookie, which holds no opening bracket, or such a name with an aspect
in brackets (`Asks`). The headers are read in order up to the one that sets the cookie: a header
before it that sets no cookie at all is a fault, and the headers behind it are not looked at.

* `ofName?_eq_some_iff`, `asks_iff`: what a path asks for, by how it is written.
* `shows_ofCookie`: the value of an aspect, by the attributes of the cookie.
* `find_outcomes`: **everything that a search can come to**, for every path and all headers.
* `find_beyond_bracket`: what stands behind the closing bracket of a path is not looked at. -/

namespace HttpScript

/-- The first attribute of a name, with its value if it has one. -/
def SetCookie.First (c : SetCookie) (word : String) (o : Option String) : Prop :=
  ∃ before after, c.attributes = before ++ (word, o) :: after ∧ ∀ a ∈ before, a.1 ≠ word

theorem SetCookie.attribute?_eq_some_iff {c : SetCookie} {word : String} {o : Option String} :
    c.attribute? word = some o ↔ c.First word o := by
  unfold attribute? First
  rw [Option.map_eq_some_iff]
  constructor
  · rintro ⟨⟨w, o'⟩, hfind, rfl⟩
    obtain ⟨hw, before, after, hsplit, hbefore⟩ := List.find?_eq_some_iff_append.mp hfind
    obtain rfl : w = word := by simpa using hw
    exact ⟨before, after, hsplit, fun a ha => by simpa using hbefore a ha⟩
  · rintro ⟨before, after, hsplit, hbefore⟩
    refine ⟨(word, o), List.find?_eq_some_iff_append.mpr ⟨by simp, before, after, hsplit, ?_⟩, rfl⟩
    exact fun a ha => by simpa using hbefore a ha

theorem SetCookie.attribute?_eq_none_iff {c : SetCookie} {word : String} :
    c.attribute? word = none ↔ ∀ a ∈ c.attributes, a.1 ≠ word := by
  simp [attribute?]

namespace CookiePath

/-! ### How a path is written -/

/-- **How a path is written** that asks for an aspect of the cookie `name`. Behind the closing
bracket stand the characters `beyond`. -/
inductive Asks (name : List Char) : Aspect → List Char → List Char → Prop
  | value (hname : '[' ∉ name) : Asks name .value name []
  | aspect {inner : List Char} {word : String} {a : Aspect} (hname : '[' ∉ name)
      (hword : (word, a) ∈ Aspect.all) (hinner : Text.lowered inner = word.toList)
      (beyond : List Char) : Asks name a (name ++ '[' :: (inner ++ ']' :: beyond)) beyond

theorem ofName?_eq_some_iff {l : List Char} {a : Aspect} :
    Aspect.ofName? l = some a ↔ ∃ word, (word, a) ∈ Aspect.all ∧ Text.lowered l = word.toList := by
  have hkeys : Aspect.all.Pairwise (fun x y => x.1 ≠ y.1) := by decide
  unfold Aspect.ofName?
  rw [List.lookup_eq_some_iff]
  constructor
  · rintro ⟨before, after, hsplit, -⟩
    refine ⟨.ofList (Text.lowered l), ?_, by rw [String.toList_ofList]⟩
    rw [hsplit]
    exact List.mem_append_right _ (List.mem_cons_self ..)
  · rintro ⟨word, hmem, hl⟩
    rw [hl, String.ofList_toList]
    obtain ⟨before, after, hsplit⟩ := List.append_of_mem hmem
    refine ⟨before, after, hsplit, fun x hx => ?_⟩
    rw [hsplit, List.pairwise_append] at hkeys
    have hne := hkeys.2.2 x hx (word, a) (by simp)
    simpa using hne.symm

theorem closing_not_mem {inner : List Char} {word : String} {a : Aspect}
    (hword : (word, a) ∈ Aspect.all) (hinner : Text.lowered inner = word.toList) :
    ']' ∉ inner := by
  have hwords : ∀ x ∈ Aspect.all, ']' ∉ x.1.toList := by decide
  intro hmem
  have hlower : ']' ∈ Text.lowered inner := List.mem_map.mpr ⟨']', hmem, rfl⟩
  rw [hinner] at hlower
  exact hwords _ hword hlower

/-- **What a path is read as**, whatever stands behind its closing bracket. -/
theorem asks_iff {s name : String} {a : Aspect} :
    read? s = some ⟨name, a⟩ ↔ ∃ beyond, Asks name.toList a s.toList beyond := by
  constructor
  · intro h
    unfold read? at h
    split at h
    · rename_i hsplit
      cases h
      exact ⟨[], .value (Text.splitOnce_eq_none_iff.mp hsplit)⟩
    · rename_i w l hsplit
      obtain ⟨hw, hs⟩ := Text.splitOnce_eq_some_iff.mp hsplit
      simp only [Option.bind_eq_bind, Option.bind_eq_some_iff, Option.pure_def, Option.some.injEq,
        Prod.exists, CookiePath.mk.injEq] at h
      obtain ⟨inner, beyond, hinner, _, ha, rfl, rfl⟩ := h
      obtain ⟨-, rfl⟩ := Text.splitOnce_eq_some_iff.mp hinner
      obtain ⟨word, hword, hlower⟩ := ofName?_eq_some_iff.mp ha
      refine ⟨beyond, ?_⟩
      rw [hs, String.toList_ofList]
      exact .aspect hw hword hlower beyond
  · rintro ⟨beyond, h⟩
    generalize hs : s.toList = l at h
    unfold read?
    cases h with
    | value hname =>
      rw [hs, Text.splitOnce_eq_none_iff.mpr hname, String.toList_inj.mp hs]
    | aspect hname hword hinner =>
      have ha := ofName?_eq_some_iff.mpr ⟨_, hword, hinner⟩
      have hclosing := closing_not_mem hword hinner
      rw [hs, Text.splitOnce_append hname]
      simp [Text.splitOnce_append hclosing, ha]

/-! ### What a cookie shows -/

/-- **The value of an aspect**, by the first attribute of its name. -/
inductive Shows (c : SetCookie) : Aspect → Except Fault Value → Prop
  | value : Shows c .value (.ok (.string c.value))
  | text {word s : String} {a : Aspect} (ha : a ∈ [.expires, .domain, .path, .sameSite])
      (hword : (word, a) ∈ Aspect.all) (h : c.First word (some s)) : Shows c a (.ok (.string s))
  | flag {word : String} {o : Option String} {a : Aspect} (ha : a ∈ [.secure, .httpOnly])
      (hword : (word, a) ∈ Aspect.all) (h : c.First word o) : Shows c a (.ok (.bool true))
  | number {s : String} {n : Int} (h : c.First "max-age" (some s))
      (hn : Decimal.int64? s.toList = some n) : Shows c .maxAge (.ok (.number (Float.ofInt n)))
  | noNumber {s : String} (h : c.First "max-age" (some s)) (hn : Decimal.int64? s.toList = none) :
      Shows c .maxAge (.error (.maxAge s))
  /-- The attribute has no value, but is asked for one. -/
  | bare {word : String} {a : Aspect} (ha : a ∉ [.value, .secure, .httpOnly])
      (hword : (word, a) ∈ Aspect.all) (h : c.First word none) : Shows c a (.ok .none)
  | absent {word : String} {a : Aspect} (ha : a ≠ .value) (hword : (word, a) ∈ Aspect.all)
      (h : ∀ x ∈ c.attributes, x.1 ≠ word) : Shows c a (.ok .none)

section

variable {c : SetCookie} {word : String} {a : Aspect}

theorem shows_textOf (ha : a ∈ [.expires, .domain, .path, .sameSite])
    (hword : (word, a) ∈ Aspect.all) : Shows c a (.ok (textOf c word)) := by
  have hother : a ∉ [.value, .secure, .httpOnly] ∧ a ≠ .value := by
    revert ha
    cases a <;> decide
  unfold textOf SetCookie.attributeValue?
  cases h : c.attribute? word with
  | none => exact .absent hother.2 hword (SetCookie.attribute?_eq_none_iff.mp h)
  | some o =>
    have hfirst := SetCookie.attribute?_eq_some_iff.mp h
    cases o with
    | none => exact .bare hother.1 hword hfirst
    | some s => exact .text ha hword hfirst

theorem shows_flagOf (ha : a ∈ [.secure, .httpOnly]) (hword : (word, a) ∈ Aspect.all) :
    Shows c a (.ok (flagOf c word)) := by
  have hother : a ≠ .value := by
    revert ha
    cases a <;> decide
  unfold flagOf
  cases h : c.attribute? word with
  | none => exact .absent hother hword (SetCookie.attribute?_eq_none_iff.mp h)
  | some o => exact .flag ha hword (SetCookie.attribute?_eq_some_iff.mp h)

theorem shows_maxAge (c : SetCookie) : Shows c .maxAge (Aspect.maxAge.ofCookie c) := by
  unfold Aspect.ofCookie SetCookie.attributeValue?
  cases h : c.attribute? "max-age" with
  | none => exact .absent (by decide) (by decide) (SetCookie.attribute?_eq_none_iff.mp h)
  | some o =>
    have hfirst := SetCookie.attribute?_eq_some_iff.mp h
    cases o with
    | none => exact .bare (by decide) (by decide) hfirst
    | some s =>
      dsimp only [Option.join_some]
      cases hn : Decimal.int64? s.toList with
      | none => exact .noNumber hfirst hn
      | some n => exact .number hfirst hn

theorem shows_ofCookie (c : SetCookie) (a : Aspect) : Shows c a (a.ofCookie c) := by
  cases a with
  | value => exact .value
  | maxAge => exact shows_maxAge c
  | expires | domain | path | sameSite => exact shows_textOf (by decide) (by decide)
  | secure | httpOnly => exact shows_flagOf (by decide) (by decide)

end

/-! ### The header that sets the cookie -/

/-- A header whose first pair has no `=`. -/
def SetsNone (header : String) : Prop := '=' ∉ header.toList.takeWhile (· ≠ ';')

/-- Headers that set cookies, but none of the name. -/
def PassedOver (name : String) (headers : List String) : Prop :=
  ∀ h ∈ headers, ∃ c, SetCookie.read? h = some c ∧ c.name ≠ name

/-- A header sets no cookie if and only if its first pair has no `=`. -/
theorem read?_eq_none_iff {header : String} : SetCookie.read? header = none ↔ SetsNone header := by
  have hpair : ∀ l : List Char, ∃ attributes,
      l.splitOn ';' = l.takeWhile (· ≠ ';') :: attributes := fun l => by
    induction l with
    | nil => exact ⟨[], rfl⟩
    | cons c l ih =>
      obtain ⟨attributes, ih⟩ := ih
      rw [List.splitOn_eq_splitOnP] at ih ⊢
      rw [List.splitOnP_cons_eq_if_modifyHead, ih]
      by_cases hc : c = ';'
      · exact ⟨l.takeWhile (· ≠ ';') :: attributes, by simp [hc]⟩
      · exact ⟨attributes, by simp [hc]⟩
  obtain ⟨attributes, hsplit⟩ := hpair header.toList
  unfold SetCookie.read? SetsNone
  rw [hsplit, ← Text.splitOnce_eq_none_iff]
  generalize header.toList.takeWhile (· ≠ ';') = pair
  cases h : Text.splitOnce '=' pair <;> simp [h]

section

variable {name : String} {before headers : List String} {h : String}

theorem firstNamed_append (hbefore : PassedOver name before) (l : List String) :
    firstNamed name (before ++ l) = firstNamed name l := by
  induction before with
  | nil => rfl
  | cons b before ih =>
    obtain ⟨c, hc, hne⟩ := hbefore b (List.mem_cons_self ..)
    rw [List.cons_append, firstNamed, hc]
    dsimp only
    rw [if_neg hne]
    exact ih fun h hh => hbefore h (List.mem_cons_of_mem _ hh)

theorem firstNamed_of_passedOver (h : PassedOver name headers) :
    firstNamed name headers = .ok none := by
  have happend := firstNamed_append h []
  rwa [List.append_nil] at happend

theorem firstNamed_of_setsNone (hbefore : PassedOver name before) (hh : SetsNone h)
    (after : List String) : firstNamed name (before ++ h :: after) = .error (.header h) := by
  rw [firstNamed_append hbefore, firstNamed, read?_eq_none_iff.mpr hh]

theorem firstNamed_of_name {c : SetCookie} (hbefore : PassedOver name before)
    (hc : SetCookie.read? h = some c) (hname : c.name = name) (after : List String) :
    firstNamed name (before ++ h :: after) = .ok (some c) := by
  rw [firstNamed_append hbefore, firstNamed, hc]
  exact if_pos hname

theorem passedOver_or (name : String) (headers : List String) : PassedOver name headers ∨
    ∃ before h after, headers = before ++ h :: after ∧ PassedOver name before ∧
      (SetsNone h ∨ ∃ c, SetCookie.read? h = some c ∧ c.name = name) := by
  induction headers with
  | nil => exact .inl (by simp [PassedOver])
  | cons h headers ih =>
    cases hread : SetCookie.read? h with
    | none =>
      exact .inr ⟨[], h, headers, rfl, by simp [PassedOver], .inl (read?_eq_none_iff.mp hread)⟩
    | some c =>
      by_cases hname : c.name = name
      · exact .inr ⟨[], h, headers, rfl, by simp [PassedOver], .inr ⟨c, hread, hname⟩⟩
      · have hcons : ∀ l, PassedOver name l → PassedOver name (h :: l) := fun l hl =>
          List.forall_mem_cons.mpr ⟨⟨c, hread, hname⟩, hl⟩
        rcases ih with hall | ⟨before, h', after, rfl, hbefore, hend⟩
        · exact .inl (hcons _ hall)
        · exact .inr ⟨h :: before, h', after, rfl, hcons _ hbefore, hend⟩

end

/-! ### The search -/

section

variable {e : String} {name beyond : List Char} {a : Aspect}

theorem read?_of_asks (h : Asks name a e.toList beyond) : read? e = some ⟨.ofList name, a⟩ :=
  asks_iff.mpr ⟨beyond, by rwa [String.toList_ofList]⟩

theorem find_of_asks (h : Asks name a e.toList beyond) (headers : List String) :
    find e headers = firstNamed (.ofList name) headers >>= fun o =>
      match o with
      | some c => a.ofCookie c
      | none => .ok .none := by
  unfold find
  rw [read?_of_asks h]
  rfl

/-- What a path that is written as one comes to is no fault of the path. -/
theorem find_ne_path (h : Asks name a e.toList beyond) (headers : List String) (e' : String) :
    find e headers ≠ .error (.path e') := by
  rw [find_of_asks h]
  rcases passedOver_or (.ofList name) headers with hall | ⟨before, h, after, rfl, hbefore, hend⟩
  · rw [firstNamed_of_passedOver hall]
    exact fun hfind => by cases hfind
  · rcases hend with hnone | ⟨c, hc, hname⟩
    · rw [firstNamed_of_setsNone hbefore hnone]
      exact fun hfind => by cases hfind
    · rw [firstNamed_of_name hbefore hc hname]
      intro hfind
      have hshows := shows_ofCookie c a
      rw [show a.ofCookie c = .error (.path e') from hfind] at hshows
      cases hshows

end

/-- **What a search comes to.** A path that is not written as one is a fault. Otherwise the first
header that is not passed over decides, whatever stands behind it: if it sets no cookie it is the
fault, and if it sets the cookie its aspect is shown. If all are passed over, nothing is found. -/
theorem find_outcomes (e : String) (headers : List String) :
    (∀ e', find e headers = .error (.path e') ↔
      e' = e ∧ ∀ name a beyond, ¬ Asks name a e.toList beyond) ∧
    ∀ name a beyond, Asks name a e.toList beyond →
      (PassedOver (.ofList name) headers ∧ find e headers = .ok .none) ∨
      ∃ before h after, headers = before ++ h :: after ∧ PassedOver (.ofList name) before ∧
        ((SetsNone h ∧ ∀ after', find e (before ++ h :: after') = .error (.header h)) ∨
          ∃ c, SetCookie.read? h = some c ∧ c.name = .ofList name ∧
            ∀ after', Shows c a (find e (before ++ h :: after'))) := by
  constructor
  · intro e'
    constructor
    · intro h
      have hnone : ∀ name a beyond, ¬ Asks name a e.toList beyond := fun name a beyond hasks =>
        find_ne_path hasks headers e' h
      refine ⟨?_, hnone⟩
      cases hread : read? e with
      | none =>
        unfold find at h
        rw [hread] at h
        cases h
        rfl
      | some p =>
        obtain ⟨beyond, hasks⟩ := asks_iff.mp hread
        exact (hnone _ _ _ hasks).elim
    · rintro ⟨rfl, hnone⟩
      have hread : read? e' = none := Option.eq_none_iff_forall_ne_some.mpr fun p hp => by
        obtain ⟨beyond, hasks⟩ := asks_iff.mp hp
        exact hnone _ _ _ hasks
      unfold find
      rw [hread]
  · intro name a beyond hasks
    rcases passedOver_or (.ofList name) headers with hall | ⟨before, h, after, rfl, hbefore, hend⟩
    · exact .inl ⟨hall, by rw [find_of_asks hasks, firstNamed_of_passedOver hall]; rfl⟩
    · refine .inr ⟨before, h, after, rfl, hbefore, ?_⟩
      rcases hend with hnone | ⟨c, hc, hname⟩
      · refine .inl ⟨hnone, fun after' => ?_⟩
        rw [find_of_asks hasks, firstNamed_of_setsNone hbefore hnone]
        rfl
      · refine .inr ⟨c, hc, hname, fun after' => ?_⟩
        rw [find_of_asks hasks, firstNamed_of_name hbefore hc hname]
        exact shows_ofCookie c a

/-- What stands behind the closing bracket of a path is not looked at: this is not the path of an
aspect, but it is read as one. -/
theorem find_beyond_bracket : find "id[Value]x" ["id=1"] = .ok (.string "1") ∧
    ∀ name a, ¬ Asks name a "id[Value]x".toList [] := by
  refine ⟨by rfl, fun name a h => ?_⟩
  generalize hl : "id[Value]x".toList = l at h
  cases h with
  | value hname =>
    rw [← hl] at hname
    exact hname (by decide)
  | aspect =>
    have hlast := congrArg List.getLast? hl
    rw [List.getLast?_append, ← List.cons_append, List.getLast?_concat] at hlast
    cases hlast

end CookiePath

end HttpScript
