import HttpScript.Cookie.Store

/-! # Where cookies are sent

A cookie goes to a URL if the host, the path, the scheme and the time all allow it.

* `Cookie.Covers`, `Cookie.Reaches`: the hosts and the paths that a cookie is for.
* `Cookie.Matches`: all four conditions.
* `CookieStore.sentTo_eq`: what is sent to a URL are the cookies that match it. -/

namespace HttpScript

namespace Cookie

/-- **A host that a cookie is for**: its domain, or one below it where that is enough. Neither
letter case nor dots before the domain count. -/
def Covers (c : Cookie) (host : String) : Prop :=
  Text.lowered host.toList = plainDomain c.domain ∨
    c.includeSubdomains = true ∧
      ∃ below, Text.lowered host.toList = below ++ '.' :: plainDomain c.domain

/-- **A path that a cookie is for**: its own, or one below it. The directory `own` ends with a slash
or is followed by one. -/
def Reaches (own requested : List Char) : Prop :=
  requested = own ∨ own = [] ∨
    ∃ rest, requested = own ++ rest ∧ (own.getLast? = some '/' ∨ rest.head? = some '/')

/-- **A cookie that is sent to a URL** at a given time. -/
structure Matches (c : Cookie) (u : Url) (now : Nat) : Prop where
  host : ∃ host, u.hostText? = some host ∧ c.Covers host
  path : Reaches c.path.toList u.pathText.toList
  /-- A secure cookie goes nowhere in the clear. -/
  secure : c.secure = true → u.scheme = "https"
  /-- It has not ended yet. -/
  alive : ∀ t, c.expires = some t → now < t

theorem matchesHost_iff (c : Cookie) (host : String) :
    c.matchesHost host = true ↔ c.Covers host := by
  simp only [matchesHost, Covers, Bool.or_eq_true, beq_iff_eq, Bool.and_eq_true,
    List.isSuffixOf_iff_suffix, List.IsSuffix, eq_comm (a := _ ++ _)]

theorem matchesPath_iff (requested own : List Char) :
    matchesPath requested own = true ↔ Reaches own requested := by
  have hprefix : (own.isPrefixOf requested = true ∧
      (own.getLast? = some '/' ∨ (requested.drop own.length).head? = some '/')) ↔
      ∃ rest, requested = own ++ rest ∧ (own.getLast? = some '/' ∨ rest.head? = some '/') := by
    constructor
    · rintro ⟨h, hslash⟩
      obtain ⟨rest, rfl⟩ := List.isPrefixOf_iff_prefix.mp h
      exact ⟨rest, rfl, by simpa using hslash⟩
    · rintro ⟨rest, rfl, hslash⟩
      exact ⟨List.isPrefixOf_iff_prefix.mpr ⟨rest, rfl⟩, by simpa using hslash⟩
  simp only [matchesPath, Reaches, Bool.or_eq_true, Bool.and_eq_true, beq_iff_eq,
    List.isEmpty_iff, hprefix, or_assoc]

theorem isExpired_eq_false_iff (c : Cookie) (now : Nat) :
    c.isExpired now = false ↔ ∀ t, c.expires = some t → now < t := by
  cases h : c.expires <;> simp [isExpired, h]

theorem isSentTo_iff (c : Cookie) (u : Url) (now : Nat) :
    c.isSentTo u now = true ↔ c.Matches u now := by
  unfold isSentTo
  cases hu : u.hostText? with
  | none =>
    refine iff_of_false (by simp) fun h => ?_
    obtain ⟨host, hhost, -⟩ := h.host
    simp [hu] at hhost
  | some host =>
    simp only [Bool.and_eq_true, Bool.or_eq_true, Bool.not_eq_eq_eq_not, Bool.not_true,
      beq_iff_eq, matchesHost_iff, matchesPath_iff, isExpired_eq_false_iff]
    constructor
    · rintro ⟨⟨⟨hhost, hpath⟩, hsecure⟩, halive⟩
      refine ⟨⟨host, hu, hhost⟩, hpath, fun h => ?_, halive⟩
      exact hsecure.resolve_left (by simp [h])
    · rintro ⟨⟨host', hhost', hhost⟩, hpath, hsecure, halive⟩
      obtain rfl : host = host' := by simpa [hu] using hhost'
      refine ⟨⟨⟨hhost, hpath⟩, ?_⟩, halive⟩
      cases h : c.secure with
      | false => exact .inl rfl
      | true => exact .inr (hsecure h)

instance (c : Cookie) (u : Url) (now : Nat) : Decidable (c.Matches u now) :=
  decidable_of_iff _ (isSentTo_iff c u now)

end Cookie

/-- **What is sent to a URL** are the names and values of the cookies that match it, in order. -/
theorem CookieStore.sentTo_eq (s : CookieStore) (now : Nat) (u : Url) :
    s.sentTo now u =
      (s.cookies.filter fun c => c.Matches u now).map fun c => (c.name, c.value) := by
  unfold sentTo
  congr 1
  refine List.filter_congr fun c _ => ?_
  rw [Bool.eq_iff_iff, Cookie.isSentTo_iff, decide_eq_true_iff]

end HttpScript
