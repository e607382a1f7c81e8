import HttpScript.Proofs.Cookie.Arithmetic
import HttpScript.Proofs.Cookie.Matches
import HttpScript.Proofs.Url.Formed
import Mathlib.Data.List.DropRight

/-! # Cookies come back

A cookie that a response sets is sent to where the response came from: the directory into which it
is put without a path of its own lies above every path of that directory, and the domain that it
asks for is compared as it is kept. Without a domain it belongs to the host alone.

* `Cookie.InDirectory`, `Cookie.reaches_directory`: the directory of a path and the paths in it.
* `SetCookie.IsFor`: a header that may speak for the URL that it comes from.
* `Cookie.covers_own`, `Cookie.covers_iff_of_hostOnly`: the hosts that the cookie is for.
* `CookieStore.tryStore_returns`: where the cookie is sent, and where not. -/

namespace HttpScript

namespace Cookie

/-! ### Directories -/

/-- **A path in the directory of another one**, or below that directory. -/
def InDirectory (own requested : List Char) : Prop :=
  ∃ dir name rest, own = dir ++ '/' :: name ∧ '/' ∉ name ∧ requested = dir ++ '/' :: rest

theorem inDirectory_self {own : List Char} (h : '/' ∈ own) : InDirectory own own := by
  obtain ⟨name, dir, heq, hname⟩ := List.eq_append_cons_of_mem (List.mem_reverse.mpr h)
  have hown : own = dir.reverse ++ '/' :: name.reverse := by
    have hreverse := congrArg List.reverse heq
    simpa using hreverse
  exact ⟨dir.reverse, name.reverse, name.reverse, hown, by simpa using hname, hown⟩

/-- The directory is what stands before the last slash, and the root if that is nothing. -/
theorem directory_append {dir name : List Char} (h : '/' ∉ name) :
    directory (dir ++ '/' :: name) = if dir = [] then ['/'] else dir := by
  have hname : ∀ c ∈ name.reverse, (c != '/') = true := fun c hc => by
    simpa using fun e : c = '/' => h (e ▸ List.mem_reverse.mp hc)
  have hdrop : (dir ++ '/' :: name).reverse.dropWhile (· != '/') = '/' :: dir.reverse := by
    rw [List.reverse_append, List.reverse_cons, List.append_assoc,
      List.dropWhile_append_of_pos hname]
    rfl
  unfold directory
  rw [hdrop, List.tail_cons, List.reverse_reverse]
  cases dir with
  | nil => rfl
  | cons c dir => simp

/-- **The directory of a path reaches all paths in it.** -/
theorem reaches_directory {own requested : List Char} (h : InDirectory own requested) :
    Reaches (directory own) requested := by
  obtain ⟨dir, name, rest, rfl, hname, rfl⟩ := h
  rw [directory_append hname]
  split
  · rename_i hroot
    subst hroot
    exact .inr (.inr ⟨rest, rfl, .inl rfl⟩)
  · exact .inr (.inr ⟨'/' :: rest, rfl, .inr rfl⟩)

/-! ### Domains -/

/-- Dots before a domain do not count. -/
theorem plainDomain_dropWhile (s : String) :
    plainDomain (.ofList (s.toList.dropWhile (· == '.'))) = plainDomain s := by
  unfold plainDomain
  rw [String.toList_ofList, List.dropWhile_idempotent]

theorem plainDomain_of_head {s : String} (h : s.toList.head? ≠ some '.') :
    plainDomain s = Text.lowered s.toList := by
  unfold plainDomain
  cases hs : s.toList with
  | nil => rfl
  | cons c l =>
    have hc : (c == '.') = false := by simpa [hs] using h
    rw [List.dropWhile_cons_of_neg (by simp [hc])]

end Cookie

/-- **A header that may speak for the URL that it comes from**: it asks for no path, for no more
privacy than the URL has, and for a domain only that the host of the URL is or lies below. -/
structure SetCookie.IsFor (h : SetCookie) (u : Url) : Prop where
  path : ∀ p, h.attributeValue? "path" = some p → p.toList.head? ≠ some '/'
  secure : (h.attribute? "secure").isSome = true → u.scheme = "https"
  domain : ∀ d host, h.attributeValue? "domain" = some d → u.hostText? = some host →
    Text.lowered host.toList = Cookie.plainDomain d ∨
      ∃ below, Text.lowered host.toList = below ++ '.' :: Cookie.plainDomain d

namespace Cookie

variable {h : SetCookie} {u v : Url} {host : String}

/-- **A cookie is for the host that it comes from.** -/
theorem covers_own (hfor : h.IsFor u) (hhost : u.hostText? = some host)
    (hdot : host.toList.head? ≠ some '.') (expires : Option Nat) :
    (ofHeader h u expires).Covers host := by
  cases hdomain : h.attributeValue? "domain" with
  | none =>
    have hown : (ofHeader h u expires).domain = host := by simp [ofHeader, hdomain, hhost]
    exact .inl (by rw [hown, plainDomain_of_head hdot])
  | some d =>
    have hown : plainDomain (ofHeader h u expires).domain = plainDomain d := by
      simp [ofHeader, hdomain, plainDomain_dropWhile]
    have hbelow : (ofHeader h u expires).includeSubdomains = true := by
      simp [ofHeader, hdomain]
    rcases hfor.domain d host hdomain hhost with heq | hlonger
    · exact .inl (by rw [hown, heq])
    · exact .inr ⟨hbelow, by rw [hown]; exact hlonger⟩

/-- **Without a domain a cookie is for its host alone**, whatever the case of its letters. -/
theorem covers_iff_of_hostOnly (hdomain : h.attributeValue? "domain" = none)
    (hhost : u.hostText? = some host) (hdot : host.toList.head? ≠ some '.') (expires : Option Nat)
    (other : String) : (ofHeader h u expires).Covers other ↔
      Text.lowered other.toList = Text.lowered host.toList := by
  have hown : (ofHeader h u expires).domain = host := by simp [ofHeader, hdomain, hhost]
  have halone : (ofHeader h u expires).includeSubdomains = false := by simp [ofHeader, hdomain]
  simp [Covers, hown, halone, plainDomain_of_head hdot]

theorem path_ofHeader (hfor : h.IsFor u) (expires : Option Nat) :
    (ofHeader h u expires).path.toList = directory u.pathText.toList := by
  unfold ofHeader
  dsimp only
  split
  · rename_i p hp
    rw [if_neg (hfor.path p hp), String.toList_ofList]
  · rw [String.toList_ofList]

/-- **A cookie is sent into the directory that it comes from**, until it ends. -/
theorem matches_back (hfor : h.IsFor u) (hhost : u.hostText? = some host)
    (hdot : host.toList.head? ≠ some '.') (hscheme : v.scheme = u.scheme)
    (hsame : v.hostText? = u.hostText?)
    (hdir : InDirectory u.pathText.toList v.pathText.toList) {expires : Option Nat} {now : Nat}
    (halive : ∀ t, expires = some t → now < t) :
    (ofHeader h u expires).Matches v now where
  host := ⟨host, hsame.trans hhost, covers_own hfor hhost hdot expires⟩
  path := by
    rw [path_ofHeader hfor]
    exact reaches_directory hdir
  secure hsecure := hscheme.trans (hfor.secure hsecure)
  alive := halive

end Cookie

namespace CookieStore

open Cookie

theorem mem_sentTo {s : CookieStore} {c : Cookie} {now : Nat} {v : Url} (hc : c ∈ s.cookies)
    (hmatches : c.Matches v now) : (c.name, c.value) ∈ s.sentTo now v := by
  rw [sentTo_eq]
  exact List.mem_map.mpr ⟨c, List.mem_filter.mpr ⟨hc, by simpa using hmatches⟩, rfl⟩

theorem mem_add {s : CookieStore} {c : Cookie} {now : Nat} (h : c.isExpired now = false) :
    c ∈ (s.add now c).cookies := by
  simp [add, h]

/-- **Where the cookie of a response is sent.** It comes back to the URL of the response and to the
paths in its directory; and without a domain it goes to no host that differs in more than the case
of its letters. -/
theorem tryStore_returns {u : Url} (hu : u.Formed) (hweb : u.scheme = "http" ∨ u.scheme = "https")
    {host : String} (hhost : u.hostText? = some host) (hdot : host.toList.head? ≠ some '.')
    {header : String} {h : SetCookie} (hread : SetCookie.read? header = some h) :
    (h.IsFor u → ¬ Overflows header → ∀ received now later : Nat,
      (∀ t, exactExpiry h received = some t → now < t ∧ later < t) → ∀ s : CookieStore,
      ∃ t, s.tryStore received u [(now, header)] = .ok t ∧
        ofHeader h u (exactExpiry h received) ∈ t.cookies ∧
        (h.name, h.value) ∈ t.sentTo later u ∧
        ∀ v : Url, v.scheme = u.scheme → v.hostText? = u.hostText? →
          InDirectory u.pathText.toList v.pathText.toList → (h.name, h.value) ∈ t.sentTo later v) ∧
    (h.attributeValue? "domain" = none → ∀ (expires : Option Nat) (later : Nat) (v : Url),
      (∀ other, v.hostText? = some other →
        Text.lowered other.toList ≠ Text.lowered host.toList) →
      ¬ (ofHeader h u expires).Matches v later) := by
  constructor
  · intro hfor hfits received now later halive s
    let cookie := ofHeader h u (exactExpiry h received)
    have hkept : cookie.isExpired now = false :=
      (isExpired_eq_false_iff _ _).mpr fun t ht => (halive t ht).1
    have hstored : s.tryStore received u [(now, header)] = .ok (s.add now cookie) := by
      rw [tryStore_of_fits s received u (by simpa using hfits)]
      simp [exactStore, exactAdd, hread, cookie]
    have hmem := mem_add (s := s) hkept
    have hback := fun v hscheme hsame hdir => mem_sentTo hmem
      (matches_back (v := v) hfor hhost hdot hscheme hsame hdir fun t ht => (halive t ht).2)
    have hspecial : Url.isSpecial u.scheme = true := by
      rcases hweb with h | h <;> rw [h] <;> decide
    obtain ⟨l, hpath⟩ := hu.complete.pathText hspecial
    have hslash : '/' ∈ u.pathText.toList := by simp [hpath]
    exact ⟨_, hstored, hmem, hback u rfl rfl (inDirectory_self hslash), hback⟩
  · intro hdomain expires later v hother hmatches
    obtain ⟨other, hv, hcovers⟩ := hmatches.host
    exact hother other hv ((covers_iff_of_hostOnly hdomain hhost hdot expires other).mp hcovers)

/-- A session that is begun in one directory comes back to a page of it, and to no other host. -/
theorem tryStore_returns_session :
    let u := (Url.read? "http://www.example.com/shop/login").getD default
    let page := (Url.read? "http://www.example.com/shop/cart/1").getD default
    let other := (Url.read? "http://example.com/shop/login").getD default
    let h := (SetCookie.read? "id=1; Max-Age=100").getD default
    (∃ t, empty.tryStore 50 u [(50, "id=1; Max-Age=100")] = .ok t ∧
      ("id", "1") ∈ t.sentTo 60 u ∧ ("id", "1") ∈ t.sentTo 60 page) ∧
      ¬ (ofHeader h u (some 150)).Matches other 60 := by
  intro u page other h
  have hu : Url.read? "http://www.example.com/shop/login" = some u := by decide +kernel
  have hhost : u.hostText? = some "www.example.com" := by decide +kernel
  have hother : other.hostText? = some "example.com" := by decide +kernel
  have hread : SetCookie.read? "id=1; Max-Age=100" = some h := by decide +kernel
  have hage : exactExpiry h 50 = some 150 := by decide +kernel
  have hfor : h.IsFor u := by
    refine ⟨fun p hp => ?_, fun hs => ?_, fun d _ hd _ => ?_⟩
    · rw [show h.attributeValue? "path" = none by decide +kernel] at hp
      cases hp
    · rw [show (h.attribute? "secure").isSome = false by decide +kernel] at hs
      cases hs
    · rw [show h.attributeValue? "domain" = none by decide +kernel] at hd
      cases hd
  have hfits : ¬ Overflows "id=1; Max-Age=100" := by decide +kernel
  have hdir : InDirectory u.pathText.toList page.pathText.toList :=
    ⟨"/shop".toList, "login".toList, "cart/1".toList, by decide +kernel, by decide +kernel,
      by decide +kernel⟩
  obtain ⟨hback, honly⟩ := tryStore_returns (.read hu) (.inl (by decide +kernel)) hhost
    (by decide +kernel) hread
  constructor
  · obtain ⟨t, hstored, -, hsent, hdirectory⟩ := hback hfor hfits 50 50 60 (by simp [hage]) empty
    exact ⟨t, hstored, hsent, hdirectory page (by decide +kernel) (by decide +kernel) hdir⟩
  · exact honly (by decide +kernel) (some 150) 60 other fun o ho => by
      rw [hother] at ho
      cases ho
      decide +kernel

/-- **Hosts are compared whatever the case of their letters**: where the scheme of a URL leaves
capitals in its host, the cookie of the host in small letters is sent there. -/
theorem tryStore_capitalHost :
    let u := (Url.read? "http://example.com/").getD default
    let v := (Url.read? "foo://EXAMPLE.COM/").getD default
    let h := (SetCookie.read? "id=1").getD default
    u.hostText? = some "example.com" ∧ v.hostText? = some "EXAMPLE.COM" ∧
      SetCookie.read? "id=1" = some h ∧ h.attributeValue? "domain" = none ∧
      (ofHeader h u none).isSentTo v 0 = true ∧
      (empty.tryStore 0 u [(0, "id=1")]).toOption.map (·.sentTo 0 v) = some [("id", "1")] := by
  decide +kernel

end CookieStore

end HttpScript
