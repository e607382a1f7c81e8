import HttpScript.Cookie.Command
import HttpScript.Proofs.Cookie.Log
import HttpScript.Url.Read
import Mathlib.Data.List.Nodup
import Mathlib.Tactic.Push

/-! # Cookies that are sent together

A cookie is sent to a URL by its domain in lower case and without the dots before it, but it takes
the place of another only if both domains are written alike. So a cookie can be sent beside an older
one that differs from it in the spelling of the domain and in nothing else that sending looks at.

* `Cookie.identity`: a cookie as sending takes it.
* `CookieStore.sent_identities`: two cookies of one identity are sent exactly where their domains
  are spelled differently, which does not happen if every domain is always spelled alike. -/

namespace HttpScript

namespace Cookie

/-- **A cookie as sending takes it**: its domain as it is compared, its path and its name. -/
def identity (c : Cookie) : List Char × String × String := (plainDomain c.domain, c.path, c.name)

theorem key_eq_iff (a b : Cookie) :
    a.key = b.key ↔ a.identity = b.identity ∧ a.domain = b.domain := by
  simp only [key, identity, Prod.mk.injEq]
  constructor
  · rintro ⟨hdomain, hpath, hname⟩
    exact ⟨⟨by rw [hdomain], hpath, hname⟩, hdomain⟩
  · rintro ⟨⟨-, hpath, hname⟩, hdomain⟩
    exact ⟨hdomain, hpath, hname⟩

end Cookie

namespace CookieStore

open scoped List

/-- The cookies that are sent to a URL, in order. -/
def sentCookies (s : CookieStore) (now : Nat) (u : Url) : List Cookie :=
  s.cookies.filter fun c => c.Matches u now

/-- **Domains are spelled alike** in a log wherever sending takes them for the same. -/
def SpelledAlike (l : List Addition) : Prop :=
  ∀ a ∈ l, ∀ b ∈ l, Cookie.plainDomain a.cookie.domain = Cookie.plainDomain b.cookie.domain →
    a.cookie.domain = b.cookie.domain

/-- Domains in lower case without dots before them are spelled alike. -/
theorem spelledAlike_of_plain {l : List Addition}
    (h : ∀ a ∈ l, a.cookie.domain.toList = Cookie.plainDomain a.cookie.domain) :
    SpelledAlike l := by
  intro a ha b hb hplain
  have hchars : a.cookie.domain.toList = b.cookie.domain.toList := by rw [h a ha, h b hb, hplain]
  exact String.toList_injective hchars

section

variable {l : List Operation} {s : CookieStore} (h : behind l = .ok s) (now : Nat) (u : Url)

include h

theorem nodup_key_sentCookies : ((s.sentCookies now u).map (·.key)).Nodup := by
  have hsub : s.sentCookies now u <+ s.cookies := List.filter_sublist
  rw [cookies_behind h] at hsub
  exact (hsub.map _).nodup (nodup_lastWrites (log l))

theorem mem_log_of_mem_sentCookies {c : Cookie} (hc : c ∈ s.sentCookies now u) :
    ∃ a ∈ log l, a.cookie = c := by
  have hlast : c ∈ lastWrites (log l) := cookies_behind h ▸ List.mem_of_mem_filter hc
  obtain ⟨before, t, later, hlog, -⟩ := (mem_lastWrites_iff _ c).mp hlast
  exact ⟨⟨t, c⟩, by rw [hlog]; simp, rfl⟩

/-- **An older cookie is sent beside one of its identity** exactly where the domains of the two are
spelled differently. -/
theorem not_nodup_identity_iff : ¬ ((s.sentCookies now u).map (·.identity)).Nodup ↔
    ∃ a b, [a, b] <+ s.sentCookies now u ∧ a.identity = b.identity ∧ a.domain ≠ b.domain := by
  rw [List.nodup_iff_sublist]
  push Not
  constructor
  · rintro ⟨i, hi⟩
    obtain ⟨pair, hpair, hmap⟩ := List.sublist_map_iff.mp hi
    obtain ⟨a, rest, rfl, ha, hrest⟩ := List.map_eq_cons_iff.mp hmap.symm
    obtain ⟨b, rest, rfl, hb, hnil⟩ := List.map_eq_cons_iff.mp hrest
    obtain rfl := List.map_eq_nil_iff.mp hnil
    refine ⟨a, b, hpair, by rw [ha, hb], fun hdomain => ?_⟩
    have hkey : a.key = b.key := (Cookie.key_eq_iff a b).mpr ⟨by rw [ha, hb], hdomain⟩
    have hkeys : [b.key, b.key] <+ (s.sentCookies now u).map (·.key) := by
      simpa [hkey] using hpair.map (·.key)
    exact List.nodup_iff_sublist.mp (nodup_key_sentCookies h now u) _ hkeys
  · rintro ⟨a, b, hpair, hidentity, -⟩
    exact ⟨b.identity, by simpa [hidentity] using hpair.map (·.identity)⟩

/-- **The identities of the cookies that are sent**, whatever was done to their store and whenever.
None is there twice if the domains added since the store was last cleared are spelled alike; and
what is there twice are cookies whose domains are not. -/
theorem sent_identities :
    s.sentTo now u = (s.sentCookies now u).map (fun c => (c.name, c.value)) ∧
    (SpelledAlike (log l) → ((s.sentCookies now u).map (·.identity)).Nodup) ∧
    (¬ ((s.sentCookies now u).map (·.identity)).Nodup ↔
      ∃ a b, [a, b] <+ s.sentCookies now u ∧ a.identity = b.identity ∧ a.domain ≠ b.domain) := by
  refine ⟨s.sentTo_eq now u, fun halike => ?_, not_nodup_identity_iff h now u⟩
  by_contra htwice
  obtain ⟨a, b, hpair, hidentity, hdomain⟩ := (not_nodup_identity_iff h now u).mp htwice
  have hb : b ∈ s.sentCookies now u := hpair.subset (by simp)
  obtain ⟨x, hx, rfl⟩ := mem_log_of_mem_sentCookies h now u (hpair.subset (List.mem_cons_self ..))
  obtain ⟨y, hy, rfl⟩ := mem_log_of_mem_sentCookies h now u hb
  exact hdomain (halike x hx y hy (Prod.mk.inj hidentity).1)

end

/-- A command and then a response set a cookie for one domain, and the second value is sent. -/
theorem sent_identities_replaced :
    let l : List Operation := [
      .add ⟨0, .ofSetting ⟨"example.com", true, "/", false, 0, "id", "1"⟩⟩,
      .store 0 ((Url.read? "http://example.com/").getD default)
        [(0, "id=2; Domain=.example.com; Path=/")]]
    let s : CookieStore := ⟨[⟨"example.com", true, "/", false, none, "id", "2"⟩]⟩
    let u := (Url.read? "http://www.example.com/a").getD default
    behind l = .ok s ∧ SpelledAlike (log l) ∧ s.sentTo 0 u = [("id", "2")] ∧
      ((s.sentCookies 0 u).map (·.identity)).Nodup := by
  intro l s u
  have hbehind : behind l = .ok s := by rfl
  have halike : SpelledAlike (log l) := spelledAlike_of_plain (by decide +kernel)
  exact ⟨hbehind, halike, by decide +kernel, (sent_identities hbehind 0 u).2.1 halike⟩

/-- A command sets a cookie for a domain with a dot before it and then a response for the same
without it: both values are sent, the older one first. -/
theorem sent_twice :
    let command := "# @cookie_storage_set: .example.com TRUE / FALSE 0 id 1"
    let setting : Cookie.Setting := ⟨".example.com", true, "/", false, 0, "id", "1"⟩
    let u := (Url.read? "http://example.com/").getD default
    let l : List Operation := [.add ⟨0, .ofSetting setting⟩,
      .store 0 u [(0, "id=2; Domain=.example.com; Path=/")]]
    Cookie.Command.read? command = some (.set setting) ∧ ∃ s, behind l = .ok s ∧
      s.sentTo 0 u = [("id", "1"), ("id", "2")] ∧
      ¬ ((s.sentCookies 0 u).map (·.identity)).Nodup := by
  intro command setting u l
  refine ⟨by decide +kernel, ⟨[⟨".example.com", true, "/", false, none, "id", "1"⟩,
    ⟨"example.com", true, "/", false, none, "id", "2"⟩]⟩, by rfl, by decide +kernel,
    by decide +kernel⟩

end CookieStore

end HttpScript
