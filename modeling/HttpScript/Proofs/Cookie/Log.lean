import HttpScript.Proofs.Cookie.Arithmetic
import HttpScript.Proofs.Cookie.Matches
import Mathlib.Data.List.DropRight

/-! # The cookie store as a log

All that a cookie store holds can be read off the *log* of the cookies that were added since it was
last cleared: under each key the last write wins.

* `CookieStore.Operation`, `CookieStore.behind`: what is done to a store, with all readings of the
  clock, and the store behind it, if no date on the way leaves the words.
* `CookieStore.log`: the cookies added since the last clearing. A response adds those of its headers
  that can be read, each with the exact time at which it ends.
* `CookieStore.lastWrites`: what a log leaves, and `mem_lastWrites_iff` which cookies these are.
* `CookieStore.behind_of_fits`, `CookieStore.behind_of_overflows`: where there is a store, and what
  it holds.
* `CookieStore.behind_reflects_log`: every store reflects its log. -/

namespace HttpScript

namespace Cookie

/-- What a cookie is kept under: its domain, path and name. -/
def key (c : Cookie) : String × String × String := (c.domain, c.path, c.name)

theorem sameKey_iff (a b : Cookie) : a.sameKey b = true ↔ a.key = b.key := by
  simp [sameKey, key, and_assoc]

theorem filter_sameKey (l : List Cookie) (c : Cookie) :
    (l.filter fun d => !d.sameKey c) = l.filter fun d => d.key ≠ c.key := by
  refine List.filter_congr fun d _ => ?_
  cases h : d.sameKey c with
  | true => simp [(sameKey_iff d c).mp h]
  | false =>
    have hne : d.key ≠ c.key := fun e => by simp [(sameKey_iff d c).mpr e] at h
    simp [hne]

end Cookie

theorem Cookie.isExpired_ofHeader {h : SetCookie} {age : Int} (hage : h.maxAge? = some age)
    (hle : age ≤ 0) (u : Url) (received now : Nat) :
    (Cookie.ofHeader h u (exactExpiry h received)).isExpired now = true := by
  have hexpiry : exactExpiry h received = some 0 := by simp [exactExpiry, hage, hle]
  simp [Cookie.isExpired, Cookie.ofHeader, hexpiry]

namespace CookieStore

/-! ### Logs -/

/-- A cookie with the time at which it was added. -/
structure Addition where
  now : Nat
  cookie : Cookie

inductive Operation
  | add (a : Addition)
  | clear
  /-- A response from a URL, which was received at a time, and its headers, each with the time at
  which its cookie is added. -/
  | store (received : Nat) (u : Url) (headers : List (Nat × String))

def step (s : CookieStore) : Operation → Except Cookie.Date.Fault CookieStore
  | .add a => .ok (s.add a.now a.cookie)
  | .clear => .ok .empty
  | .store received u headers => s.tryStore received u headers

/-- **The store behind operations**, at first without cookies. -/
def behind (l : List Operation) : Except Cookie.Date.Fault CookieStore := l.foldlM step .empty

namespace Operation

def isClear : Operation → Bool
  | clear => true
  | _ => false

/-- A response with a header whose date leaves the words. -/
def Overflows : Operation → Prop
  | store _ _ headers => ∃ p ∈ headers, CookieStore.Overflows p.2
  | _ => False

/-- The cookies that an operation adds: of a response those of its headers that can be read, in
their order. -/
def additions : Operation → List Addition
  | add a => [a]
  | clear => []
  | store received u headers => headers.filterMap fun (now, header) =>
      (SetCookie.read? header).map fun h => ⟨now, .ofHeader h u (Cookie.exactExpiry h received)⟩

end Operation

/-- **The log of operations**: the cookies added since the last clearing. -/
def log (l : List Operation) : List Addition :=
  (l.rtakeWhile fun o => !o.isClear).flatMap Operation.additions

/-- **What a log leaves**: the last cookie added under each key, unless it had ended by then, in the
order of these additions. -/
def lastWrites : List Addition → List Cookie
  | [] => []
  | a :: l =>
    if a.cookie.key ∈ l.map (·.cookie.key) ∨ a.cookie.isExpired a.now = true then lastWrites l
    else a.cookie :: lastWrites l

/-- The cookies left are the last ones of their keys, unless they had ended when they were added. -/
theorem mem_lastWrites_iff (l : List Addition) (c : Cookie) :
    c ∈ lastWrites l ↔ ∃ before now later, l = before ++ ⟨now, c⟩ :: later ∧
      c.isExpired now = false ∧ ∀ a ∈ later, a.cookie.key ≠ c.key := by
  induction l with
  | nil => simp [lastWrites]
  | cons b l ih =>
    have htail : (∃ before now later, b :: l = before ++ ⟨now, c⟩ :: later ∧
        c.isExpired now = false ∧ ∀ a ∈ later, a.cookie.key ≠ c.key) ↔
        (b.cookie = c ∧ c.isExpired b.now = false ∧ ∀ a ∈ l, a.cookie.key ≠ c.key) ∨
          c ∈ lastWrites l := by
      rw [ih]
      constructor
      · rintro ⟨before, now, later, heq, halive, hlast⟩
        cases before with
        | nil =>
          obtain ⟨rfl, rfl⟩ := List.cons.inj heq
          exact .inl ⟨rfl, halive, hlast⟩
        | cons b' before =>
          obtain ⟨rfl, rfl⟩ := List.cons.inj heq
          exact .inr ⟨before, now, later, rfl, halive, hlast⟩
      · rintro (⟨rfl, halive, hlast⟩ | ⟨before, now, later, rfl, halive, hlast⟩)
        · exact ⟨[], b.now, l, rfl, halive, hlast⟩
        · exact ⟨b :: before, now, later, rfl, halive, hlast⟩
    rw [htail, lastWrites]
    split
    · rename_i hgone
      refine ⟨.inr, fun h => h.resolve_left ?_⟩
      rintro ⟨rfl, halive, hlast⟩
      rcases hgone with hlater | hended
      · obtain ⟨a, ha, hkey⟩ := List.mem_map.mp hlater
        exact hlast a ha hkey
      · simp [halive] at hended
    · rename_i hkept
      obtain ⟨hlast, halive⟩ := not_or.mp hkept
      rw [List.mem_cons]
      refine or_congr_left ⟨?_, fun h => h.1.symm⟩
      rintro rfl
      refine ⟨rfl, by simpa using halive, fun a ha hkey => hlast ?_⟩
      exact List.mem_map.mpr ⟨a, ha, hkey⟩

theorem nodup_lastWrites (l : List Addition) : ((lastWrites l).map (·.key)).Nodup := by
  induction l with
  | nil => exact List.nodup_nil
  | cons b l ih =>
    rw [lastWrites]
    split
    · exact ih
    · rename_i hkept
      refine List.nodup_cons.mpr ⟨fun hmem => hkept (.inl ?_), ih⟩
      obtain ⟨c, hc, hkey⟩ := List.mem_map.mp hmem
      obtain ⟨before, now, later, rfl, -⟩ := (mem_lastWrites_iff l c).mp hc
      exact List.mem_map.mpr ⟨⟨now, c⟩, by simp, hkey⟩

/-- One more addition takes the place of those with its key. -/
theorem lastWrites_concat (l : List Addition) (a : Addition) :
    lastWrites (l ++ [a]) = ((lastWrites l).filter fun c => c.key ≠ a.cookie.key) ++
      if a.cookie.isExpired a.now then [] else [a.cookie] := by
  induction l with
  | nil => by_cases h : a.cookie.isExpired a.now = true <;> simp [lastWrites, h]
  | cons b l ih =>
    rw [List.cons_append, lastWrites, lastWrites, ih]
    by_cases hkey : b.cookie.key = a.cookie.key
    · -- it is the last of its key no longer
      have hnow : b.cookie.key ∈ (l ++ [a]).map (·.cookie.key) := by simp [hkey]
      rw [if_pos (.inl hnow)]
      congr 1
      split
      · rfl
      · simp [hkey]
    · have hsame : b.cookie.key ∈ (l ++ [a]).map (·.cookie.key) ↔
          b.cookie.key ∈ l.map (·.cookie.key) := by simp [hkey]
      simp only [hsame]
      split
      · rfl
      · simp [hkey]

/-! ### Stores -/

theorem cookies_add {s : CookieStore} {l : List Addition} (h : s.cookies = lastWrites l)
    (a : Addition) : (s.add a.now a.cookie).cookies = lastWrites (l ++ [a]) := by
  unfold add
  rw [lastWrites_concat, Cookie.filter_sameKey, h]
  dsimp only
  split
  · rw [List.append_nil]
  · rfl

theorem cookies_exactStore {s : CookieStore} {l : List Addition} (h : s.cookies = lastWrites l)
    (received : Nat) (u : Url) (headers : List (Nat × String)) :
    (s.exactStore received u headers).cookies =
      lastWrites (l ++ (Operation.store received u headers).additions) := by
  induction headers generalizing s l with
  | nil => simpa [exactStore, Operation.additions] using h
  | cons p headers ih =>
    obtain ⟨now, header⟩ := p
    show ((s.exactAdd received now u header).exactStore received u headers).cookies = _
    cases hread : SetCookie.read? header with
    | none =>
      have hskip : s.exactAdd received now u header = s := by simp [exactAdd, hread]
      rw [hskip, ih h]
      simp [Operation.additions, hread]
    | some c =>
      let cookie := Cookie.ofHeader c u (Cookie.exactExpiry c received)
      have hadd : s.exactAdd received now u header = s.add now cookie := by
        simp [exactAdd, hread, cookie]
      rw [hadd, ih (cookies_add h ⟨now, cookie⟩)]
      simp [Operation.additions, hread, cookie]

theorem log_concat (l : List Operation) (o : Operation) :
    log (l ++ [o]) = if o.isClear then [] else log l ++ o.additions := by
  unfold log
  rw [List.rtakeWhile_concat]
  cases o.isClear <;> simp

theorem behind_concat (l : List Operation) (o : Operation) :
    behind (l ++ [o]) = behind l >>= fun s => s.step o := by
  simp [behind, List.foldlM_append]

theorem step_of_fits {s : CookieStore} {l : List Operation} (h : s.cookies = lastWrites (log l))
    {o : Operation} (hfits : ¬ o.Overflows) :
    ∃ t, s.step o = .ok t ∧ t.cookies = lastWrites (log (l ++ [o])) := by
  rw [log_concat]
  cases o with
  | add a => exact ⟨_, rfl, cookies_add h a⟩
  | clear => exact ⟨_, rfl, rfl⟩
  | store received u headers =>
    have hall : ∀ p ∈ headers, ¬ Overflows p.2 := fun p hp hover => hfits ⟨p, hp, hover⟩
    exact ⟨_, tryStore_of_fits s received u hall, cookies_exactStore h received u headers⟩

theorem step_of_overflows {o : Operation} (hover : o.Overflows) (s : CookieStore) :
    s.step o = .error .overflow := by
  cases o with
  | add a => exact hover.elim
  | clear => exact hover.elim
  | store received u headers => exact tryStore_of_overflows s received u hover

/-- **The last write wins.** What a store holds behind operations is what their log leaves. -/
theorem behind_of_fits {l : List Operation} (hfits : ∀ o ∈ l, ¬ o.Overflows) :
    ∃ s, behind l = .ok s ∧ s.cookies = lastWrites (log l) := by
  induction l using List.reverseRecOn with
  | nil => exact ⟨_, rfl, rfl⟩
  | append_singleton l o ih =>
    obtain ⟨hl, ho⟩ := List.forall_mem_append.mp hfits
    obtain ⟨s, hs, hcookies⟩ := ih hl
    rw [behind_concat, hs]
    exact step_of_fits hcookies (ho o (List.mem_singleton_self o))

/-- One date that leaves the words ends it all. -/
theorem behind_of_overflows {l : List Operation} (hover : ∃ o ∈ l, o.Overflows) :
    behind l = .error .overflow := by
  induction l using List.reverseRecOn with
  | nil => simp at hover
  | append_singleton l o ih =>
    rw [behind_concat]
    by_cases hl : ∃ o ∈ l, o.Overflows
    · rw [ih hl]
      rfl
    · obtain ⟨o', ho', hover⟩ := hover
      rcases List.mem_append.mp ho' with ho' | ho'
      · exact absurd ⟨o', ho', hover⟩ hl
      · obtain rfl := List.mem_singleton.mp ho'
        obtain ⟨s, hs, -⟩ := behind_of_fits fun o ho hover => hl ⟨o, ho, hover⟩
        rw [hs]
        exact step_of_overflows hover s

theorem cookies_behind {l : List Operation} {s : CookieStore} (h : behind l = .ok s) :
    s.cookies = lastWrites (log l) := by
  by_cases hover : ∃ o ∈ l, o.Overflows
  · rw [behind_of_overflows hover] at h
    cases h
  · obtain ⟨t, ht, hcookies⟩ := behind_of_fits fun o ho hover' => hover ⟨o, ho, hover'⟩
    obtain rfl := Except.ok.inj (ht.symm.trans h)
    exact hcookies

/-- A header whose cookie has no age takes away the cookie of its key, and nothing else. -/
theorem step_of_maxAge (s : CookieStore) {header : String} {h : SetCookie} {age : Int}
    (hread : SetCookie.read? header = some h) (hage : h.maxAge? = some age) (hle : age ≤ 0)
    (received now : Nat) (u : Url) :
    ∃ t, s.step (.store received u [(now, header)]) = .ok t ∧ t.cookies = s.cookies.filter fun c =>
      c.key ≠ (Cookie.ofHeader h u (Cookie.exactExpiry h received)).key := by
  have hended := Cookie.isExpired_ofHeader hage hle u received now
  have hfits : ∀ p ∈ [(now, header)], ¬ Overflows p.2 := fun p hp => by
    rw [List.mem_singleton.mp hp]
    exact not_overflows_of_maxAge hread hage
  refine ⟨_, tryStore_of_fits s received u hfits, ?_⟩
  simp only [exactStore, List.foldl_cons, List.foldl_nil, exactAdd, hread, add, hended, if_true,
    Cookie.filter_sameKey]

/-- **A store that reflects a log.** -/
structure Reflects (s : CookieStore) (log : List Addition) : Prop where
  /-- Its cookies are what the log leaves, in that order. -/
  cookies_eq : s.cookies = lastWrites log
  /-- Each of them is the last one added under its key and had not ended by then; and there is no
  other such cookie. -/
  mem_iff : ∀ c, c ∈ s.cookies ↔ ∃ before now later, log = before ++ ⟨now, c⟩ :: later ∧
    c.isExpired now = false ∧ ∀ a ∈ later, a.cookie.key ≠ c.key
  /-- No key is there twice. -/
  nodup : (s.cookies.map (·.key)).Nodup
  /-- What is sent to a URL are the names and values of the cookies that match it, in that order. -/
  sentTo_eq : ∀ now u, s.sentTo now u =
    (s.cookies.filter fun c => c.Matches u now).map fun c => (c.name, c.value)
  /-- A header whose cookie has no age takes away the cookie of its key, and leaves all others as
  they are. -/
  removed : ∀ received now u header h age, SetCookie.read? header = some h →
    h.maxAge? = some age → age ≤ 0 →
    ∃ t, s.step (.store received u [(now, header)]) = .ok t ∧ t.cookies = s.cookies.filter fun c =>
      c.key ≠ (Cookie.ofHeader h u (Cookie.exactExpiry h received)).key

theorem reflects_of_cookies {s : CookieStore} {l : List Addition} (h : s.cookies = lastWrites l) :
    s.Reflects l where
  cookies_eq := h
  mem_iff c := by rw [h, mem_lastWrites_iff]
  nodup := by
    rw [h]
    exact nodup_lastWrites l
  sentTo_eq := s.sentTo_eq
  removed received now u _ _ _ hread hage hle := s.step_of_maxAge hread hage hle received now u

/-- **Every store reflects its log**, whatever was done to it and whenever; but there is none behind
a response with a date that leaves the words. -/
theorem behind_reflects_log (l : List Operation) :
    (∃ s, behind l = .ok s ∧ (∀ o ∈ l, ¬ o.Overflows) ∧ s.Reflects (log l)) ∨
      behind l = .error .overflow ∧ ∃ o ∈ l, o.Overflows := by
  by_cases hover : ∃ o ∈ l, o.Overflows
  · exact .inr ⟨behind_of_overflows hover, hover⟩
  · have hfits : ∀ o ∈ l, ¬ o.Overflows := fun o ho hover' => hover ⟨o, ho, hover'⟩
    obtain ⟨s, hs, hcookies⟩ := behind_of_fits hfits
    exact .inl ⟨s, hs, hfits, reflects_of_cookies hcookies⟩

/-- A header with a date beyond all words takes away the cookie of the header behind it, too, and
the store with them: the log has both cookies. -/
theorem behind_distantYear :
    let u := (Url.read? "http://h.test/").getD default
    let l : List Operation := [
      .store 0 u [(0, "id=1; Expires=Wed, 21 Oct 300000000000 07:28:00 GMT"), (0, "b=2")]]
    (log l).map (fun a => (a.cookie.name, a.cookie.expires.isSome)) =
      [("id", true), ("b", false)] ∧
      (lastWrites (log l)).map (·.name) = ["id", "b"] ∧ behind l = .error .overflow := by
  intro u l
  have hover : ∃ o ∈ l, o.Overflows := ⟨_, List.mem_singleton_self _,
    (0, "id=1; Expires=Wed, 21 Oct 300000000000 07:28:00 GMT"), by simp, by decide +kernel⟩
  exact ⟨by decide +kernel, by decide +kernel, behind_of_overflows hover⟩

end CookieStore

end HttpScript
