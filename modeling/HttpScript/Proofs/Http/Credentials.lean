import HttpScript.Proofs.Http.Redirects

/-! # Where credentials go

A client that was given a user puts a header for it into every hop, also into one that a redirect
leads to another server with. So the credentials stay with the origin of a request only as long
as the redirects do.

* `Url.origin`, `Url.origin_of_join?`: a reference without a scheme and a host stays at an origin.
* `Hop.GoesTo`: a hop to a URL, with all credentials in it.
* `Client.follow_sends`: an invariant of URLs that redirects keep holds wherever hops go to.
* `Client.execute_credentials`: which credentials are sent, and where to. -/

namespace HttpScript

namespace Url

/-- **The origin of a URL**: its scheme, its host and the port that it leads to. -/
def origin (u : Url) : String × Option Host × Option Nat := (u.scheme, u.host, u.effectivePort)

/-- **A reference without a scheme and a host.** -/
def IsLocal (s : String) : Prop :=
  scheme? (clean s) = none ∧ ((clean s).takeWhile (isSlash true)).length < 2

instance (s : String) : Decidable (IsLocal s) := inferInstanceAs (Decidable (_ ∧ _))

theorem origin_tail (u : Url) (l : List Char) : (tail u l).origin = u.origin := by
  unfold tail
  split <;> rfl

theorem origin_pathAndTail (u : Url) (l : List Char) : (pathAndTail u l).origin = u.origin := by
  unfold pathAndTail
  dsimp only
  split <;> exact origin_tail _ _

theorem isSlash_of_isSlash {special : Bool} {c : Char} (h : isSlash special c = true) :
    isSlash true c = true := by
  cases special with
  | true => exact h
  | false => simpa [isSlash] using .inl (by simpa [isSlash] using h)

/-- **A reference without a scheme and a host stays at an origin.** -/
theorem origin_of_join? {base v : Url} {s : String} (hs : IsLocal s)
    (h : base.join? s = some v) : v.origin = base.origin := by
  obtain ⟨hscheme, hslashes⟩ := hs
  unfold join? at h
  simp only [hscheme] at h
  generalize clean s = l at h hslashes
  unfold relative? at h
  dsimp only at h
  split at h
  · rw [← Option.some.inj h]
    rfl
  · rw [← Option.some.inj h]
    rfl
  · cases h
  · rename_i c rest _ _
    split at h
    · rw [← Option.some.inj h, origin_tail]
    · split at h
      · rename_i hc
        split at h
        · rename_i d after
          split at h
          · -- two slashes begin a host
            rename_i hd
            rw [List.takeWhile_cons_of_pos (isSlash_of_isSlash hc),
              List.takeWhile_cons_of_pos (isSlash_of_isSlash hd)] at hslashes
            simp only [List.length_cons] at hslashes
            omega
          · rw [← Option.some.inj h, origin_pathAndTail]
        · rw [← Option.some.inj h, origin_pathAndTail]
      · rw [← Option.some.inj h, origin_tail]
        rfl

end Url

namespace Http

/-! ### One hop -/

namespace Hop

/-- The values of the header for credentials in a hop to a URL: one for the user in the URL, those
that are written in the request and one for the user that the client was given. -/
def credentials (o : ClientOptions) (r : Request) (u : Url) : List String :=
  (withoutUser u).2.map (·.2) ++ r.headers.values "Authorization" ++
    (o.user.map fun user => (authorization user).2).toList

/-- **A hop to a URL, with all credentials in it.** -/
structure GoesTo (o : ClientOptions) (r : Request) (u : Url) (h : Hop) : Prop where
  url : h.url = (withoutUser u).1
  credentials : h.headers.values "Authorization" = credentials o r u

theorem origin_withoutUser (u : Url) : (withoutUser u).1.origin = u.origin := by
  unfold withoutUser
  split
  · rfl
  · split <;> rfl

theorem content?_name {r : Request} {before more : Pairs} {body : List UInt8}
    (h : content? r before = some (more, body)) : ∀ p ∈ more, p.1 = "Content-Type" := by
  unfold content? at h
  split at h
  · rw [← (Prod.mk.inj (Option.some.inj h)).1]
    exact typeHeader_name _ _
  · split at h
    · split at h
      · rw [← (Prod.mk.inj (Option.some.inj h)).1]
        exact typeHeader_name false _
      · cases h
    · split at h
      · rw [← (Prod.mk.inj (Option.some.inj h)).1]
        simp
      · rw [← (Prod.mk.inj (Option.some.inj h)).1]
        split
        · exact typeHeader_name _ _
        · simp

theorem values_authorization (o : ClientOptions) (u : Url) (r : Request) (kept : Pairs)
    (first : Bool) :
    (headersWithoutContent o u r kept first).values "Authorization" = credentials o r u := by
  have hself : sameName "Authorization" "Authorization" = true := by decide
  have hcookie : sameName "Cookie" "Authorization" = false := by decide
  have hcoding : sameName "Accept-Encoding" "Authorization" = false := by decide
  rw [headersWithoutContent, Pairs.values_append, Pairs.values_append, Pairs.values_append,
    Pairs.values_append, Pairs.values_of_name (withoutUser_name u),
    values_ownHeaders r first (by decide), Pairs.values_of_name (cookieHeader_name _),
    Pairs.values_of_name (codingHeader_name o r), Pairs.values_of_name (userHeader_name o), hself,
    hcookie, hcoding]
  simp only [map_cookieHeader, Bool.false_eq_true, if_false, if_true, List.append_nil, credentials]
  cases o.user <;> rfl

/-- **Every hop that is built** carries all credentials to where it goes. -/
theorem goesTo_of_build? {o : ClientOptions} {method : String} {u : Url} {r : Request}
    {kept : Pairs} {first : Bool} {hop : Hop} (h : build? o method u r kept first = some hop) :
    hop.GoesTo o r u := by
  -- the content of the first hop adds headers, but none for credentials
  obtain ⟨more, body, hmore, rfl⟩ : ∃ (more : Pairs) (body : List UInt8),
      (∀ p ∈ more, p.1 = "Content-Type") ∧
      (let headers := headersWithoutContent o u r kept first ++ more
      (⟨method, (withoutUser u).1, headers ++ defaults headers, body⟩ : Hop)) = hop := by
    cases first with
    | true =>
      obtain ⟨⟨more, body⟩, hcontent, hhop⟩ := Option.bind_eq_some_iff.mp h
      exact ⟨more, body, content?_name hcontent, Option.some.inj hhop⟩
    | false => exact ⟨[], [], by simp, Option.some.inj h⟩
  refine ⟨rfl, ?_⟩
  dsimp only
  rw [Pairs.values_append, Pairs.values_append, values_authorization, Pairs.values_of_name hmore,
    values_defaults _ (by decide) (by decide)]
  simp [show sameName "Content-Type" "Authorization" = false by decide]

end Hop

/-- **A network whose redirects stay within an origin**: a location that is to be followed leads
from a URL to one of the same origin. -/
def Network.StaysWithin {σ : Type} (n : Network σ) (o : ClientOptions) : Prop :=
  ∀ (u v : Url) (h : Hop) (w : σ) (p : Response) (location : String),
    h.url = (Hop.withoutUser u).1 → (n.send h w).1 = .ok p → Client.Redirects o p location →
    u.join? location = some v → v.origin = u.origin

variable {σ : Type}

theorem Network.staysWithin_of_not_following (n : Network σ) {o : ClientOptions}
    (h : o.followLocation = false) : n.StaysWithin o := by
  intro _ _ _ _ _ _ _ _ hredirects
  exact absurd (h.symm.trans hredirects.1) (by decide)

theorem Network.staysWithin_of_isLocal {n : Network σ} {o : ClientOptions}
    (h : ∀ hop w p location, (n.send hop w).1 = .ok p → Client.Redirects o p location →
      Url.IsLocal location) : n.StaysWithin o :=
  fun _ _ hop w p location _ hsend hredirects hjoin =>
    Url.origin_of_join? (h hop w p location hsend hredirects) hjoin

/-- What is answered was sent. -/
theorem Network.send_of_attempt {n : Network σ} {h : Hop} {w : σ} {p : Response}
    (hp : (n.attempt h w).1 = .ok p) : h.isSendable = true ∧ (n.send h w).1 = .ok p := by
  unfold attempt at hp
  unfold Hop.isSendable
  cases hc : h.check with
  | error e => simp [hc] at hp
  | ok h' =>
    obtain rfl := Hop.eq_of_check hc
    exact ⟨rfl, by simpa [hc] using hp⟩

namespace Client

/-! ### All hops of a request -/

variable {o : ClientOptions} {r : Request} {u : Url}

/-- **One hop**: sending ends with it, or goes on behind it where its answer leads to. -/
theorem follow_step (n : Network σ) (left : Nat) (first : Bool) (method : String) (elapsed : Nat)
    (cookies : CookieStore) (w : σ) (log : List Hop) :
    (∃ sent, (follow n.recording o r left first method u elapsed cookies (w, log)).2.2.2 =
      log ++ sent ∧ ∀ h ∈ sent, h.GoesTo o r u) ∨
    ∃ hop p location v left' elapsed' cookies' w', left = left' + 1 ∧ hop.GoesTo o r u ∧
      (n.send hop w).1 = .ok p ∧ Redirects o p location ∧ u.join? location = some v ∧
      follow n.recording o r left first method u elapsed cookies (w, log) =
        follow n.recording o r left' false "GET" v elapsed' cookies' (w', log ++ [hop]) := by
  cases hbuild : Hop.build? o method u r (cookies.sentTo (n.now w) u) first with
  | none =>
    left
    refine ⟨[], ?_, by simp⟩
    have hexchange : exchange n.recording o r first method u cookies (w, log) =
        (.error (.fault (.client HopFault.malformed.message)), cookies, (w, log)) := by
      unfold exchange
      simp only [Network.recording, hbuild]
    rw [follow, hexchange, List.append_nil]
  | some hop =>
    have hgoes := Hop.goesTo_of_build? hbuild
    have hsent : ∀ h ∈ [hop].filter (·.isSendable), h.GoesTo o r u := by
      intro h hh
      rw [List.mem_singleton.mp (List.mem_of_mem_filter hh)]
      exact hgoes
    have hfollow := follow_of_build n.recording (w := (w, log)) left elapsed hbuild
    simp only [Network.attempt_recording] at hfollow
    rw [hfollow]
    cases hanswer : (n.attempt hop w).1 with
    | error e => exact .inl ⟨_, rfl, hsent⟩
    | ok p =>
      obtain ⟨hsendable, hsend⟩ := Network.send_of_attempt hanswer
      dsimp only
      -- whatever is kept of its cookies
      generalize cookies.tryStore _ u _ = stored
      cases stored with
      | error e => exact .inl ⟨_, rfl, hsent⟩
      | ok kept =>
        dsimp only
        cases hlocation : location? o p with
        | none => exact .inl ⟨_, rfl, hsent⟩
        | some location =>
          cases left with
          | zero => exact .inl ⟨_, rfl, hsent⟩
          | succ left =>
            cases hjoin : u.join? location with
            | none =>
              simp only [hjoin]
              exact .inl ⟨_, rfl, hsent⟩
            | some v =>
              simp only [hjoin, List.filter_cons_of_pos hsendable, List.filter_nil]
              exact .inr ⟨hop, p, location, v, left, _, _, _, rfl, hgoes, hsend,
                (location?_eq_some_iff o p location).mp hlocation, hjoin, rfl⟩

/-- **Where the hops of a request go to**: the first one to its URL, and all to URLs of which an
invariant holds that redirects keep. -/
theorem follow_sends (n : Network σ) {I : Url → Prop}
    (hI : ∀ (u v : Url) (h : Hop) (w : σ) (p : Response) (location : String), I u →
      h.GoesTo o r u → (n.send h w).1 = .ok p → Redirects o p location →
      u.join? location = some v → I v)
    (left : Nat) (first : Bool) (method : String) (elapsed : Nat) (cookies : CookieStore) (w : σ)
    (log : List Hop) (hu : I u) :
    ∃ sent, (follow n.recording o r left first method u elapsed cookies (w, log)).2.2.2 =
      log ++ sent ∧ (∀ h ∈ sent.head?, h.GoesTo o r u) ∧ ∀ h ∈ sent, ∃ v, I v ∧ h.GoesTo o r v := by
  -- on the redirects that are left, of which one more hop takes one
  induction left using Nat.strongRecOn generalizing first method u elapsed cookies w log with
  | ind left ih =>
    rcases follow_step n left first method elapsed cookies w log with ⟨sent, hlog, hsent⟩ |
      ⟨hop, p, location, v, left', elapsed', cookies', w', hleft, hgoes, hsend, hl, hjoin, hnext⟩
    · exact ⟨sent, hlog, fun h hh => hsent h (List.mem_of_mem_head? hh),
        fun h hh => ⟨u, hu, hsent h hh⟩⟩
    · have hv : I v := hI u v hop w p location hu hgoes hsend hl hjoin
      obtain ⟨sent, hlog, -, hall⟩ :=
        ih left' (by omega) false "GET" elapsed' cookies' w' (log ++ [hop]) hv
      refine ⟨hop :: sent, ?_, ?_, ?_⟩
      · rw [hnext, hlog, List.append_assoc, List.singleton_append]
      · intro h hh
        obtain rfl : hop = h := by simpa using hh
        exact hgoes
      · intro h hh
        rcases List.mem_cons.mp hh with rfl | hh
        · exact ⟨u, hu, hgoes⟩
        · exact hall h hh

/-- **The credentials that are sent, and where to.** Every hop of a request carries all of them,
wherever it goes. The first one goes to the URL of the request, and the others stay with its origin
where redirects do or are not followed. -/
theorem execute_credentials (n : Network σ) (o : ClientOptions) (r : Request)
    (cookies : CookieStore) (w : σ) :
    let sent := (execute n.recording o r cookies (w, [])).2.2.2
    (∀ h ∈ sent, ∃ v, h.GoesTo o r v) ∧
    ∀ u, urlOf? r = some u → (∀ h ∈ sent.head?, h.GoesTo o r u) ∧
      (o.followLocation = false ∨ n.StaysWithin o → ∀ h ∈ sent, h.url.origin = u.origin) := by
  intro sent
  cases hu : urlOf? r with
  | none =>
    have hsent : sent = [] := by simp [sent, execute, hu]
    simp [hsent]
  | some u =>
    by_cases hm : Hop.isMethod r.method = true
    · have hexecute : sent = (follow n.recording o r maxRedirects true r.method u 0 cookies
          (w, [])).2.2.2 := by simp [sent, execute, hu, hm]
      -- the origin of the request is an invariant of redirects that stay within it
      obtain ⟨hops, hlog, hfirst, hall⟩ := follow_sends n (u := u)
        (I := fun v => n.StaysWithin o → v.origin = u.origin)
        (fun v v' hop w p location hv hgoes hsend hl hjoin hstays =>
          (hstays v v' hop w p location hgoes.url hsend hl hjoin).trans (hv hstays))
        maxRedirects true r.method 0 cookies w [] fun _ => rfl
      rw [hexecute, hlog, List.nil_append]
      refine ⟨fun h hh => (hall h hh).imp fun v hv => hv.2, ?_⟩
      intro u' hu'
      obtain rfl := Option.some.inj hu'
      refine ⟨hfirst, fun hwithin h hh => ?_⟩
      have hstays : n.StaysWithin o := hwithin.elim n.staysWithin_of_not_following id
      obtain ⟨v, hv, hgoes⟩ := hall h hh
      rw [hgoes.url, Hop.origin_withoutUser, hv hstays]
    · have hsent : sent = [] := by simp [sent, execute, hu, hm]
      simp [hsent]

/-- A network that answers the first hop with a redirect and the others without. -/
def redirectingTo (location : String) : Network Nat where
  send _ k := (.ok (if k = 0 then
    { (default : Response) with status := 302, headers := [("Location", location)] }
    else { (default : Response) with status := 200 }), k + 1)
  now _ := 0

/-- Behind a redirect to another path the credentials go to the same server. -/
theorem execute_credentials_redirected :
    let n := redirectingTo "/q"
    let o : ClientOptions :=
      { ClientOptions.standard with followLocation := true, user := some "bob:secret" }
    let r : Request := { (default : Request) with method := "GET", url := "http://a.test/p" }
    let u : Url := ⟨"http", "", "", some (.domain "a.test"), none, .segments ["p"], none, none⟩
    let sent := (execute n.recording o r .empty (0, [])).2.2.2
    (urlOf? r = some u ∧ n.StaysWithin o ∧
      sent.map (fun h => (h.url.text, h.headers.values "Authorization")) =
        [("http://a.test/p", ["Basic Ym9iOnNlY3JldA=="]),
          ("http://a.test/q", ["Basic Ym9iOnNlY3JldA=="])]) ∧
    ∀ h ∈ sent, h.url.origin = u.origin := by
  intro n o r u sent
  have hu : urlOf? r = some u := by decide +kernel
  have hheader : Pairs.values [("Location", "/q")] "Location" = ["/q"] := by decide
  have hstays : n.StaysWithin o := Network.staysWithin_of_isLocal fun hop w p location hp hl => by
    obtain rfl := Except.ok.inj hp
    by_cases hw : w = 0
    · obtain rfl : "/q" = location := by simpa [hw, Response.header, hheader] using hl.2.2
      decide
    · exact absurd hl.2.1 (by simp [hw])
  exact ⟨⟨hu, hstays, by decide +kernel⟩,
    ((execute_credentials n o r .empty 0).2 u hu).2 (.inr hstays)⟩

/-- Behind a redirect to another server the credentials go there. -/
theorem credentials_elsewhere :
    let o : ClientOptions :=
      { ClientOptions.standard with followLocation := true, user := some "bob:secret" }
    let r : Request := { (default : Request) with method := "GET", url := "http://a.test/p" }
    let sent := (execute (redirectingTo "http://b.test/q").recording o r .empty (0, [])).2.2.2
    Hop.authorization "bob:secret" = ("Authorization", "Basic Ym9iOnNlY3JldA==") ∧
      sent.map (fun h => (h.url.text, h.headers.values "Authorization")) =
        [("http://a.test/p", ["Basic Ym9iOnNlY3JldA=="]),
          ("http://b.test/q", ["Basic Ym9iOnNlY3JldA=="])] ∧
      ¬ ∀ h ∈ sent, (Hop.authorization "bob:secret").2 ∈ h.headers.values "Authorization" →
        (urlOf? r).map Url.origin = some h.url.origin := by
  intro o r sent
  exact ⟨by decide +kernel, by decide +kernel, by decide +kernel⟩

end Client

end Http

end HttpScript
