import HttpScript.Http.Client
import HttpScript.Proofs.Cookie.Arithmetic
import HttpScript.Proofs.Cookie.Matches
import HttpScript.Proofs.Http.Hop
import Mathlib.Control.Monad.Basic
import Mathlib.Data.List.Chain
import Mathlib.Tactic.SplitIfs

/-! # Following redirects

Sending a request is a *journey*: one hop after another, each of which goes where the answer to the
one before leads. It ends with the first answer that leads nowhere, with the first fault, when too
many redirects have been followed, or with the first cookie whose date cannot be counted.

* `Redirects`: an answer that is to be followed, and where to. `Response.Fits`: an answer whose
  cookies can be kept.
* `Leg`, `Leg.LeadsTo`: a hop with what is known before it and its answer, and the hop behind it.
* `Ends`: what a journey yields, read off its last leg.
* `Journey`: all that is known of the hops of a request. `Journey.single` and `Journey.cons` are its
  first and its further legs.
* `follow_journey`: following redirects is a journey, and its hops are what is sent.
* `execute_journey`: sending any request is a journey, of at most 51 hops. -/

namespace HttpScript.Http

variable {σ : Type}

namespace Network

/-- Sends a hop if it can be sent. -/
def attempt (n : Network σ) (h : Hop) (w : σ) : Except HopFault Response × σ :=
  match h.check with
  | .error e => (.error e, w)
  | .ok h => n.send h w

/-- A network that writes down what is sent over it. -/
def recording (n : Network σ) : Network (σ × List Hop) where
  send h p := ((n.send h p.1).1, (n.send h p.1).2, p.2 ++ [h])
  now p := n.now p.1

end Network

/-- Whether a hop can be sent. -/
def Hop.isSendable (h : Hop) : Bool := h.check.isOk

theorem Hop.eq_of_check {h h' : Hop} (hc : h.check = .ok h') : h' = h := by
  unfold Hop.check at hc
  split_ifs at hc
  exact (Except.ok.inj hc).symm

/-- Only what can be sent is written down. -/
theorem Network.attempt_recording (n : Network σ) (h : Hop) (w : σ) (log : List Hop) :
    n.recording.attempt h (w, log) =
      ((n.attempt h w).1, (n.attempt h w).2, log ++ [h].filter (·.isSendable)) := by
  unfold attempt Hop.isSendable
  cases hc : h.check with
  | error e => simp [hc, Except.isOk, Except.toBool]
  | ok h' =>
    obtain rfl := Hop.eq_of_check hc
    simp [hc, Except.isOk, Except.toBool, recording]

/-- **A response whose cookies can be kept**: no date of theirs leaves the words. -/
def Response.Fits (p : Response) : Prop :=
  ∀ header ∈ p.header "Set-Cookie", ¬ CookieStore.Overflows header

theorem Response.Fits.tryStore {p : Response} (h : p.Fits) (s : CookieStore) (received : Nat)
    (u : Url) : ∃ kept, s.tryStore received u
      ((p.header "Set-Cookie").map fun header => (received, header)) = .ok kept := by
  refine ⟨_, CookieStore.tryStore_of_fits s received u fun q hq => ?_⟩
  obtain ⟨header, hheader, rfl⟩ := List.mem_map.mp hq
  exact h header hheader

theorem Response.tryStore_of_not_fits {p : Response} (h : ¬ p.Fits) (s : CookieStore)
    (received : Nat) (u : Url) : s.tryStore received u
      ((p.header "Set-Cookie").map fun header => (received, header)) = .error .overflow := by
  unfold Response.Fits at h
  push Not at h
  obtain ⟨header, hheader, hover⟩ := h
  exact CookieStore.tryStore_of_overflows s received u ⟨_, List.mem_map_of_mem hheader, hover⟩

namespace Client

/-! ### Legs -/

/-- **An answer that is to be followed** to a location: redirects are followed, its status is that
of one, and this is its first `Location`. -/
def Redirects (o : ClientOptions) (p : Response) (location : String) : Prop :=
  o.followLocation = true ∧ p.status ∈ [301, 302, 303, 307, 308] ∧
    (p.header "Location").head? = some location

theorem location?_eq_some_iff (o : ClientOptions) (p : Response) (location : String) :
    location? o p = some location ↔ Redirects o p location := by
  unfold location? Redirects isRedirect
  rw [List.contains_iff_mem.symm]
  cases o.followLocation <;> cases [301, 302, 303, 307, 308].contains p.status <;> simp

theorem location?_eq_none_iff (o : ClientOptions) (p : Response) :
    location? o p = none ↔ ∀ location, ¬ Redirects o p location := by
  simp only [← location?_eq_some_iff]
  exact Option.eq_none_iff_forall_ne_some

/-- **One hop of a journey**: the url, the cookies and the network before it, what was to be sent,
and the answer. -/
structure Leg (σ : Type) where
  url : Url
  cookies : CookieStore
  state : σ
  hop : Hop
  answer : Except HopFault Response

namespace Leg

/-- The network behind a hop. -/
def behind (n : Network σ) (g : Leg σ) : σ := (n.attempt g.hop g.state).2

/-- What is kept for the url of a hop: the names and values of the cookies that match it. -/
def kept (n : Network σ) (g : Leg σ) : Pairs :=
  (g.cookies.cookies.filter fun c => c.Matches g.url (n.now g.state)).map fun c => (c.name, c.value)

/-- How long the answer took. -/
def microseconds (g : Leg σ) : Nat :=
  match g.answer with
  | .ok p => p.microseconds
  | .error _ => 0

/-- A hop whose answer is to be followed. -/
def IsRedirected (o : ClientOptions) (g : Leg σ) : Prop :=
  ∃ p location, g.answer = .ok p ∧ p.Fits ∧ Redirects o p location

/-- **A hop and the one behind it.** The answer of the first leads to the second; its location is
joined to the url of the first, and its cookies are kept. -/
def LeadsTo (n : Network σ) (o : ClientOptions) (g g' : Leg σ) : Prop :=
  ∃ p location, g.answer = .ok p ∧ Redirects o p location ∧ g.url.join? location = some g'.url ∧
    g'.state = g.behind n ∧
    let received := n.now (g.behind n)
    g.cookies.tryStore received g.url
      ((p.header "Set-Cookie").map fun header => (received, header)) = .ok g'.cookies

theorem LeadsTo.isRedirected {n : Network σ} {o : ClientOptions} {g g' : Leg σ}
    (h : g.LeadsTo n o g') : g.IsRedirected o := by
  obtain ⟨p, location, hp, hl, -, -, hstored⟩ := h
  refine ⟨p, location, hp, ?_, hl⟩
  by_contra hno
  have hover := Response.tryStore_of_not_fits hno g.cookies (n.now (g.behind n)) g.url
  cases hover.symm.trans hstored

end Leg

/-- **What a journey yields** that ends with a given leg, the `count`-th one, where `most` are the
most that there can be and all answers together took `time`. -/
inductive Ends (o : ClientOptions) (most count : Nat) (g : Leg σ) (time : Nat) :
    Except Stop Response → Prop
  /-- There was no answer in time. -/
  | timeout (h : g.answer = .error .timeout) :
      Ends o most count g time (.error (.fault (.timeout g.url.text)))
  /-- Another fault of the hop. -/
  | transport {e : HopFault} (h : g.answer = .error e) (he : e ≠ .timeout) :
      Ends o most count g time (.error (.fault (.transport g.url.text e.message)))
  /-- An answer with a cookie whose date cannot be counted. -/
  | overflow {p : Response} (h : g.answer = .ok p) (hfits : ¬ p.Fits) :
      Ends o most count g time (.error .overflow)
  /-- An answer that is not followed. -/
  | answer {p : Response} (h : g.answer = .ok p) (hfits : p.Fits)
      (hl : ∀ location, ¬ Redirects o p location) :
      Ends o most count g time (.ok { p with microseconds := time })
  /-- A location that leads nowhere. -/
  | nowhere {p : Response} {location : String} (h : g.answer = .ok p) (hfits : p.Fits)
      (hl : Redirects o p location) (hc : count < most) (hj : g.url.join? location = none) :
      Ends o most count g time (.error (.fault (.invalidUrl location)))
  /-- One redirect too many. -/
  | tooMany {p : Response} {location : String} (h : g.answer = .ok p) (hfits : p.Fits)
      (hl : Redirects o p location) (hc : count = most) :
      Ends o most count g time (.error (.fault (.tooManyRedirects maxRedirects)))

/-- **The hops of a request**, of which there are at most `most`: the legs of its journey to `u`,
which began `elapsed` before, and what it yields. The first leg is that of the request itself if
`first` holds. -/
structure Journey (n : Network σ) (o : ClientOptions) (r : Request) (most : Nat) (first : Bool)
    (u : Url) (elapsed : Nat) (cookies : CookieStore) (w : σ) (legs : List (Leg σ))
    (result : Except Stop Response) : Prop where
  /-- It begins at the url, with the cookies and the network as they are. -/
  start : ∃ g, legs.head? = some g ∧ g.url = u ∧ g.cookies = cookies ∧ g.state = w ∧
    g.hop.Carries r first u (g.kept n)
  /-- The hops behind the first one carry nothing of what the request is for. -/
  later : ∀ g ∈ legs.tail, g.hop.Carries r false g.url (g.kept n)
  /-- Each hop is answered by the network. -/
  answered : ∀ g ∈ legs, g.answer = (n.attempt g.hop g.state).1
  /-- Each answer but the last leads to the next hop. -/
  chain : legs.IsChain (Leg.LeadsTo n o)
  length_le : legs.length ≤ most
  /-- The last answer gives the result. -/
  ends : ∃ g, legs.getLast? = some g ∧
    Ends o most legs.length g (elapsed + (legs.map Leg.microseconds).sum) result

/-! ### Building a journey -/

section

variable {n : Network σ} {o : ClientOptions} {r : Request} {most count : Nat} {first : Bool}
  {g g' : Leg σ} {u : Url} {elapsed time : Nat} {cookies : CookieStore} {w : σ}
  {legs : List (Leg σ)} {result : Except Stop Response}

theorem Ends.succ (h : Ends o most count g time result) :
    Ends o (most + 1) (count + 1) g time result := by
  cases h with
  | timeout h => exact .timeout h
  | transport h he => exact .transport h he
  | overflow h hfits => exact .overflow h hfits
  | answer h hfits hl => exact .answer h hfits hl
  | nowhere h hfits hl hc hj => exact .nowhere h hfits hl (Nat.succ_lt_succ hc) hj
  | tooMany h hfits hl hc => exact .tooMany h hfits hl (congrArg (· + 1) hc)

theorem Ends.fault {e : HopFault} (h : g.answer = .error e) :
    Ends o most count g time (.error (.fault (faultOf g.url e))) := by
  by_cases he : e = .timeout
  · subst he
    exact .timeout h
  · have hfault : faultOf g.url e = .transport g.url.text e.message := by
      unfold faultOf
      split
      · exact absurd rfl he
      · rfl
    rw [hfault]
    exact .transport h he

namespace Journey

theorem single (hcarries : g.hop.Carries r first g.url (g.kept n))
    (hanswer : g.answer = (n.attempt g.hop g.state).1)
    (h : Ends o (most + 1) 1 g (elapsed + g.microseconds) result) :
    Journey n o r (most + 1) first g.url elapsed g.cookies g.state [g] result where
  start := ⟨g, rfl, rfl, rfl, rfl, hcarries⟩
  later g' hg' := by simp at hg'
  answered g' hg' := by
    rw [List.mem_singleton.mp hg']
    exact hanswer
  chain := List.isChain_singleton g
  length_le := Nat.succ_le_succ (Nat.zero_le most)
  ends := ⟨g, rfl, h⟩

theorem cons (hcarries : g.hop.Carries r first g.url (g.kept n))
    (hanswer : g.answer = (n.attempt g.hop g.state).1)
    (hleads : ∀ g', g'.url = u → g'.cookies = cookies → g'.state = w → g.LeadsTo n o g')
    (h : Journey n o r most false u (elapsed + g.microseconds) cookies w legs result) :
    Journey n o r (most + 1) first g.url elapsed g.cookies g.state (g :: legs) result := by
  obtain ⟨g', hhead, hurl, hcookies, hstate, hcarries'⟩ := h.start
  obtain ⟨legs, rfl⟩ : ∃ rest, legs = g' :: rest := List.head?_eq_some_iff.mp hhead
  obtain ⟨last, hlast, hends⟩ := h.ends
  rw [Nat.add_assoc] at hends
  exact {
    start := ⟨g, rfl, rfl, rfl, rfl, hcarries⟩
    later := fun x hx => by
      rcases List.mem_cons.mp hx with rfl | hx
      · rw [hurl]
        exact hcarries'
      · exact h.later x hx
    answered := fun x hx => by
      rcases List.mem_cons.mp hx with rfl | hx
      · exact hanswer
      · exact h.answered x hx
    chain := List.isChain_cons_cons.mpr ⟨hleads g' hurl hcookies hstate, h.chain⟩
    length_le := Nat.succ_le_succ h.length_le
    ends := ⟨last, by rw [List.getLast?_cons_cons]; exact hlast, hends.succ⟩ }

theorem length_eq_one (h : Journey n o r most first u elapsed cookies w legs result)
    (ho : o.followLocation = false) : legs.length = 1 := by
  obtain ⟨g, hhead, -⟩ := h.start
  obtain ⟨rest, rfl⟩ := List.head?_eq_some_iff.mp hhead
  cases rest with
  | nil => rfl
  | cons g' rest =>
    obtain ⟨_, _, -, hl, -⟩ := (List.isChain_cons_cons.mp h.chain).1
    rw [hl.1] at ho
    exact Bool.noConfusion ho

theorem isRedirected_of_chain (hchain : legs.IsChain (Leg.LeadsTo n o))
    (hlast : ∀ g ∈ legs.getLast?, g.IsRedirected o) : ∀ g ∈ legs, g.IsRedirected o := by
  induction legs with
  | nil => simp
  | cons g legs ih =>
    intro x hx
    cases legs with
    | nil =>
      rw [List.mem_singleton.mp hx]
      exact hlast g rfl
    | cons g' legs =>
      obtain ⟨hleads, htail⟩ := List.isChain_cons_cons.mp hchain
      rcases List.mem_cons.mp hx with rfl | hx
      · exact hleads.isRedirected
      · exact ih htail (fun y hy => hlast y (by rwa [List.getLast?_cons_cons])) x hx

/-- Too many redirects are followed exactly where all hops that there can be are redirected. -/
theorem tooMany_iff (h : Journey n o r most first u elapsed cookies w legs result) :
    result = .error (.fault (.tooManyRedirects maxRedirects)) ↔
      legs.length = most ∧ ∀ g ∈ legs, g.IsRedirected o := by
  obtain ⟨last, hlast, hends⟩ := h.ends
  constructor
  · intro hresult
    cases hends with
    | timeout he => simp at hresult
    | transport he => simp at hresult
    | overflow he hfits => simp at hresult
    | answer he hfits hl => simp at hresult
    | nowhere he hfits hl hc hj => simp at hresult
    | tooMany he hfits hl hc =>
      refine ⟨hc, isRedirected_of_chain h.chain fun g hg => ?_⟩
      obtain rfl : last = g := by simpa [hlast] using hg
      exact ⟨_, _, he, hfits, hl⟩
  · rintro ⟨hlength, hall⟩
    obtain ⟨p, location, hp, hkept, hl⟩ := hall last (List.mem_of_getLast? hlast)
    cases hends with
    | timeout he => simp [he] at hp
    | transport he => simp [he] at hp
    | overflow he hfits =>
      obtain rfl := Except.ok.inj (he.symm.trans hp)
      exact absurd hkept hfits
    | answer he _ hnone =>
      obtain rfl := Except.ok.inj (he.symm.trans hp)
      exact absurd hl (hnone location)
    | nowhere he _ _ hc _ => exact absurd hlength (Nat.ne_of_lt hc)
    | tooMany he _ hl hc => rfl

end Journey

end

/-! ### Sending a request -/

theorem exchange_of_build (n : Network σ) {o : ClientOptions} {r : Request} {first : Bool}
    {method : String} {u : Url} {cookies : CookieStore} {w : σ} {hop : Hop}
    (h : Hop.build? o method u r (cookies.sentTo (n.now w) u) first = some hop) :
    exchange n o r first method u cookies w =
      match n.attempt hop w with
      | (.error e, w) => (.error (.fault (faultOf u e)), cookies, w)
      | (.ok p, w) =>
        match cookies.tryStore (n.now w) u
            ((p.header "Set-Cookie").map fun header => (n.now w, header)) with
        | .error _ => (.error .overflow, cookies, w)
        | .ok kept => (.ok p, kept, w) := by
  unfold exchange Network.attempt
  simp only [h]
  cases hc : hop.check with
  | error e => rfl
  | ok hop' => rfl

theorem follow_of_build (n : Network σ) {o : ClientOptions} {r : Request} {first : Bool}
    {method : String} {u : Url} {cookies : CookieStore} {w : σ} {hop : Hop} (left elapsed : Nat)
    (h : Hop.build? o method u r (cookies.sentTo (n.now w) u) first = some hop) :
    follow n o r left first method u elapsed cookies w =
      let w' := (n.attempt hop w).2
      match (n.attempt hop w).1 with
      | .error e => (.error (.fault (faultOf u e)), cookies, w')
      | .ok p =>
        match cookies.tryStore (n.now w') u
            ((p.header "Set-Cookie").map fun header => (n.now w', header)) with
        | .error _ => (.error .overflow, cookies, w')
        | .ok kept =>
          match location? o p, left with
          | none, _ => (.ok { p with microseconds := elapsed + p.microseconds }, kept, w')
          | some _, 0 => (.error (.fault (.tooManyRedirects maxRedirects)), kept, w')
          | some location, left + 1 =>
            match u.join? location with
            | none => (.error (.fault (.invalidUrl location)), kept, w')
            | some u => follow n o r left false "GET" u (elapsed + p.microseconds) kept w' := by
  rw [follow, exchange_of_build n h]
  obtain ⟨answer, w'⟩ := n.attempt hop w
  cases answer with
  | error e => rfl
  | ok p =>
    dsimp only
    cases cookies.tryStore (n.now w') u
        ((p.header "Set-Cookie").map fun header => (n.now w', header)) with
    | error e => rfl
    | ok kept =>
      dsimp only
      cases location? o p with
      | none => rfl
      | some location => cases left <;> rfl

/-- Following redirects from a hop to `u` on is a journey, and what is sent over the network are its
hops, as far as they can be sent. -/
def IsJourney (n : Network σ) (o : ClientOptions) (r : Request) (left : Nat) (first : Bool) (u : Url)
    (elapsed : Nat) (cookies : CookieStore) (w : σ) : Prop :=
  let method := if first then r.method else "GET"
  let out := follow n o r left first method u elapsed cookies w
  ∃ legs, Journey n o r (left + 1) first u elapsed cookies w legs out.1 ∧
    ∀ log, follow n.recording o r left first method u elapsed cookies (w, log) =
      (out.1, out.2.1, out.2.2, log ++ (legs.map (·.hop)).filter (·.isSendable))

namespace IsJourney

variable {n : Network σ} {o : ClientOptions} {r : Request} {left elapsed : Nat} {first : Bool}
  {g : Leg σ} {kept : CookieStore} {u : Url}

theorem single {result : Except Stop Response}
    (hcarries : g.hop.Carries r first g.url (g.kept n))
    (hanswer : g.answer = (n.attempt g.hop g.state).1)
    (hends : Ends o (left + 1) 1 g (elapsed + g.microseconds) result)
    (hfollow : follow n o r left first (if first then r.method else "GET") g.url elapsed g.cookies
      g.state = (result, kept, g.behind n))
    (hrecording : ∀ log, follow n.recording o r left first (if first then r.method else "GET") g.url
      elapsed g.cookies (g.state, log) =
        (result, kept, g.behind n, log ++ [g.hop].filter (·.isSendable))) :
    IsJourney n o r left first g.url elapsed g.cookies g.state := by
  refine ⟨[g], ?_, fun log => ?_⟩
  · rw [hfollow]
    exact .single hcarries hanswer hends
  · rw [hrecording, hfollow]
    rfl

theorem cons (hcarries : g.hop.Carries r first g.url (g.kept n))
    (hanswer : g.answer = (n.attempt g.hop g.state).1)
    (hleads : ∀ g', g'.url = u → g'.cookies = kept → g'.state = g.behind n → g.LeadsTo n o g')
    (h : IsJourney n o r left false u (elapsed + g.microseconds) kept (g.behind n))
    (hfollow : follow n o r (left + 1) first (if first then r.method else "GET") g.url elapsed
      g.cookies g.state =
        follow n o r left false "GET" u (elapsed + g.microseconds) kept (g.behind n))
    (hrecording : ∀ log, follow n.recording o r (left + 1) first (if first then r.method else "GET")
      g.url elapsed g.cookies (g.state, log) =
        follow n.recording o r left false "GET" u (elapsed + g.microseconds) kept
          (g.behind n, log ++ [g.hop].filter (·.isSendable))) :
    IsJourney n o r (left + 1) first g.url elapsed g.cookies g.state := by
  obtain ⟨legs, hjourney, hrest⟩ := h
  refine ⟨g :: legs, ?_, fun log => ?_⟩
  · rw [hfollow]
    exact .cons hcarries hanswer hleads hjourney
  · rw [hrecording, hfollow]
    refine (hrest _).trans ?_
    rw [List.append_assoc, ← List.filter_append]
    rfl

end IsJourney

/-- **Following redirects is a journey.** -/
theorem follow_journey (n : Network σ) (o : ClientOptions) {r : Request} (hr : r.TypesValid)
    (left : Nat) (first : Bool) (u : Url) (elapsed : Nat) (cookies : CookieStore) (w : σ) :
    IsJourney n o r left first u elapsed cookies w := by
  -- on the redirects that are left; a hop ends the journey in the same ways with any of them left
  induction left using Nat.strongRecOn generalizing first u elapsed cookies w with
  | ind left ih =>
    obtain ⟨hop, hbuild, hcarries⟩ :=
      Hop.build?_carries o u r (cookies.sentTo (n.now w) u) first hr
    let g : Leg σ := ⟨u, cookies, w, hop, (n.attempt hop w).1⟩
    rw [show cookies.sentTo (n.now w) u = g.kept n from cookies.sentTo_eq (n.now w) u] at hcarries
    have hfollow := follow_of_build n left elapsed hbuild
    -- the same hop is built where it is written down
    have hrecording := fun log => follow_of_build n.recording (w := (w, log)) left elapsed hbuild
    simp only [Network.attempt_recording] at hrecording
    cases hanswer : (n.attempt hop w).1 with
    | error e =>
      simp only [hanswer] at hfollow hrecording
      exact IsJourney.single (g := g) hcarries rfl (.fault hanswer) hfollow hrecording
    | ok p =>
      have htime : g.microseconds = p.microseconds := by simp [Leg.microseconds, g, hanswer]
      have hnow : ∀ log, n.recording.now log = n.now log.1 := fun _ => rfl
      simp only [hanswer, hnow] at hfollow hrecording
      by_cases hfits : p.Fits
      · obtain ⟨kept, hkept⟩ := hfits.tryStore cookies (n.now (n.attempt hop w).2) u
        cases hlocation : location? o p with
        | none =>
          have hlast := (location?_eq_none_iff o p).mp hlocation
          simp only [hkept, hlocation, ← htime] at hfollow hrecording
          exact IsJourney.single (g := g) hcarries rfl (.answer hanswer hfits hlast) hfollow
            hrecording
        | some location =>
          have hl := (location?_eq_some_iff o p location).mp hlocation
          cases left with
          | zero =>
            simp only [hkept, hlocation] at hfollow hrecording
            exact IsJourney.single (g := g) hcarries rfl (.tooMany hanswer hfits hl rfl) hfollow
              hrecording
          | succ left =>
            cases hjoin : u.join? location with
            | none =>
              have hcount : 1 < left + 1 + 1 := Nat.succ_lt_succ (Nat.succ_pos left)
              simp only [hkept, hlocation, hjoin] at hfollow hrecording
              exact IsJourney.single (g := g) hcarries rfl (.nowhere hanswer hfits hl hcount hjoin)
                hfollow hrecording
            | some u' =>
              have hrest := ih left (Nat.lt_succ_self left) false u' (elapsed + g.microseconds) kept
                (n.attempt hop w).2
              simp only [hkept, hlocation, hjoin, ← htime] at hfollow hrecording
              exact IsJourney.cons (g := g) hcarries rfl (fun g' hurl hcookies hstate =>
                ⟨p, location, hanswer, hl, hurl ▸ hjoin, hstate, hcookies ▸ hkept⟩) hrest hfollow
                hrecording
      · have hover := Response.tryStore_of_not_fits hfits cookies (n.now (n.attempt hop w).2) u
        simp only [hover] at hfollow hrecording
        exact IsJourney.single (g := g) hcarries rfl (.overflow hanswer hfits) hfollow hrecording

/-- **Sending a request is a journey** of at most 51 hops, whatever the network answers: without
redirects of one hop, and too many are followed exactly where all 51 hops are redirected. What is
sent over the network are the hops of the journey, as far as they can be sent. -/
theorem execute_journey (n : Network σ) (o : ClientOptions) (r : Request) (cookies : CookieStore)
    (w : σ) {u : Url} (hu : urlOf? r = some u) (hm : Hop.isMethod r.method = true)
    (hr : r.TypesValid) :
    let out := execute n o r cookies w
    ∃ legs, Journey n o r 51 true u 0 cookies w legs out.1 ∧
      (o.followLocation = false → legs.length = 1) ∧
      (out.1 = .error (.fault (.tooManyRedirects 50)) ↔
        legs.length = 51 ∧ ∀ g ∈ legs, g.IsRedirected o) ∧
      execute n.recording o r cookies (w, []) =
        (out.1, out.2.1, out.2.2, (legs.map (·.hop)).filter (·.isSendable)) := by
  obtain ⟨legs, hjourney, hrecording⟩ := follow_journey n o hr maxRedirects true u 0 cookies w
  have hexecute : ∀ {τ : Type} (n : Network τ) (w : τ), execute n o r cookies w =
      follow n o r maxRedirects true r.method u 0 cookies w := fun n w => by
    simp [execute, hu, hm]
  rw [hexecute n w, hexecute n.recording]
  exact ⟨legs, hjourney, hjourney.length_eq_one, hjourney.tooMany_iff, hrecording []⟩

/-- A network that answers from a list, and not at all behind its end. -/
def answeringFrom : Network (List Response) where
  send h
    | [] => (.error (.unanswered h.url), [])
    | p :: answers => (.ok p, answers)
  now _ := 0

/-- A request with a body and a cookie is redirected, and a cookie is set on the way: the second hop
has that cookie only, and no body. -/
theorem execute_journey_redirected :
    let o : ClientOptions := { ClientOptions.standard with followLocation := true }
    let r : Request := { (default : Request) with
      method := "POST", url := "http://h/a", cookies := [("a", "1")], body := some ⟨[1], none⟩ }
    let u : Url := ⟨"http", "", "", some (.domain "h"), none, .segments ["a"], none, none⟩
    let answers : List Response := [
      { (default : Response) with
        status := 302, headers := [("Location", "/b"), ("Set-Cookie", "s=2")] },
      { (default : Response) with status := 200 }]
    let out := execute answeringFrom o r .empty answers
    (urlOf? r = some u ∧ Hop.isMethod r.method = true ∧ r.TypesValid ∧
      (execute answeringFrom.recording o r .empty (answers, [])).2.2.2.map
        (fun h => (h.method, h.url.text, h.body, h.headers.values "Cookie")) =
          [("POST", "http://h/a", [1], ["a=1"]), ("GET", "http://h/b", [], ["s=2"])]) ∧
    ∃ legs, Journey answeringFrom o r 51 true u 0 .empty answers legs out.1 ∧
      (o.followLocation = false → legs.length = 1) ∧
      (out.1 = .error (.fault (.tooManyRedirects 50)) ↔
        legs.length = 51 ∧ ∀ g ∈ legs, g.IsRedirected o) ∧
      execute answeringFrom.recording o r .empty (answers, []) =
        (out.1, out.2.1, out.2.2, (legs.map (·.hop)).filter (·.isSendable)) := by
  intro o r u answers out
  have hu : urlOf? r = some u := by decide +kernel
  have hm : Hop.isMethod r.method = true := by decide
  have hr : r.TypesValid := fun _ _ _ _ hpart => nomatch hpart
  exact ⟨⟨hu, hm, hr, by decide +kernel⟩,
    execute_journey answeringFrom o r .empty answers hu hm hr⟩

/-- A response that is not to be followed but sets a cookie with a date beyond all words is not
given back. -/
theorem execute_distantYear :
    let r : Request := { (default : Request) with method := "GET", url := "http://h.test/" }
    let p : Response := { (default : Response) with
      status := 200
      headers := [("Set-Cookie", "id=1; Expires=Wed, 21 Oct 300000000000 07:28:00 GMT")] }
    ClientOptions.standard.followLocation = false ∧ (urlOf? r).isSome = true ∧
      Hop.isMethod r.method = true ∧ r.multipart = [] ∧
      (execute answeringFrom .standard r .empty [p]).1 = .error .overflow := by
  exact ⟨rfl, by decide +kernel, by decide, rfl, by decide +kernel⟩

end Client

end HttpScript.Http
