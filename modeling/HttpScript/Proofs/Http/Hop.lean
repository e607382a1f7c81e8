import HttpScript.Http.Hop
import HttpScript.Proofs.Http.Multipart

/-! # What a hop carries

Only the first hop of a request carries what the request is for. Each header that the client puts
into a hop of itself has a name of its own, so that the headers of a given name can be told.

* `Pairs.values_append`, `Pairs.values_of_name`: the values of a name in headers put together.
* `Request.Written`: the content that stands for a request, by what is read from it, and its type.
* `Hop.Carries`: what the first hop and the later ones carry.
* `Hop.build?_carries`: the hops that are built carry that. -/

namespace HttpScript.Http

/-! ### Headers by name -/

theorem sameName_iff (a b : String) :
    sameName a b = true ↔ a.toList.map Char.toLower = b.toList.map Char.toLower := by
  simp [sameName]

namespace Pairs

@[simp] theorem values_append (l k : Pairs) (name : String) :
    values (l ++ k) name = values l name ++ values k name := by
  simp [values]

theorem values_of_name {l : Pairs} {own : String} (h : ∀ p ∈ l, p.1 = own) (name : String) :
    values l name = if sameName own name then l.map (·.2) else [] := by
  have hfilter : l.filter (fun p => sameName p.1 name) = l.filter fun _ => sameName own name :=
    List.filter_congr fun p hp => by rw [h p hp]
  unfold values
  rw [hfilter]
  cases sameName own name with
  | false => simp
  | true => rw [List.filter_eq_self.mpr fun _ _ => rfl, if_pos rfl]

end Pairs

/-! ### The content of a request -/

/-- Whether the types of the files in a form can be written. -/
def Request.TypesValid (r : Request) : Prop :=
  ∀ name filename content type, Part.file name filename content (some type) ∈ r.multipart →
    isMediaType type = true

/-- A type that goes with the content of a request if no header of the request gives one. -/
def Request.typeUnlessGiven (r : Request) (type : String) : List String :=
  if r.headers.values "Content-Type" = [] then [type] else []

/-- **What stands for the content of a request**, and the types that go with it: form data from
which the form of the request is read, or else bytes that hold its parts, or else its body. -/
inductive Request.Written (r : Request) : List UInt8 → List String → Prop
  | form {data : List Char} (hform : r.form ≠ []) (hread : Url.readForm? data = some r.form) :
      Written r (Bytes.Utf8.encode (.ofList data))
        (r.typeUnlessGiven "application/x-www-form-urlencoded")
  | parts {content : List UInt8} (hform : r.form = []) (hparts : r.multipart ≠ [])
      (hholds : Multipart.Holds Hop.boundary r.multipart content) :
      Written r content ["multipart/form-data; boundary=" ++ Hop.boundary]
  | body {b : Body} (hform : r.form = []) (hparts : r.multipart = []) (hbody : r.body = some b) :
      Written r b.content (b.contentType.elim [] r.typeUnlessGiven)
  | nothing (hform : r.form = []) (hparts : r.multipart = []) (hbody : r.body = none) :
      Written r [] []

namespace Hop

def cookieValues (l : Pairs) : List String :=
  if l.isEmpty then [] else ["; ".intercalate (l.map fun (n, v) => n ++ "=" ++ v)]

/-- **What a hop to a URL carries** for a request, given the cookies that are kept for the URL. -/
structure Carries (r : Request) (first : Bool) (u : Url) (kept : Pairs) (h : Hop) : Prop where
  /-- Only the first hop has the method of the request. -/
  method : h.method = if first then r.method else "GET"
  /-- A hop goes to the URL. A user that is part of it goes into a header, unless the name cannot be
  decoded. -/
  url : h.url = if (decoded? u.username).isSome then { u with username := "", password := "" } else u
  /-- The first hop has the content of the request and says of what type it is. -/
  content : first = true → ∃ types, r.Written h.body types ∧
    h.headers.values "Content-Type" = r.headers.values "Content-Type" ++ types
  /-- A later hop has no content, -/
  body : first = false → h.body = []
  /-- and does not say of what type it would be -/
  contentType : first = false → h.headers.values "Content-Type" = []
  /-- or how long. -/
  contentLength : first = false → h.headers.values "Content-Length" = []
  /-- Behind the `Cookie` headers that are written in the request there is one more, for the cookies
  that are kept and, in the first hop only, behind them those of the request. -/
  cookies : h.headers.values "Cookie" =
    r.headers.values "Cookie" ++ cookieValues (kept ++ if first then r.cookies else [])

/-! ### Headers that a client adds -/

theorem withoutUser_url (u : Url) : (withoutUser u).1 =
    if (decoded? u.username).isSome then { u with username := "", password := "" } else u := by
  unfold withoutUser
  cases decoded? u.username with
  | none => rfl
  | some name =>
    by_cases hempty : u.username = "" ∧ u.password = ""
    · simp only [if_pos hempty, Option.isSome_some, if_true]
      obtain ⟨scheme, username, password, host, port, path, query, fragment⟩ := u
      obtain ⟨rfl, rfl⟩ : username = "" ∧ password = "" := hempty
      rfl
    · simp only [if_neg hempty, Option.isSome_some, if_true]

theorem withoutUser_name (u : Url) : ∀ p ∈ (withoutUser u).2, p.1 = "Authorization" := by
  intro p hp
  unfold withoutUser at hp
  split at hp
  · simp at hp
  · split at hp
    · simp at hp
    · rw [List.mem_singleton.mp hp]

theorem authorization_name (user : String) : (authorization user).1 = "Authorization" := by
  unfold authorization
  split <;> rfl

theorem userHeader_name (o : ClientOptions) :
    ∀ p ∈ (o.user.map authorization).toList, p.1 = "Authorization" := by
  intro p hp
  obtain ⟨user, -, rfl⟩ := by simpa using hp
  exact authorization_name user

theorem codingHeader_name (o : ClientOptions) (r : Request) :
    ∀ p ∈ codingHeader o r, p.1 = "Accept-Encoding" := by
  intro p hp
  unfold codingHeader at hp
  split at hp
  · rw [List.mem_singleton.mp hp]
  · simp at hp

theorem cookieHeader_name (l : Pairs) : ∀ p ∈ cookieHeader l, p.1 = "Cookie" := by
  intro p hp
  unfold cookieHeader at hp
  split at hp
  · simp at hp
  · rw [List.mem_singleton.mp hp]

theorem map_cookieHeader (l : Pairs) : (cookieHeader l).map (·.2) = cookieValues l := by
  unfold cookieHeader cookieValues
  split <;> rfl

/-- Among the headers that every hop has there is none but `Accept` and `User-Agent`. -/
theorem values_defaults (l : Pairs) {name : String} (ha : sameName "Accept" name = false)
    (hu : sameName "User-Agent" name = false) : Pairs.values (defaults l) name = [] := by
  unfold Pairs.values defaults
  rw [List.map_eq_nil_iff, List.filter_eq_nil_iff]
  intro p hp
  have hmem := (List.mem_filter.mp hp).1
  simp only [List.mem_cons, List.not_mem_nil, or_false] at hmem
  rcases hmem with rfl | rfl
  · simp [ha]
  · simp [hu]

/-- The headers of a hop that do not belong to content are those of the request and the cookies,
but for credentials and codings. -/
theorem values_headersWithoutContent (o : ClientOptions) (u : Url) (r : Request) (kept : Pairs)
    (first : Bool) {name : String} (ha : sameName "Authorization" name = false)
    (he : sameName "Accept-Encoding" name = false) :
    (headersWithoutContent o u r kept first).values name =
      Pairs.values (ownHeaders r first) name ++
        if sameName "Cookie" name then cookieValues (cookies r kept first) else [] := by
  simp only [headersWithoutContent, Pairs.values_append,
    Pairs.values_of_name (withoutUser_name u), Pairs.values_of_name (cookieHeader_name _),
    Pairs.values_of_name (codingHeader_name o r), Pairs.values_of_name (userHeader_name o), ha, he,
    map_cookieHeader, Bool.false_eq_true, if_false, List.nil_append, List.append_nil]

theorem values_ownHeaders_later (r : Request) {name : String} (h : isBodyHeader name = true) :
    Pairs.values (ownHeaders r false) name = [] := by
  unfold Pairs.values ownHeaders
  rw [List.map_eq_nil_iff, List.filter_eq_nil_iff]
  intro p hp hsame
  have hbody : isBodyHeader p.1 = false := by simpa using (List.mem_filter.mp hp).2
  -- a name that is the same as one of a body is one of a body
  simp only [isBodyHeader, Bool.or_eq_true, sameName_iff] at h
  rw [sameName_iff] at hsame
  rw [← hsame, ← sameName_iff, ← sameName_iff, ← Bool.or_eq_true] at h
  unfold isBodyHeader at hbody
  rw [h] at hbody
  exact Bool.noConfusion hbody

theorem values_ownHeaders (r : Request) (first : Bool) {name : String}
    (h : isBodyHeader name = false) :
    Pairs.values (ownHeaders r first) name = r.headers.values name := by
  cases first with
  | true => rfl
  | false =>
    simp only [ownHeaders, Bool.false_eq_true, if_false, Pairs.values, List.filter_filter]
    congr 1
    refine List.filter_congr fun p _ => ?_
    cases hsame : sameName p.1 name with
    | false => rfl
    | true =>
      have hbody : isBodyHeader p.1 = false := by
        simp only [isBodyHeader, sameName, beq_iff_eq] at h hsame ⊢
        rw [hsame]
        exact h
      simp [hbody]

/-! ### Building hops -/

theorem typeHeader_name (given : Bool) (type : String) :
    ∀ p ∈ (if given then [] else [("Content-Type", type)] : Pairs), p.1 = "Content-Type" := by
  intro p hp
  cases given
  · rw [List.mem_singleton.mp hp]
  · simp at hp

theorem has_eq_false_iff (l : Pairs) (name : String) :
    Pairs.has l name = false ↔ l.values name = [] := by
  simp [Pairs.has, Pairs.values, List.filter_eq_nil_iff]

theorem map_typeHeader (r : Request) {l : Pairs}
    (hl : l.values "Content-Type" = r.headers.values "Content-Type") (type : String) :
    (if Pairs.has l "Content-Type" then [] else [("Content-Type", type)] : Pairs).map (·.2) =
      r.typeUnlessGiven type := by
  unfold Request.typeUnlessGiven
  rw [← hl]
  cases hhas : Pairs.has l "Content-Type" with
  | false => simp [(has_eq_false_iff l _).mp hhas]
  | true =>
    have hsome : l.values "Content-Type" ≠ [] := fun h => by
      simp [(has_eq_false_iff l _).mpr h] at hhas
    simp [hsome]

/-- **Content can be made** where all types can be written; it stands for the request and brings no
header but its type. -/
theorem content?_written {r : Request} (h : r.TypesValid) {before : Pairs}
    (hbefore : before.values "Content-Type" = r.headers.values "Content-Type") :
    ∃ more body, content? r before = some (more, body) ∧ r.Written body (more.map (·.2)) ∧
      ∀ p ∈ more, p.1 = "Content-Type" := by
  unfold content?
  cases hform : r.form with
  | cons f form =>
    refine ⟨_, _, rfl, ?_, typeHeader_name _ _⟩
    rw [map_typeHeader r hbefore, ← hform]
    exact .form (by simp [hform]) (Url.readForm?_formData r.form)
  | nil =>
    cases hparts : r.multipart with
    | cons p parts =>
      refine ⟨[("Content-Type", Multipart.contentType boundary)],
        Multipart.body boundary (p :: parts), ?_, ?_, typeHeader_name false _⟩
      · simp only [List.isEmpty_nil, Bool.not_true, Bool.false_eq_true, if_false,
          List.isEmpty_cons, Bool.not_false, if_true]
        refine if_pos (List.all_eq_true.mpr fun q hq => ?_)
        split
        · exact h _ _ _ _ (hparts ▸ hq)
        · rfl
      · rw [← hparts]
        exact .parts hform (by simp [hparts]) (Multipart.holds_body boundary r.multipart)
    | nil =>
      cases hbody : r.body with
      | none => exact ⟨[], [], rfl, .nothing hform hparts hbody, by simp⟩
      | some b =>
        have hwritten := Request.Written.body hform hparts hbody
        cases htype : b.contentType with
        | none =>
          rw [htype] at hwritten
          exact ⟨[], b.content, by simp [htype], hwritten, by simp⟩
        | some t =>
          rw [htype, Option.elim_some, ← map_typeHeader r rfl] at hwritten
          exact ⟨_, b.content, by simp [htype], hwritten, typeHeader_name _ _⟩

section

variable (o : ClientOptions) (u : Url) (r : Request) (kept : Pairs) {more : Pairs}

/-- The cookies of a hop, whose content brings no header but its type. -/
theorem values_cookie (first : Bool) (hmore : ∀ p ∈ more, p.1 = "Content-Type") (l : Pairs) :
    (headersWithoutContent o u r kept first ++ more ++ defaults l).values "Cookie" =
      r.headers.values "Cookie" ++ cookieValues (kept ++ if first then r.cookies else []) := by
  rw [Pairs.values_append, Pairs.values_append, Pairs.values_of_name hmore,
    values_defaults l (by decide) (by decide),
    values_headersWithoutContent o u r kept first (by decide) (by decide),
    values_ownHeaders r first (by decide)]
  simp [cookies, show sameName "Content-Type" "Cookie" = false by decide,
    show sameName "Cookie" "Cookie" = true by decide]

theorem values_contentType_before :
    (headersWithoutContent o u r kept true).values "Content-Type" =
      r.headers.values "Content-Type" := by
  rw [values_headersWithoutContent o u r kept true (by decide) (by decide)]
  simp [ownHeaders, show sameName "Cookie" "Content-Type" = false by decide]

theorem values_contentType_first (hmore : ∀ p ∈ more, p.1 = "Content-Type") (l : Pairs) :
    (headersWithoutContent o u r kept true ++ more ++ defaults l).values "Content-Type" =
      r.headers.values "Content-Type" ++ more.map (·.2) := by
  rw [Pairs.values_append, Pairs.values_append, Pairs.values_of_name hmore,
    values_contentType_before, values_defaults l (by decide) (by decide)]
  simp [show sameName "Content-Type" "Content-Type" = true by decide]

/-- A later hop has no header that speaks of a body. -/
theorem values_body_later (l : Pairs) {name : String}
    (hname : name ∈ ["Content-Type", "Content-Length"]) :
    (headersWithoutContent o u r kept false ++ [] ++ defaults l).values name = [] := by
  have hothers : isBodyHeader name = true ∧ sameName "Authorization" name = false ∧
      sameName "Accept-Encoding" name = false ∧ sameName "Cookie" name = false ∧
      sameName "Accept" name = false ∧ sameName "User-Agent" name = false := by
    revert name
    decide
  obtain ⟨hbody, hauthorization, hcoding, hcookie, haccept, hagent⟩ := hothers
  rw [Pairs.values_append, Pairs.values_append,
    values_headersWithoutContent o u r kept false hauthorization hcoding,
    values_ownHeaders_later r hbody, values_defaults l haccept hagent, hcookie]
  rfl

end

/-- **The hops that are built carry what they should**, and the first one can be built if all types
can be written. -/
theorem build?_carries (o : ClientOptions) (u : Url) (r : Request) (kept : Pairs) (first : Bool)
    (h : r.TypesValid) :
    ∃ hop, build? o (if first then r.method else "GET") u r kept first = some hop ∧
      hop.Carries r first u kept := by
  cases first with
  | true =>
    obtain ⟨more, body, hcontent, hwritten, hmore⟩ :=
      content?_written h (values_contentType_before o u r kept)
    have hbuild : build? o r.method u r kept true =
        (let headers := headersWithoutContent o u r kept true ++ more
        some ⟨r.method, (withoutUser u).1, headers ++ defaults headers, body⟩) := by
      simp only [build?, if_true, hcontent]
      rfl
    refine ⟨_, hbuild, rfl, withoutUser_url u,
      fun _ => ⟨_, hwritten, values_contentType_first o u r kept hmore _⟩, ?_, ?_, ?_,
      values_cookie o u r kept true hmore _⟩
    all_goals exact fun hlater => nomatch hlater
  | false =>
    refine ⟨_, rfl, rfl, withoutUser_url u, (fun hfirst => nomatch hfirst), fun _ => rfl,
      fun _ => ?_, fun _ => ?_, values_cookie o u r kept false (by simp) _⟩
    · exact values_body_later o u r kept _ (by simp)
    · exact values_body_later o u r kept _ (by simp)

end Hop

end HttpScript.Http
