import HttpScript.Bytes.Base64
import HttpScript.Cookie.Store
import HttpScript.Http.MediaType
import HttpScript.Http.Multipart
import HttpScript.Settings
import HttpScript.Url.Read

/-! # Hops

Sending a request takes one `Hop`, and one more for each redirect that is followed. `Hop.build?`
makes a hop from a request and the cookies that are kept. What the request is *for* (form, parts,
body, its own cookies) goes with the first hop only. -/

namespace HttpScript.Http

/-- How requests are sent. -/
structure ClientOptions where
  proxy : Option String
  insecure : Bool
  followLocation : Bool
  /-- A user, or a user and a password with a colon between them. -/
  user : Option String
  /-- Seconds within which a connection has to be made. -/
  connectTimeout : Nat
  /-- Seconds within which an exchange has to end. -/
  maxTime : Option Nat
  compressed : Bool
  deriving DecidableEq, Repr, Inhabited

/-- Options of a client that does nothing of itself. -/
def ClientOptions.standard : ClientOptions :=
  ⟨none, false, false, none, Settings.connectTimeout, none, false⟩

/-- What is sent to a server at once. -/
structure Hop where
  method : String
  url : Url
  headers : Pairs
  body : List UInt8
  deriving DecidableEq, Repr, Inhabited

/-- Why no hop can be made or none gets an answer. -/
inductive HopFault
  | timeout
  /-- A header that cannot be written, or a part of a form with a bad type. -/
  | malformed
  /-- The url does not lead to a server. -/
  | noServer (url : Url)
  /-- There was no answer. -/
  | unanswered (url : Url)
  /-- The answer broke off. -/
  | broken (reason : String)
  deriving DecidableEq, Repr

/-- The wording of a fault. -/
def HopFault.message : HopFault → String
  | timeout => "operation timed out"
  | malformed => "builder error"
  | noServer u => "builder error for url (" ++ u.text ++ ")"
  | unanswered u => "error sending request for url (" ++ u.text ++ ")"
  | broken reason => reason

namespace Hop

/-- The codings that are asked for when a compressed response is wanted. -/
def acceptedCodings : String := "gzip, deflate, zstd"

/-- The type of the body of a form. -/
def formType : String := "application/x-www-form-urlencoded"

/-- What stands between the parts of a multipart form. -/
def boundary : String := "BOUNDARY"

/-- Whether a method can be sent. -/
def isMethod (s : String) : Bool := !s.isEmpty && s.toList.all isTokenChar

/-- Whether a header can be sent. -/
def isHeader (p : String × String) : Bool :=
  isMethod p.1 && p.2.toList.all fun c => c == '\t' || (31 < c.toNat && c.toNat != 127)

/-- Whether a header belongs to a body. -/
def isBodyHeader (name : String) : Bool :=
  sameName name "Content-Type" || sameName name "Content-Length"

/-- The value of the header for a user and a password. -/
def basic (user password : String) : String :=
  "Basic " ++ .ofList (Bytes.Base64.encode (Bytes.Utf8.encode (user ++ ":" ++ password)))

/-- The header for a user that may have a password behind a colon. -/
def authorization (user : String) : String × String :=
  match Text.splitOnce ':' user.toList with
  | some (name, password) => ("Authorization", basic (.ofList name) (.ofList password))
  | none => ("Authorization", basic user "")

/-- A part of a url that is percent-encoded text. -/
def decoded? (s : String) : Option String :=
  Bytes.Utf8.decode? (Url.percentDecode s.toList)

/-- A url without the user in it, and the header for that user. -/
def withoutUser (u : Url) : Url × Pairs :=
  match decoded? u.username with
  | none => (u, [])
  | some name =>
    if u.username = "" ∧ u.password = "" then (u, [])
    else ({ u with username := "", password := "" },
      [("Authorization", basic name ((decoded? u.password).getD ""))])

/-- The headers of a request that go with a hop. -/
def ownHeaders (r : Request) (first : Bool) : Pairs :=
  if first then r.headers else r.headers.filter fun p => !isBodyHeader p.1

/-- The cookies that go with a hop: those that are kept, and with the first hop those of the
request. -/
def cookies (r : Request) (kept : Pairs) (first : Bool) : Pairs :=
  kept ++ if first then r.cookies else []

/-- The header for cookies. -/
def cookieHeader (l : Pairs) : Pairs :=
  if l.isEmpty then [] else [("Cookie", "; ".intercalate (l.map fun (n, v) => n ++ "=" ++ v))]

/-- The header that asks for a compressed response, where the request does not. -/
def codingHeader (o : ClientOptions) (r : Request) : Pairs :=
  if o.compressed && !Pairs.has r.headers "Accept-Encoding" then
    [("Accept-Encoding", acceptedCodings)]
  else []

/-- What a request is for: the headers that go with its content, which see the headers before
them, and the content. -/
def content? (r : Request) (before : Pairs) : Option (Pairs × List UInt8) :=
  if !r.form.isEmpty then
    some (if Pairs.has before "Content-Type" then [] else [("Content-Type", formType)],
      Bytes.Utf8.encode (.ofList (Url.formData r.form)))
  else if !r.multipart.isEmpty then
    if r.multipart.all fun
      | .file _ _ _ (some t) => isMediaType t
      | _ => true
    then some ([("Content-Type", Multipart.contentType boundary)],
      Multipart.body boundary r.multipart)
    else none
  else
    match r.body with
    | none => some ([], [])
    | some b =>
      some (match b.contentType with
        | some t => if Pairs.has r.headers "Content-Type" then [] else [("Content-Type", t)]
        | none => [], b.content)

/-- The headers that every hop has unless they are given. -/
def defaults (l : Pairs) : Pairs :=
  [("Accept", "*/*"), ("User-Agent", Settings.userAgent)].filter fun p => !Pairs.has l p.1

/-- All headers of a hop except those of its content. -/
def headersWithoutContent (o : ClientOptions) (u : Url) (r : Request) (kept : Pairs)
    (first : Bool) : Pairs :=
  (withoutUser u).2 ++ ownHeaders r first ++ cookieHeader (cookies r kept first) ++
    codingHeader o r ++ (o.user.map authorization).toList

/-- Whether a url leads to a server: its scheme is that of the protocol, and no character of its
host is one that the protocol cannot write. -/
def leadsToServer (u : Url) : Bool :=
  (u.scheme == "http" || u.scheme == "https") &&
    ((u.hostText?.getD "").toList.all fun c => !(['"', '\x60', '\x7b', '\x7d'].contains c))

/-- Checks that a hop can be sent: there is a host, all headers can be written, and the url leads to
a server. -/
def check (h : Hop) : Except HopFault Hop :=
  if h.url.host.isNone then .error (.noServer h.url)
  else if !h.headers.all isHeader then .error .malformed
  else if !leadsToServer h.url then .error (.noServer h.url)
  else .ok h

/-- **The hop of a request to a url**, given the cookies that are kept for it. -/
def build? (o : ClientOptions) (method : String) (u : Url) (r : Request) (kept : Pairs)
    (first : Bool) : Option Hop := do
  let before := headersWithoutContent o u r kept first
  let (more, body) ← if first then content? r before else some ([], [])
  let headers := before ++ more
  return ⟨method, (withoutUser u).1, headers ++ defaults headers, body⟩

end Hop

end HttpScript.Http
