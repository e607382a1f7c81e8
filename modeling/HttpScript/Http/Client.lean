import HttpScript.Http.Hop

/-! # The client

A client sends a request hop by hop: it keeps the cookies that responses set and follows redirects
where it is asked to, at most `maxRedirects` of them. `Network` is what the hops are sent over; its
state `σ` stands for all that answers and the clock depend on. -/

namespace HttpScript.Http

/-- What hops are sent over. -/
structure Network (σ : Type) where
  send : Hop → σ → Except HopFault Response × σ
  /-- The time, in seconds. -/
  now : σ → Nat

/-- A network over which nothing is ever reached, at a time that stands still. -/
def Network.unreachable (now : Nat) : Network Unit :=
  ⟨fun h w => (.error (.unanswered h.url), w), fun _ => now⟩

namespace Client

/-- The most redirects that are followed. -/
def maxRedirects : Nat := 50

/-- Whether a status is that of a redirect. -/
def isRedirect (status : UInt16) : Bool := [301, 302, 303, 307, 308].contains status

/-- Where a response leads to, if it is to be followed. -/
def location? (o : ClientOptions) (r : Response) : Option String :=
  if o.followLocation && isRedirect r.status then (r.header "Location").head? else none

/-- What a fault of a hop to a url is to the client. -/
def faultOf (u : Url) : HopFault → Fault
  | .timeout => .timeout u.text
  | e => .transport u.text e.message

variable {σ : Type}

/-- Why a request has no response. -/
inductive Stop
  | fault (e : Fault)
  /-- The date of a cookie cannot be counted, with which all ends. -/
  | overflow
  deriving DecidableEq, Repr

/-- Sends one hop and keeps the cookies that its response sets. -/
def exchange (n : Network σ) (o : ClientOptions) (r : Request) (first : Bool) (method : String)
    (u : Url) (cookies : CookieStore) (w : σ) : Except Stop Response × CookieStore × σ :=
  match Hop.build? o method u r (cookies.sentTo (n.now w) u) first with
  | none => (.error (.fault (.client HopFault.malformed.message)), cookies, w)
  | some hop =>
    match hop.check with
    | .error e => (.error (.fault (faultOf u e)), cookies, w)
    | .ok hop =>
      match n.send hop w with
      | (.error e, w) => (.error (.fault (faultOf u e)), cookies, w)
      | (.ok response, w) =>
        let received := n.now w
        let headers := (response.header "Set-Cookie").map fun h => (received, h)
        match cookies.tryStore received u headers with
        | .error _ => (.error .overflow, cookies, w)
        | .ok cookies => (.ok response, cookies, w)

/-- Sends hops until one is not to be followed, or `left` redirects have been. -/
def follow (n : Network σ) (o : ClientOptions) (r : Request) (left : Nat) (first : Bool)
    (method : String) (u : Url) (elapsed : Nat) (cookies : CookieStore) (w : σ) :
    Except Stop Response × CookieStore × σ :=
  match exchange n o r first method u cookies w with
  | (.error e, cookies, w) => (.error e, cookies, w)
  | (.ok response, cookies, w) =>
    let elapsed := elapsed + response.microseconds
    match location? o response with
    | none => (.ok { response with microseconds := elapsed }, cookies, w)
    | some location =>
      match left with
      | 0 => (.error (.fault (.tooManyRedirects maxRedirects)), cookies, w)
      | left + 1 =>
        match u.join? location with
        | none => (.error (.fault (.invalidUrl location)), cookies, w)
        | some u => follow n o r left false "GET" u elapsed cookies w

/-- The url of a request, its parameters appended. -/
def urlOf? (r : Request) : Option Url := (Url.read? r.url).map (·.appendQuery r.query)

/-- **Sends a request.** -/
def execute (n : Network σ) (o : ClientOptions) (r : Request) (cookies : CookieStore) (w : σ) :
    Except Stop Response × CookieStore × σ :=
  match urlOf? r with
  | none => (.error (.fault (.invalidUrl r.url)), cookies, w)
  | some u =>
    if Hop.isMethod r.method then follow n o r maxRedirects true r.method u 0 cookies w
    else (.error (.fault (.client "invalid HTTP method")), cookies, w)

/-- Whether a text names a proxy. The scheme may be left out. -/
def isProxy (s : String) : Bool :=
  let leads (t : String) : Option Bool :=
    (Url.read? t).map fun u => u.host.isSome && (u.scheme == "http" || u.scheme == "https")
  let withScheme := (leads ("http://" ++ s)).getD false
  match Url.read? s with
  | some u => if u.host.isSome then u.scheme == "http" || u.scheme == "https" else withScheme
  | none => if (Url.scheme? (Url.clean s)).isSome then false else withScheme

/-- Checks that there can be a client with some options. -/
def check (o : ClientOptions) : Except Fault Unit :=
  if o.proxy.all isProxy then .ok () else .error (.client HopFault.malformed.message)

end Client

end HttpScript.Http
