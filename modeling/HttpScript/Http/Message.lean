/-! # Messages of a transport

* `Http.Request`: a request with all placeholders filled, ready to be sent.
* `Http.Response`: what came back, the body as it was received.
* `Http.Fault`: why a request has no response or a response no text.

Names of headers are compared without regard to the case of ASCII letters. -/

namespace HttpScript.Http

/-- Whether two texts differ in the case of ASCII letters only. -/
def sameName (a b : String) : Bool := a.toList.map Char.toLower == b.toList.map Char.toLower

/-- Names and values in order. -/
abbrev Pairs := List (String × String)

namespace Pairs

/-- The values of a name, in order. -/
def values (l : Pairs) (name : String) : List String :=
  (l.filter fun p => sameName p.1 name).map (·.2)

/-- Whether a name has a value. -/
def has (l : Pairs) (name : String) : Bool := l.any fun p => sameName p.1 name

end Pairs

/-- A version of the protocol. -/
inductive Version
  | http10 | http11 | http2 | http3
  deriving DecidableEq, Repr, Inhabited

/-- The written form of a version. -/
def Version.name : Version → String
  | http10 => "HTTP/1.0"
  | http11 => "HTTP/1.1"
  | http2 => "HTTP/2"
  | http3 => "HTTP/3"

/-- A part of a multipart form. -/
inductive Part
  | text (name value : String)
  | file (name filename : String) (content : List UInt8) (contentType : Option String)
  deriving DecidableEq, Repr, Inhabited

/-- A body of a request. -/
structure Body where
  content : List UInt8
  /-- The type that is announced where no header does. -/
  contentType : Option String
  deriving DecidableEq, Repr, Inhabited

/-- A request, ready to be sent. -/
structure Request where
  method : String
  url : String
  headers : Pairs
  query : Pairs
  form : Pairs
  multipart : List Part
  cookies : Pairs
  body : Option Body
  deriving DecidableEq, Repr, Inhabited

/-- A response. -/
structure Response where
  version : Version
  status : UInt16
  headers : Pairs
  /-- The body as it was received. -/
  body : List UInt8
  /-- How long the exchange took. -/
  microseconds : Nat
  deriving DecidableEq, Repr, Inhabited

namespace Response

/-- The values of a header, in order. -/
def header (r : Response) (name : String) : List String := r.headers.values name

/-- The type that a response announces for its body. -/
def contentType? (r : Response) : Option String := (r.header "Content-Type").head?

end Response

/-- Why an exchange fails. -/
inductive Fault
  | invalidUrl (url : String)
  /-- The client or the request cannot be built. -/
  | client (reason : String)
  | transport (url reason : String)
  | timeout (url : String)
  | tooManyRedirects (limit : Nat)
  | unsupportedCoding (name : String)
  | decompression (reason : String)
  | unknownCharset (label : String)
  | invalidText (charset : String)
  deriving DecidableEq, Repr

/-- The wording of a fault. -/
def Fault.message : Fault → String
  | invalidUrl url => "invalid url <" ++ url ++ ">"
  | client reason => "could not build http client: " ++ reason
  | transport url reason => "request to <" ++ url ++ "> failed: " ++ reason
  | timeout url => "request to <" ++ url ++ "> timed out"
  | tooManyRedirects limit => "too many redirects (" ++ toString limit ++ ")"
  | unsupportedCoding name => "unsupported content encoding " ++ name
  | decompression reason => "could not decompress body: " ++ reason
  | unknownCharset label => "unknown charset " ++ label
  | invalidText charset => "body can not be decoded with charset " ++ charset

end HttpScript.Http
