import HttpScript.Position

/-! # Scripts

A `Script` is a list of entries. An `Entry` is a request and, where the script states one, the
response expected to it. Every part keeps the position at which it starts, so that a message about
it can point into the text.

* `Template`: text with placeholders in it, escapes resolved.
* `Request`, `Response`: the two halves of an entry, with their sections.
* `Query`, `Subquery`: what a capture or an assert reads from a response.
* `Predicate`, `Condition`: what an assert demands of it. -/

namespace HttpScript.Script

/-- Text that may hold placeholders. -/
structure Template where
  value : String
  position : Position
  deriving DecidableEq, Repr, Inhabited

/-- A comment, with the `#` it begins with. -/
structure Comment where
  value : String
  position : Position
  deriving DecidableEq, Repr, Inhabited

/-- The request methods a script can name. -/
inductive Method
  | get | head | post | put | delete | connect | options | trace | patch
  deriving DecidableEq, Repr, Inhabited

namespace Method

/-- All methods, in the order in which the grammar tries them. -/
def all : List Method := [get, head, post, put, delete, connect, options, trace, patch]

/-- The keyword of a method. -/
def name : Method → String
  | get => "GET"
  | head => "HEAD"
  | post => "POST"
  | put => "PUT"
  | delete => "DELETE"
  | connect => "CONNECT"
  | options => "OPTIONS"
  | trace => "TRACE"
  | patch => "PATCH"

end Method

/-- A line `key: value`: a header, a parameter or a cookie. -/
structure Field where
  key : String
  value : Template
  position : Position
  deriving DecidableEq, Repr, Inhabited

/-- A part of a multipart form that is read from a file. -/
structure FilePart where
  key : String
  filename : String
  contentType : Option String
  position : Position
  deriving DecidableEq, Repr, Inhabited

/-- A part of a multipart form. -/
inductive Part
  | text (field : Field)
  | file (part : FilePart)
  deriving DecidableEq, Repr, Inhabited

/-- The content of a body. -/
inductive Content
  | json (text : Template)
  | xml (text : Template)
  | raw (text : Template)
  | base64 (bytes : List UInt8)
  | file (name : String) (position : Position)
  deriving DecidableEq, Repr, Inhabited

/-- A body of a request, or the body expected of a response. -/
structure Body where
  content : Content
  position : Position
  deriving DecidableEq, Repr, Inhabited

/-- What a query reads from a response. -/
inductive Source
  | status
  | header (name : Template)
  | cookie (expression : Template)
  | body
  | xpath (expression : Template)
  | jsonpath (expression : Template)
  | regex (pattern : Template)
  | stored (name : Template)
  | duration
  deriving DecidableEq, Repr, Inhabited

namespace Source

/-- The keyword of a query. -/
def name : Source → String
  | status => "status"
  | header _ => "header"
  | cookie _ => "cookie"
  | body => "body"
  | xpath _ => "xpath"
  | jsonpath _ => "jsonpath"
  | regex _ => "regex"
  | stored _ => "variable"
  | duration => "duration"

/-- The text that follows the keyword, where there is one. -/
def argument? : Source → Option Template
  | status | body | duration => none
  | header t | cookie t | xpath t | jsonpath t | regex t | stored t => some t

end Source

/-- A further step on the value of a query. -/
inductive Subquery
  | regex (pattern : Template)
  | count
  deriving DecidableEq, Repr, Inhabited

/-- A query. -/
structure Query where
  source : Source
  subquery : Option Subquery
  position : Position
  deriving DecidableEq, Repr, Inhabited

/-- A literal that a value is compared with. -/
inductive Literal
  | string (text : Template)
  | number (value : Float)
  | bool (value : Bool)
  | null
  deriving Repr, Inhabited

/-- The four orderings of numbers. -/
inductive Ordering
  | greater | greaterOrEqual | less | lessOrEqual
  deriving DecidableEq, Repr, Inhabited

namespace Ordering

/-- The keyword of an ordering. -/
def name : Ordering → String
  | greater => "greaterThan"
  | greaterOrEqual => "greaterThanOrEquals"
  | less => "lessThan"
  | lessOrEqual => "lessThanOrEquals"

end Ordering

/-- What an assert demands of a value. -/
inductive Condition
  | equals (value : Literal)
  /-- Equality with a variable, which keeps the type it was captured with. -/
  | equalsVariable (name : String) (position : Position)
  | ordered (ordering : Ordering) (bound : Float)
  | startsWith (text : Template)
  | contains (text : Template)
  | includes (value : Literal)
  | like (pattern : Template)
  | countEquals (count : Nat)
  | present
  deriving Repr, Inhabited

namespace Condition

/-- The keyword of a condition. -/
def name : Condition → String
  | equals _ | equalsVariable _ _ => "equals"
  | ordered o _ => o.name
  | startsWith _ => "startsWith"
  | contains _ => "contains"
  | includes _ => "includes"
  | like _ => "matches"
  | countEquals _ => "countEquals"
  | present => "exists"

end Condition

/-- A condition or its negation. -/
structure Predicate where
  negated : Bool
  condition : Condition
  position : Position
  deriving Repr, Inhabited

/-- A variable set from a response. -/
structure Capture where
  name : String
  query : Query
  position : Position
  deriving DecidableEq, Repr, Inhabited

/-- A demand on a response. -/
structure Assert where
  query : Query
  predicate : Predicate
  position : Position
  deriving Repr, Inhabited

/-- The request of an entry. -/
structure Request where
  position : Position
  /-- The comments on the lines before it. -/
  comments : List Comment
  method : Method
  url : Template
  headers : List Field
  query : List Field
  form : List Field
  multipart : List Part
  cookies : List Field
  captures : List Capture
  asserts : List Assert
  body : Option Body
  deriving Repr, Inhabited

/-- The version that a response is expected to have. -/
inductive VersionPattern
  | http10 | http11 | http2 | any
  deriving DecidableEq, Repr, Inhabited

namespace VersionPattern

/-- All versions, in the order in which the grammar tries them. -/
def all : List VersionPattern := [http10, http11, http2, any]

/-- The written form of a version. -/
def name : VersionPattern → String
  | http10 => "HTTP/1.0"
  | http11 => "HTTP/1.1"
  | http2 => "HTTP/2"
  | any => "HTTP/*"

end VersionPattern

/-- The status that a response is expected to have. -/
inductive StatusPattern
  | code (value : UInt16)
  | any
  deriving DecidableEq, Repr, Inhabited

/-- A part of the response line with its position. -/
structure Located (α : Type) where
  value : α
  position : Position
  deriving DecidableEq, Repr, Inhabited

/-- The response expected by an entry. -/
structure Response where
  position : Position
  version : Located VersionPattern
  status : Located StatusPattern
  headers : List Field
  captures : List Capture
  asserts : List Assert
  body : Option Body
  deriving Repr, Inhabited

/-- A request and the response expected to it. -/
structure Entry where
  request : Request
  response : Option Response
  deriving Repr, Inhabited

namespace Entry

/-- The captures of an entry: those of the request before those of the response. -/
def captures (e : Entry) : List Capture :=
  e.request.captures ++ e.response.elim [] (·.captures)

/-- The asserts of an entry: those of the request before those of the response. -/
def asserts (e : Entry) : List Assert :=
  e.request.asserts ++ e.response.elim [] (·.asserts)

end Entry

end HttpScript.Script

namespace HttpScript

/-- A script: its entries in order. -/
structure Script where
  entries : List Script.Entry
  deriving Repr, Inhabited

end HttpScript
