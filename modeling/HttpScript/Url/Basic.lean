import HttpScript.Url.Host

/-! # URLs

A `Url` has a scheme, an authority where there is one, a path, and a query and a fragment where they
are given. `Url.text` writes it. -/

namespace HttpScript

/-- The path of a URL. -/
inductive Url.Path
  /-- A text of which no part can be replaced. -/
  | whole (text : String)
  /-- Segments, each behind a slash. -/
  | segments (l : List String)
  deriving DecidableEq, Repr, Inhabited

/-- A URL. -/
structure Url where
  scheme : String
  username : String
  password : String
  host : Option Url.Host
  /-- The port, if it is not the one that the scheme stands for. -/
  port : Option Nat
  path : Url.Path
  query : Option String
  fragment : Option String
  deriving DecidableEq, Repr, Inhabited

namespace Url

/-- The port that a special scheme stands for; other schemes stand for none. -/
def defaultPort : String → Option Nat
  | "http" | "ws" => some 80
  | "https" | "wss" => some 443
  | "ftp" => some 21
  | _ => none

/-- Whether a scheme is one of those whose URLs always have a host and a path. -/
def isSpecial (scheme : String) : Bool :=
  ["http", "https", "ws", "wss", "ftp", "file"].contains scheme

/-- The written form of a path. -/
def Path.text : Path → String
  | whole text => text
  | segments l => .join (l.map ("/" ++ ·))

/-- The path of a URL as it is written. -/
def pathText (u : Url) : String := u.path.text

/-- The host of a URL as it is written. -/
def hostText? (u : Url) : Option String := u.host.map Host.text

/-- The user and password before a host. -/
def userText (u : Url) : String :=
  if u.username = "" ∧ u.password = "" then ""
  else u.username ++ (if u.password = "" then "" else ":" ++ u.password) ++ "@"

/-- The user, host and port of a URL. -/
def authorityText (u : Url) : String :=
  match u.host with
  | some h => "//" ++ u.userText ++ h.text ++ u.port.elim "" fun p => ":" ++ toString p
  | none =>
    match u.path with
    | .segments ("" :: _ :: _) => "/."
    | _ => ""

/-- **The written form of a URL.** -/
def text (u : Url) : String :=
  u.scheme ++ ":" ++ u.authorityText ++ u.pathText ++ u.query.elim "" ("?" ++ ·) ++
    u.fragment.elim "" ("#" ++ ·)

/-- The port that a URL leads to. -/
def effectivePort (u : Url) : Option Nat := u.port <|> defaultPort u.scheme

/-- Appends names and values to the query. -/
def appendQuery (u : Url) (l : List (String × String)) : Url :=
  if l.isEmpty then u
  else
    let added := String.ofList (formData l)
    match u.query with
    | none | some "" => { u with query := some added }
    | some q => { u with query := some (q ++ "&" ++ added) }

end Url

end HttpScript
