import HttpScript.Charset.Decode
import HttpScript.Coding.Frame
import HttpScript.Coding.Wrapped
import HttpScript.Http.Message
import HttpScript.Text.Class

/-! # The content of a response

A body is coded by a list of codings, which the headers announce in the order of their application,
and its text is in a charset. `Response.content` undoes the codings from the last to the first, and
`Response.text` reads the result in its charset, which is UTF-8 if none is announced. -/

namespace HttpScript.Http

/-- A coding of bodies. -/
inductive Coding
  | gzip | deflate | zstd | identity
  deriving DecidableEq, Repr, Inhabited

/-- For each compressed format, a function that undoes it or says why it cannot. -/
structure Decoders where
  gzip : List UInt8 → Except String (List UInt8)
  deflate : List UInt8 → Except String (List UInt8)
  zstd : List UInt8 → Except String (List UInt8)

/-- The decoders of the three formats. -/
def Decoders.standard : Decoders where
  gzip l := (Coding.gzip? l).mapError (·.message)
  deflate l := (Coding.zlib? l).mapError (·.message)
  zstd l := (Coding.unframe? l).mapError (·.message)

namespace Coding

/-- The coding of a name, in any case of ASCII letters. -/
def ofName (name : String) : Except Fault Coding :=
  match String.ofList (name.toList.map Char.toLower) with
  | "gzip" | "x-gzip" => .ok gzip
  | "deflate" => .ok deflate
  | "zstd" => .ok zstd
  | "identity" => .ok identity
  | _ => .error (.unsupportedCoding name)

/-- The plain name of a coding. -/
def name : Coding → String
  | gzip => "gzip"
  | deflate => "deflate"
  | zstd => "zstd"
  | identity => "identity"

/-- What a message calls the data of a coding. -/
def dataName : Coding → String
  | gzip => "Gzip"
  | deflate => "Deflate"
  | zstd => "zstd"
  | identity => "Identity"

/-- Words the reason why data of a coding cannot be decoded. -/
def refuse (c : Coding) (reason : String) : Fault :=
  .decompression ("invalid " ++ c.dataName ++ " data: " ++ reason)

/-- Undoes a coding. -/
def undo (d : Decoders) (c : Coding) (l : List UInt8) : Except Fault (List UInt8) :=
  match c with
  | gzip => (d.gzip l).mapError c.refuse
  | deflate => (d.deflate l).mapError c.refuse
  | zstd => (d.zstd l).mapError c.refuse
  | identity => .ok l

/-- Undoes codings that were applied in order, the last one first. -/
def undoAll (d : Decoders) (l : List UInt8) (codings : List Coding) : Except Fault (List UInt8) :=
  codings.reverse.foldlM (fun l c => c.undo d l) l

/-- The names in values of a header: the pieces between commas that are not blank. -/
def announced (values : List String) : List String :=
  (values.flatMap fun v => (v.toList.splitOn ',').map Text.trim).filterMap fun l =>
    if l.isEmpty then none else some (.ofList l)

end Coding

/-- The charset that a content type names: the first parameter called so. -/
def charsetLabel? (contentType : String) : Option String :=
  (contentType.toList.splitOn ';').tail.findSome? fun parameter =>
    let key := parameter.takeWhile (· != '=')
    match parameter.drop key.length with
    | [] => none
    | _ :: value =>
      if sameName (.ofList (Text.trim key)) "charset" then
        let unquoted := (Text.trim value).dropWhile (· == '"')
        some (.ofList (unquoted.reverse.dropWhile (· == '"')).reverse)
      else none

namespace Response

/-- The body with the announced codings undone by given decoders. -/
def contentWith (d : Decoders) (r : Response) : Except Fault (List UInt8) := do
  let codings ← (Coding.announced (r.header "Content-Encoding")).mapM Coding.ofName
  Coding.undoAll d r.body codings

/-- **The body with all codings undone.** -/
def content (r : Response) : Except Fault (List UInt8) := r.contentWith .standard

/-- The text of bytes that are announced with a content type. -/
def decodeText (contentType : Option String) (l : List UInt8) : Except Fault String :=
  let label := (contentType.bind charsetLabel?).getD "utf-8"
  match Charset.ofLabel? label with
  | none => .error (.unknownCharset label)
  | some c =>
    match c.decode? l with
    | some s => .ok s
    | none => .error (.invalidText c.name)

/-- **The text of the body**, all codings undone. -/
def text (r : Response) : Except Fault String := do
  decodeText r.contentType? (← r.content)

end Response

end HttpScript.Http
