import HttpScript.Run.Basic

/-! # The report of a run as a document

`Report.document` is a JSON value with all requests and responses of a run. The members stand in
the order in which they are written here. -/

namespace HttpScript.Report

/-- What stands for a body that is no text. -/
def notText : String := "<invalid text body>"

/-- A value that may be missing. -/
def maybe {α : Type} (f : α → Json) : Option α → Json
  | some a => f a
  | none => .null

/-- A name with a value. -/
def pair (p : String × String) : Json := .object [("name", .string p.1), ("value", .string p.2)]

/-- Names with values. -/
def pairs (l : Http.Pairs) : Json := .array (l.map pair)

/-- A part of a multipart form that is a text. -/
def textPart? : Http.Part → Option Json
  | .text name value => some (pair (name, value))
  | .file .. => none

/-- A part of a multipart form that is a file, without its content. -/
def filePart? : Http.Part → Option Json
  | .text .. => none
  | .file name filename _ contentType => some (.object
      [("name", .string name), ("filename", .string filename),
        ("contentType", maybe .string contentType)])

/-- A request. -/
def request (r : Http.Request) : Json :=
  .object [("method", .string r.method), ("url", .string r.url), ("queryString", pairs r.query),
    ("headers", pairs r.headers), ("cookies", pairs r.cookies), ("form", pairs r.form),
    ("multipartFormData", .object [("textDatas", .array (r.multipart.filterMap textPart?)),
      ("fileDatas", .array (r.multipart.filterMap filePart?))]),
    ("body", maybe (fun b => .string ((Bytes.Utf8.decode? b.content).getD notText)) r.body)]

/-- The text of a response's body. -/
def bodyText (r : Http.Response) : String :=
  match r.text with
  | .ok s => s
  | .error _ => notText

/-- A response. -/
def response (r : Http.Response) : Json :=
  .object [("version", .string r.version.name), ("status", .number (.integer r.status.toNat)),
    ("headers", pairs r.headers), ("body", .string (bodyText r))]

/-- An entry. -/
def entry (r : Run.EntryResult) : Json :=
  .object [("requestSpec", maybe request r.request), ("response", maybe response r.response)]

/-- **The report of a run** that took so long. -/
def document (r : Run.Result) (milliseconds : Nat) : Json :=
  .object [("entries", .array (r.entries.map entry)), ("success", .bool r.succeeded),
    ("duration", .number (.integer milliseconds))]

end HttpScript.Report
