import HttpScript.Http.Message
import HttpScript.Url.Percent

/-! # Multipart forms

A form of several parts as the body of a request. Parts are separated by lines with a boundary. -/

namespace HttpScript.Http.Multipart

/-- A name in the header of a part. One that has to be encoded is marked so. -/
def nameText (s : String) : String :=
  let encoded := Url.percentEncode Url.inSegment s.toList
  if encoded = s.toList then "name=\"" ++ s ++ "\"" else "name*=utf-8''" ++ .ofList encoded

/-- A character of a file name. -/
def filenameChar (c : Char) : List Char :=
  if c = '\\' ∨ c = '"' ∨ c = '\r' ∨ c = '\n' then ['\\', c] else [c]

/-- The header of a part. -/
def header (name : String) (filename contentType : Option String) : String :=
  "Content-Disposition: form-data; " ++ nameText name ++
    (filename.elim "" fun f =>
      "; filename=\"" ++ .ofList (f.toList.flatMap filenameChar) ++ "\"") ++
    (contentType.elim "" fun t => "\r\nContent-Type: " ++ t)

/-- A part: its header, an empty line and its content. -/
def part : Part → List UInt8
  | .text name value =>
    Bytes.Utf8.encode (header name none none ++ "\r\n\r\n" ++ value)
  | .file name filename content contentType =>
    Bytes.Utf8.encode (header name (some filename) contentType ++ "\r\n\r\n") ++ content

/-- **The body of a form.** -/
def body (boundary : String) (l : List Part) : List UInt8 :=
  (l.flatMap fun p =>
    Bytes.Utf8.encode ("--" ++ boundary ++ "\r\n") ++ part p ++ Bytes.Utf8.encode "\r\n") ++
    Bytes.Utf8.encode ("--" ++ boundary ++ "--\r\n")

/-- The type of such a body. -/
def contentType (boundary : String) : String := "multipart/form-data; boundary=" ++ boundary

end HttpScript.Http.Multipart
