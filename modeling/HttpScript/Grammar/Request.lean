import HttpScript.Grammar.Response

/-! # Requests

The rules for a request: comments, the request line, headers, sections and a body. Sections of one
name may be repeated; what they hold is joined in order. -/

namespace HttpScript.Grammar

open Rule Script

/-- A section of a request. -/
inductive RequestSection
  | query (l : List Field)
  | form (l : List Field)
  | multipart (l : List Part)
  | cookies (l : List Field)
  | captures (l : List Capture)
  | asserts (l : List Assert)

namespace RequestSection

/-- The query parameters of a section. -/
def getQuery : RequestSection → List Field
  | query l => l
  | _ => []

/-- The form parameters of a section. -/
def getForm : RequestSection → List Field
  | form l => l
  | _ => []

/-- The multipart parts of a section. -/
def getMultipart : RequestSection → List Part
  | multipart l => l
  | _ => []

/-- The cookies of a section. -/
def getCookies : RequestSection → List Field
  | cookies l => l
  | _ => []

/-- The captures of a section. -/
def getCaptures : RequestSection → List Capture
  | captures l => l
  | _ => []

/-- The asserts of a section. -/
def getAsserts : RequestSection → List Assert
  | asserts l => l
  | _ => []

end RequestSection

/-- A request method. No method begins with another one. -/
def method : Rule Method := do
  let begin ← position
  match ← firstOf literal Method.name Method.all with
  | some m => return m
  | none => failAt begin .method

/-- A section of lines `key: value`. -/
def fieldSection (name : String) : Rule (List Field) := do
  sectionLine name
  zeroOrMore fieldLine

/-- The content type of a file part, if one is written. -/
def contentType : Rule (Option String) := do
  let value ← optional valueString
  return (value.map (·.value)).filter (· ≠ "")

/-- A part of a multipart form that is read from a file. -/
def filePart : Rule FilePart := do
  let _ ← leadingLines
  let begin ← position
  let key ← keyString
  colon
  literal "file,"
  blanks
  let filename ← filename
  blanks
  literal ";"
  blanks
  let contentType ← contentType
  let _ ← lineEnd
  return ⟨key, filename, contentType, begin⟩

/-- A part of a multipart form: a file part where the line is one, else a text part. -/
def part : Rule Part := do
  match ← optional filePart with
  | some p => return .file p
  | none => .text <$> fieldLine

/-- The section of multipart parts. -/
def multipartSection : Rule (List Part) := do
  sectionLine "MultipartFormData"
  zeroOrMore part

/-- A section of a request. -/
def requestSection : Rule RequestSection :=
  choice [.query <$> fieldSection "QueryStringParams", .form <$> fieldSection "FormParams",
    .cookies <$> fieldSection "Cookies", .multipart <$> multipartSection,
    .captures <$> capturesSection, .asserts <$> assertsSection]

/-- A request. -/
def request : Rule Request := do
  let comments ← leadingLines
  let begin ← position
  let method ← method
  someBlanks
  let url ← url
  let _ ← lineEnd
  let headers ← zeroOrMore fieldLine
  let sections ← zeroOrMore requestSection
  let body ← optional body
  return {
    position := begin
    comments
    method
    url
    headers
    query := sections.flatMap (·.getQuery)
    form := sections.flatMap (·.getForm)
    multipart := sections.flatMap (·.getMultipart)
    cookies := sections.flatMap (·.getCookies)
    captures := sections.flatMap (·.getCaptures)
    asserts := sections.flatMap (·.getAsserts)
    body }

/-- An entry. -/
def entry : Rule Entry := do
  let request ← request
  let response ← optional response
  return ⟨request, response⟩

end HttpScript.Grammar
