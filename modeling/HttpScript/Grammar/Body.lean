import HttpScript.Bytes.Base64
import HttpScript.Grammar.Lexeme
import HttpScript.Json.Read
import HttpScript.Xml.Extent

/-! # Bodies

The rules for bodies: a JSON value or an XML document written into the script, text between
markers, base64, or the name of a file. -/

namespace HttpScript.Grammar

open Rule Script Text

/-- The first `n` characters as a template. -/
def templateOf (n : Nat) : Rule Template := do
  let begin ← position
  return ⟨.ofList (← readN n), begin⟩

/-- A JSON value. -/
def jsonContent : Rule Content := do
  let c ← cursor
  if (c.peek?.map isWhite).getD true then failHere .json
  match Json.extent? c.rest with
  | some n => .json <$> templateOf n
  | none => failHere .json

/-- An XML document. -/
def xmlContent : Rule Content := do
  let c ← cursor
  if c.peek? ≠ some '<' then failHere .xml
  match Xml.extent? c.rest with
  | some n => .xml <$> templateOf n
  | none => failHere .unbalancedXml

/-- What stands before and after a raw body. -/
def marker : String := "\x60\x60\x60"

/-- Whether the marker stands at the cursor. -/
def atMarker (c : Cursor) : Bool :=
  c.slice c.position.offset (c.position.offset + marker.length) = marker.toList

/-- One character of a raw body, or none at the marker. -/
def rawChar : Rule (Option Char) := do
  if atMarker (← cursor) then return none
  else some <$> mapError (fun e => .fault .openRaw e.position) read

/-- Text between markers. A line break behind the first marker is not part of it. -/
def rawContent : Rule Content := do
  literal marker
  let _ ← optional (do blanks; lineBreak)
  let begin ← position
  let text ← collect rawChar
  literal marker
  return .raw ⟨.ofList text, begin⟩

/-- A character of a base64 text, which may run over several lines. -/
def isBase64Char (c : Char) : Bool :=
  c.isAlphanum || isLineBreak c || c == '+' || c == '/' || c == '='

/-- Bytes in base64. -/
def base64Content : Rule Content := do
  literal "base64,"
  blanks
  let begin ← position
  let text ← readWhile isBase64Char
  match Bytes.Base64.decode? (text.filter fun c => !isLineBreak c) with
  | some bytes =>
    blanks
    literal ";"
    return .base64 bytes
  | none => failAt begin .base64

/-- The content of a file. -/
def fileContent : Rule Content := do
  literal "file,"
  blanks
  let begin ← position
  let name ← filename
  blanks
  literal ";"
  return .file name begin

/-- The content of a body. Where no alternative gets further than its beginning, one fault stands
for all of theirs. -/
def content : Rule Content := do
  let begin ← position
  mapError
    (fun
      | .fault cause p => .fault (if p = begin then .content else cause) p
      | e => e)
    (choice [jsonContent, xmlContent, rawContent, base64Content, fileContent])

/-- A body, after blank lines and comment lines. -/
def body : Rule Body := do
  let _ ← leadingLines
  let begin ← position
  let content ← content
  let _ ← lineEnd
  return ⟨content, begin⟩

end HttpScript.Grammar
