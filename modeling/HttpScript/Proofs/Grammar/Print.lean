import HttpScript.Bytes.Base64
import HttpScript.Grammar.Request
import Mathlib.Data.List.Infix

/-! # Printing scripts

`Script.print` writes a script in its canonical form: one part a line, the sections of a request in
a fixed order and only where they hold something, and an escape only for a character that cannot
stand for itself. A `Layout` leaves open how lines end and which numeral is written for a number.

Not every script has a form that can be read back. `Script.Printable` says of each part what the
grammar demands of it; strings may hold any characters. Positions are not printed, and `unplaced`
forgets them. -/

namespace HttpScript.Script

open Grammar Text

/-! ### Layouts -/

/-- How lines end. -/
inductive LineEnding
  | lineFeed
  | carriageReturn
  deriving DecidableEq, Repr

/-- The characters at the end of a line. -/
def LineEnding.text : LineEnding → List Char
  | lineFeed => ['\n']
  | carriageReturn => ['\r', '\n']

/-- A number as it is written. -/
structure Numeral where
  negative : Bool
  whole : List Char
  /-- The digits behind the point, if there is one. -/
  fraction : Option (List Char)
  deriving DecidableEq, Repr

namespace Numeral

/-- The characters of a numeral. -/
def text (n : Numeral) : List Char :=
  (if n.negative then ['-'] else []) ++ n.whole ++ n.fraction.elim [] ('.' :: ·)

/-- The integer that a numeral without a point writes. -/
def toInt (n : Numeral) : Int :=
  if n.negative then -(Decimal.natOfDigits n.whole : Int) else Decimal.natOfDigits n.whole

/-- The double that a numeral writes. -/
def value (n : Numeral) : Float :=
  match n.fraction with
  | some fraction => Decimal.ofParts n.negative n.whole fraction 0
  | none => .ofInt n.toInt

/-- Digits, and at least one of them. -/
def IsDigits (l : List Char) : Prop := l ≠ [] ∧ ∀ c ∈ l, c.isDigit = true

/-- **A numeral for the number `x`.** Without a point it has to fit into 64 bits. -/
structure Writes (n : Numeral) (x : Float) : Prop where
  whole : IsDigits n.whole
  fraction : ∀ l ∈ n.fraction, IsDigits l
  fits : n.fraction = none → -Nat.pow 2 63 ≤ n.toInt ∧ n.toInt < Nat.pow 2 63
  value_eq : n.value = x

end Numeral

/-- What the form of a script leaves open. -/
structure Layout where
  ending : LineEnding
  /-- The numeral that is written for a number. -/
  numeral : Float → Numeral

/-! ### Strings -/

/-- The escape of a character, in a string where those of `plain` stand behind a backslash. -/
def escaped (plain : List Char) (c : Char) : List Char :=
  '\\' ::
    if plain.contains c then [c]
    else if c = '\x08' then ['b']
    else if c = '\n' then ['n']
    else if c = '\r' then ['r']
    else if c = '\t' then ['t']
    else 'u' :: '\x7b' :: Nat.toDigits 16 c.toNat ++ ['\x7d']

/-- A character of a key. -/
def keyWord (c : Char) : List Char := if isKeyChar c then [c] else escaped keyEscapes c

/-- The text of a key. -/
def keyText (s : String) : List Char := s.toList.flatMap keyWord

/-- A character of a quoted string. -/
def quotedWord (c : Char) : List Char :=
  if quotedEscapes.contains c then escaped quotedEscapes c else [c]

/-- The text of a quoted string. -/
def quotedText (t : Template) : List Char := '"' :: t.value.toList.flatMap quotedWord ++ ['"']

/-- A character of a value, which does not begin or end with a blank that stands for itself. -/
def valueWord (edge : Bool) (c : Char) : List Char :=
  if valueEscapes.contains c || isLineBreak c || (edge && isBlank c) then escaped valueEscapes c
  else [c]

/-- The characters of a value behind the first one. -/
def valueTail : List Char → List Char
  | [] => []
  | c :: l => valueWord l.isEmpty c ++ valueTail l

/-- The text of a value. -/
def valueText (s : String) : List Char :=
  match s.toList with
  | [] => []
  | c :: l => valueWord true c ++ valueTail l

namespace Layout

variable (w : Layout)

/-! ### Lines -/

/-- A line. -/
def line (l : List Char) : List Char := l ++ w.ending.text

/-- The line of a comment. -/
def comment (c : Comment) : List Char := w.line c.value.toList

/-- The line of a field. -/
def field (f : Field) : List Char :=
  w.line (keyText f.key ++ ':' :: ' ' :: valueText f.value.value)

/-- The line of a part of a multipart form. -/
def part : Part → List Char
  | .text f => w.field f
  | .file p =>
    w.line (keyText p.key ++ ':' :: ' ' :: "file,".toList ++ p.filename.toList ++ ';' ::
      p.contentType.elim [] (' ' :: valueText ·))

/-- A section, where it holds something. -/
def lines {α : Type} (name : String) (print : α → List Char) (l : List α) : List Char :=
  if l.isEmpty then [] else w.line ("[" ++ name ++ "]").toList ++ l.flatMap print

/-! ### Queries and predicates -/

/-- A further step of a query. -/
def subquery : Subquery → List Char
  | .regex t => ' ' :: "regex".toList ++ ' ' :: quotedText t
  | .count => ' ' :: "count".toList

/-- A query. -/
def query (q : Query) : List Char :=
  q.source.name.toList ++ q.source.argument?.elim [] (' ' :: quotedText ·) ++
    q.subquery.elim [] subquery

/-- A literal. -/
def literal : Literal → List Char
  | .string t => quotedText t
  | .number x => (w.numeral x).text
  | .bool b => (if b then "true" else "false").toList
  | .null => "null".toList

/-- What stands behind the keyword of a condition. -/
def operand : Condition → List Char
  | .equals l | .includes l => ' ' :: w.literal l
  | .equalsVariable name _ => ' ' :: "\x7b\x7b".toList ++ name.toList ++ "\x7d\x7d".toList
  | .ordered _ x => ' ' :: (w.numeral x).text
  | .startsWith t | .contains t | .like t => ' ' :: quotedText t
  | .countEquals n => ' ' :: Nat.toDigits 10 n
  | .present => []

/-- A predicate. -/
def predicate (p : Predicate) : List Char :=
  (if p.negated then "not".toList ++ [' '] else []) ++ p.condition.name.toList ++
    w.operand p.condition

/-- The line of a capture. -/
def capture (c : Capture) : List Char :=
  w.line (keyText c.name ++ ':' :: ' ' :: query c.query)

/-- The line of an assert. -/
def assert (a : Assert) : List Char :=
  w.line (query a.query ++ ' ' :: w.predicate a.predicate)

/-! ### Bodies and entries -/

/-- The content of a body. -/
def content : Content → List Char
  | .json t | .xml t => t.value.toList
  | .raw t => w.line marker.toList ++ t.value.toList ++ marker.toList
  | .base64 bytes => "base64,".toList ++ Bytes.Base64.encode bytes ++ [';']
  | .file name _ => "file,".toList ++ name.toList ++ [';']

/-- A body. -/
def body (b : Body) : List Char := w.line (w.content b.content)

/-- A request. -/
def request (r : Request) : List Char :=
  r.comments.flatMap w.comment ++ w.line (r.method.name.toList ++ ' ' :: r.url.value.toList) ++
    r.headers.flatMap w.field ++ w.lines "QueryStringParams" w.field r.query ++
    w.lines "FormParams" w.field r.form ++ w.lines "MultipartFormData" w.part r.multipart ++
    w.lines "Cookies" w.field r.cookies ++ w.lines "Captures" w.capture r.captures ++
    w.lines "Asserts" w.assert r.asserts ++ r.body.elim [] w.body

/-- The status that a response is expected to have. -/
def status : StatusPattern → List Char
  | .code n => Nat.toDigits 10 n.toNat
  | .any => ['*']

/-- An expected response. -/
def response (r : Response) : List Char :=
  w.line (r.version.value.name.toList ++ ' ' :: status r.status.value) ++
    r.headers.flatMap w.field ++ w.lines "Captures" w.capture r.captures ++
    w.lines "Asserts" w.assert r.asserts ++ r.body.elim [] w.body

/-- An entry. -/
def entry (e : Entry) : List Char := w.request e.request ++ e.response.elim [] w.response

end Layout

/-- **The canonical form of a script.** -/
def print (w : Layout) (s : Script) : List Char := s.entries.flatMap w.entry

/-! ### What can be printed -/

/-- A comment is one line. -/
structure Comment.Printable (c : Comment) : Prop where
  head : c.value.toList.head? = some '#'
  oneLine : ∀ x ∈ c.value.toList, isLineBreak x = false

/-- A key is not empty. -/
def Field.Printable (f : Field) : Prop := f.key ≠ ""

/-- A file name that the grammar accepts. -/
structure IsFilename (s : String) : Prop where
  ne_empty : s ≠ ""
  path : ∀ c ∈ s.toList, isPathChar c = true
  inside : ¬ ['.', '.'] <:+: s.toList

/-- A text part must not look like a file part. -/
def Part.Printable : Part → Prop
  | .text f => f.Printable ∧ ¬ "file,".toList <+: f.value.value.toList
  | .file p => p.key ≠ "" ∧ IsFilename p.filename ∧ p.contentType ≠ some ""

/-- An embedded document is recognised as a whole, and the marker ends a raw text only behind it. -/
def Content.Printable : Content → Prop
  | .json t => (∀ c ∈ t.value.toList.head?, isWhite c = false) ∧
      Json.extent? t.value.toList = some t.value.length
  | .xml t => t.value.toList.head? = some '<' ∧ Xml.extent? t.value.toList = some t.value.length
  | .raw t => ¬ marker.toList <:+: t.value.toList ++ marker.toList.dropLast
  | .base64 _ => True
  | .file name _ => IsFilename name

section

variable (w : Layout)

/-- A number has a numeral. -/
def Literal.Printable : Literal → Prop
  | .number x => (w.numeral x).Writes x
  | _ => True

/-- A variable has a name, and a count fits into 64 bits. -/
def Condition.Printable : Condition → Prop
  | .equals l | .includes l => l.Printable w
  | .equalsVariable name _ => name ≠ "" ∧ ∀ c ∈ name.toList, isNameChar c = true
  | .ordered _ x => (w.numeral x).Writes x
  | .countEquals n => n < Nat.pow 2 63
  | _ => True

/-- A capture has a name. -/
def Capture.Printable (c : Capture) : Prop := c.name ≠ ""

/-- A demand that can be printed. -/
def Assert.Printable (a : Assert) : Prop := a.predicate.condition.Printable w

/-- A url must not look like the value of a header. -/
structure IsUrl (s : String) : Prop where
  ne_empty : s ≠ ""
  url : ∀ c ∈ s.toList, isUrlChar c = true
  head : s.toList.head? ≠ some ':'

/-- A request that can be printed. -/
structure Request.Printable (r : Request) : Prop where
  comments : ∀ c ∈ r.comments, c.Printable
  url : IsUrl r.url.value
  headers : ∀ f ∈ r.headers, f.Printable
  query : ∀ f ∈ r.query, f.Printable
  form : ∀ f ∈ r.form, f.Printable
  multipart : ∀ p ∈ r.multipart, p.Printable
  cookies : ∀ f ∈ r.cookies, f.Printable
  captures : ∀ c ∈ r.captures, c.Printable
  asserts : ∀ a ∈ r.asserts, a.Printable w
  body : ∀ b ∈ r.body, b.content.Printable

/-- An expected response that can be printed. -/
structure Response.Printable (r : Response) : Prop where
  headers : ∀ f ∈ r.headers, f.Printable
  captures : ∀ c ∈ r.captures, c.Printable
  asserts : ∀ a ∈ r.asserts, a.Printable w
  body : ∀ b ∈ r.body, b.content.Printable

/-- An entry that can be printed. -/
structure Entry.Printable (e : Entry) : Prop where
  request : e.request.Printable w
  response : ∀ r ∈ e.response, r.Printable w

/-- **A script that can be printed.** -/
def Printable (s : Script) : Prop := ∀ e ∈ s.entries, e.Printable w

end

/-! ### Forgetting positions -/

/-- A template without its position. -/
def Template.unplaced (t : Template) : Template := { t with position := .start }

/-- A comment without its position. -/
def Comment.unplaced (c : Comment) : Comment := { c with position := .start }

/-- A field without its positions. -/
def Field.unplaced (f : Field) : Field := ⟨f.key, f.value.unplaced, .start⟩

/-- A part without its positions. -/
def Part.unplaced : Part → Part
  | .text f => .text f.unplaced
  | .file p => .file { p with position := .start }

/-- The content of a body without its positions. -/
def Content.unplaced : Content → Content
  | .json t => .json t.unplaced
  | .xml t => .xml t.unplaced
  | .raw t => .raw t.unplaced
  | .base64 bytes => .base64 bytes
  | .file name _ => .file name .start

/-- A body without its positions. -/
def Body.unplaced (b : Body) : Body := ⟨b.content.unplaced, .start⟩

/-- What a query reads, without positions. -/
def Source.unplaced : Source → Source
  | .status => .status
  | .header t => .header t.unplaced
  | .cookie t => .cookie t.unplaced
  | .body => .body
  | .xpath t => .xpath t.unplaced
  | .jsonpath t => .jsonpath t.unplaced
  | .regex t => .regex t.unplaced
  | .stored t => .stored t.unplaced
  | .duration => .duration

/-- A further step without its position. -/
def Subquery.unplaced : Subquery → Subquery
  | .regex t => .regex t.unplaced
  | .count => .count

/-- A query without its positions. -/
def Query.unplaced (q : Query) : Query :=
  ⟨q.source.unplaced, q.subquery.map (·.unplaced), .start⟩

/-- A literal without its position. -/
def Literal.unplaced : Literal → Literal
  | .string t => .string t.unplaced
  | .number x => .number x
  | .bool b => .bool b
  | .null => .null

/-- A condition without its positions. -/
def Condition.unplaced : Condition → Condition
  | .equals l => .equals l.unplaced
  | .equalsVariable name _ => .equalsVariable name .start
  | .ordered o x => .ordered o x
  | .startsWith t => .startsWith t.unplaced
  | .contains t => .contains t.unplaced
  | .includes l => .includes l.unplaced
  | .like t => .like t.unplaced
  | .countEquals n => .countEquals n
  | .present => .present

/-- A predicate without its positions. -/
def Predicate.unplaced (p : Predicate) : Predicate := ⟨p.negated, p.condition.unplaced, .start⟩

/-- A capture without its positions. -/
def Capture.unplaced (c : Capture) : Capture := ⟨c.name, c.query.unplaced, .start⟩

/-- An assert without its positions. -/
def Assert.unplaced (a : Assert) : Assert := ⟨a.query.unplaced, a.predicate.unplaced, .start⟩

/-- A request without its positions. -/
def Request.unplaced (r : Request) : Request where
  position := .start
  comments := r.comments.map (·.unplaced)
  method := r.method
  url := r.url.unplaced
  headers := r.headers.map (·.unplaced)
  query := r.query.map (·.unplaced)
  form := r.form.map (·.unplaced)
  multipart := r.multipart.map (·.unplaced)
  cookies := r.cookies.map (·.unplaced)
  captures := r.captures.map (·.unplaced)
  asserts := r.asserts.map (·.unplaced)
  body := r.body.map (·.unplaced)

/-- An expected response without its positions. -/
def Response.unplaced (r : Response) : Response where
  position := .start
  version := ⟨r.version.value, .start⟩
  status := ⟨r.status.value, .start⟩
  headers := r.headers.map (·.unplaced)
  captures := r.captures.map (·.unplaced)
  asserts := r.asserts.map (·.unplaced)
  body := r.body.map (·.unplaced)

/-- An entry without its positions. -/
def Entry.unplaced (e : Entry) : Entry := ⟨e.request.unplaced, e.response.map (·.unplaced)⟩

/-- **A script without its positions.** -/
def unplaced (s : Script) : Script := ⟨s.entries.map (·.unplaced)⟩

end HttpScript.Script
