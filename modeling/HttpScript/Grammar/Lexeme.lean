import HttpScript.Decimal.Read
import HttpScript.Grammar.Rule
import HttpScript.Script.Basic
import HttpScript.Text.Class

/-! # Lexemes

The smallest rules of the script grammar, shared by all others: fixed texts, blanks, line ends and
comments; the three kinds of string (`keyString`, `valueString`, `quotedString`) with their
escapes; numbers; lines `key: value`; file names and urls. -/

namespace HttpScript.Grammar

open Rule Script Text

/-! ### Fixed texts and line ends -/

/-- The characters `wanted`, the end of the fixed text `text`. -/
def literalTail (text : String) : List Char → Rule Unit
  | [] => pure ()
  | x :: wanted => do
    match ← peek with
    | some c =>
      if c = x then
        let _ ← read
        literalTail text wanted
      else failHere (.literal text (some c) x)
    | none => failHere (.literal text none x)

/-- The fixed text `text`. -/
def literal (text : String) : Rule Unit := literalTail text text.toList

/-- Any number of blanks. -/
def blanks : Rule Unit := do
  let _ ← readWhile isBlank

/-- At least one blank. -/
def someBlanks : Rule Unit := do
  let begin ← position
  let l ← readWhile isBlank
  if l.isEmpty then failAt begin .blank

/-- A line feed, or a carriage return with a line feed. -/
def lineBreak : Rule Unit := do
  let begin ← position
  let c ← read
  if c = '\n' then return
  else if c = '\r' then
    let d ← mapError (fun _ => .fault .lineFeed begin) read
    if d = '\n' then return else failAt begin .lineFeed
  else failAt begin .lineBreak

/-- A comment, up to the end of its line. -/
def comment : Rule Comment := do
  let begin ← position
  literal "#"
  let text ← readWhile fun c => !isLineBreak c
  return ⟨"#" ++ .ofList text, begin⟩

/-- A line break or the end of the text. Anything else is a fault at `begin`. -/
def endOfLine (begin : Position) : Rule Unit := do
  match ← peek with
  | some c => if isLineBreak c then lineBreak else failAt begin .endOfLine
  | none => pure ()

/-- Blanks, perhaps a comment, and then a line break or the end of the text. -/
def lineEnd : Rule (Option Comment) := do
  let begin ← position
  blanks
  let found ← match ← peek with
    | some '#' => some <$> comment
    | _ => pure none
  endOfLine begin
  return found

/-- Blank lines and comment lines, then blanks. Yields the comments. -/
def leadingLines : Rule (List Comment) := do
  let lines ← zeroOrMore lineEnd
  blanks
  return lines.filterMap id

/-! ### Strings -/

/-- The character with a given code point, written in braces by one to eight hexadecimal
digits. -/
def codePoint : Rule Char := do
  let begin ← position
  let opening ← read
  if opening ≠ '\x7b' then failAt begin .codePointOpening
  let digits ← readWhile isHexDigit
  let afterDigits ← position
  if digits.isEmpty || 8 < digits.length then failAt afterDigits .codePoint
  let closing ← read
  if closing ≠ '\x7d' then failAt afterDigits .codePointClosing
  let n := hexNumber digits
  if h : n.isValidChar then return Char.ofNatAux n h
  else failAt afterDigits .codePoint

/-- The rest of an escape, after its backslash. The characters `plain` stand for themselves; the
text must not end here, which would be the fault `broken`. -/
def escape (plain : List Char) (broken : Fault) : Rule Char := do
  let begin ← position
  let c ← readOr broken
  if plain.contains c then return c
  else match c with
    | 'b' => return '\x08'
    | 'n' => return '\n'
    | 'r' => return '\r'
    | 't' => return '\t'
    | 'u' => codePoint
    | _ => failAt begin (.unknownEscape c)

/-- A character that a key holds without an escape. -/
def isKeyChar (c : Char) : Bool := c.isAlphanum || c == '_' || c == '-' || c == '.'

/-- The characters that a key holds behind a backslash. -/
def keyEscapes : List Char := ['#', ' ', ':', '\\']

/-- One character of a key, or none where the key ends. -/
def keyChar : Rule (Option Char) := do
  match ← peek with
  | some c =>
    if isKeyChar c then some <$> read
    else if c = '\\' then
      let _ ← read
      some <$> escape keyEscapes .brokenKey
    else return none
  | none => return none

/-- **A key**: at least one key character or escape. -/
def keyString : Rule String := do
  let begin ← position
  let key ← collect keyChar
  if (← position).offset = begin.offset then failAt begin .emptyKey
  return .ofList key

/-- The characters that a value holds behind a backslash. -/
def valueEscapes : List Char := ['\\', '#']

/-- A character of a value, with the place after it. -/
structure ValueChar where
  char : Char
  /-- Whether it is a blank of the text; an escape never is. -/
  blank : Bool
  next : Cursor

/-- One character of a value, or none where the value ends. -/
def valueChar : Rule (Option ValueChar) := do
  match ← peek with
  | some c =>
    if c = '#' || isLineBreak c then return none
    else if c = '\\' then
      let _ ← read
      let d ← escape valueEscapes .brokenValue
      return some ⟨d, false, ← cursor⟩
    else
      let _ ← read
      return some ⟨c, isBlank c, ← cursor⟩
  | none => return none

/-- The characters of a value without the blanks at its end. -/
def dropTrailingBlanks (l : List ValueChar) : List ValueChar :=
  (l.reverse.dropWhile (·.blank)).reverse

/-- **An unquoted value**, up to a comment or the end of the line. The blanks before those are not
part of it and are left unread. -/
def valueString : Rule Template := do
  let begin ← cursor
  if (begin.peek?.map isBlank).getD false then failHere .brokenValue
  let value := dropTrailingBlanks (← collect valueChar)
  moveTo (match value.getLast? with
    | some last => last.next
    | none => begin)
  return ⟨.ofList (value.map (·.char)), begin.position⟩

/-- The characters that a quoted string holds behind a backslash. -/
def quotedEscapes : List Char := ['"', '\\']

/-- One character of a quoted string, or none at the quote that ends it. -/
def quotedChar : Rule (Option Char) := do
  let c ← readOr .closingQuote
  if c = '"' then return none
  else if c = '\\' then some <$> escape quotedEscapes .brokenString
  else return some c

/-- **A quoted string.** -/
def quotedString : Rule Template := do
  let begin ← position
  match ← peek with
  | some '"' =>
    let _ ← read
    let value ← collect quotedChar
    return ⟨.ofList value, begin⟩
  | _ => failAt begin .openingQuote

/-! ### Numbers and other literals -/

/-- A sign, if there is one: whether it is a minus. -/
def sign : Rule Bool := do
  match ← peek with
  | some '-' => let _ ← read; return true
  | some '+' => let _ ← read; return false
  | _ => return false

/-- At least one decimal digit. -/
def digits : Rule (List Char) := do
  let l ← readWhile Char.isDigit
  if l.isEmpty then failHere .digit
  return l

/-- An integer of 64 bits. -/
def integer : Rule Int := do
  let begin ← position
  let negative ← sign
  let n : Int := Decimal.natOfDigits (← digits)
  let n := if negative then -n else n
  if n < -Nat.pow 2 63 ∨ Nat.pow 2 63 ≤ n then failAt begin .integerRange
  return n

/-- A number with a decimal point. -/
def decimal : Rule Float := do
  let negative ← sign
  let whole ← digits
  match ← peek with
  | some '.' =>
    let _ ← read
    let fraction ← digits
    return Decimal.ofParts negative whole fraction 0
  | _ => failHere .decimalPoint

/-- A number, with or without a decimal point. -/
def number : Rule Float := choice [decimal, Float.ofInt <$> integer]

/-- `true` or `false`. -/
def boolean : Rule Bool := do
  let begin ← position
  match ← firstOf literal (fun b => if b then "true" else "false") [true, false] with
  | some b => return b
  | none => failAt begin .boolean

/-- A character of a variable name that stands for a value. -/
def isNameChar (c : Char) : Bool := c.isAlphanum || c == '_' || c == '-'

/-- A variable name in double braces, with the position of the braces. -/
def placeholder : Rule (String × Position) := do
  let begin ← position
  literal "\x7b\x7b"
  let nameBegin ← position
  let name ← readWhile isNameChar
  if name.isEmpty then failAt nameBegin .variableName
  literal "\x7d\x7d"
  return (.ofList name, begin)

/-! ### Lines and names -/

/-- A colon with blanks around it. -/
def colon : Rule Unit := do
  blanks
  literal ":"
  blanks

/-- `key: value`. -/
def field : Rule Field := do
  let begin ← position
  let key ← keyString
  colon
  return ⟨key, ← valueString, begin⟩

/-- A line `key: value`, after blank lines and comment lines. -/
def fieldLine : Rule Field := do
  let _ ← leadingLines
  let f ← field
  let _ ← lineEnd
  return f

/-- A character of a file name. -/
def isPathChar (c : Char) : Bool :=
  c.isAlphanum || c == '.' || c == '/' || c == '+' || c == '_' || c == '-'

/-- Whether two dots follow each other somewhere. -/
def hasDoubleDot : List Char → Bool
  | '.' :: '.' :: _ => true
  | _ :: l => hasDoubleDot l
  | [] => false

/-- A file name, which cannot refer to a parent directory. -/
def filename : Rule String := do
  let begin ← position
  let name ← readWhile isPathChar
  if name.isEmpty then failAt begin .filename
  if hasDoubleDot name then failAt begin .parentReference
  return .ofList name

/-- A character of a url: those that a url may hold, and braces. -/
def isUrlChar (c : Char) : Bool :=
  c.isAlphanum || "-._~:/?#[]@!$&'()*+,;=%\x7b\x7d".toList.contains c

/-- A url. -/
def url : Rule Template := do
  let begin ← position
  let text ← readWhile isUrlChar
  if text.isEmpty then failAt begin .url
  return ⟨.ofList text, begin⟩

/-- The line that opens a section, after blank lines and comment lines. -/
def sectionLine (name : String) : Rule Unit := do
  let _ ← leadingLines
  literal ("[" ++ name ++ "]")
  let _ ← lineEnd

end HttpScript.Grammar
