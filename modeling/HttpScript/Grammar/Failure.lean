import HttpScript.Position
import HttpScript.Text.Visible

/-! # Parse errors

A `ParseError` is a `Fault` at a position, or the end of the text where more was needed. A fault
names its cause; `Fault.message` gives the wording. Of many errors, `deepest?` selects the one at
the highest offset, provided it stands there alone. -/

namespace HttpScript.Grammar

/-- Why a rule did not accept the text. -/
inductive Fault
  /-- The fixed text `text` stops agreeing with the script at its character `wanted`. -/
  | literal (text : String) (found : Option Char) (wanted : Char)
  | blank
  | lineFeed
  | lineBreak
  | endOfLine
  | codePointOpening
  | codePoint
  | codePointClosing
  | emptyKey
  | brokenKey
  | brokenValue
  | brokenString
  | openingQuote
  | closingQuote
  /-- A character that no escape uses. -/
  | unknownEscape (c : Char)
  | digit
  | decimalPoint
  | integerRange
  | boolean
  | variableName
  | filename
  | parentReference
  | url
  | method
  | version
  | status
  | afterCount
  | count
  | json
  | xml
  | unbalancedXml
  | openRaw
  | base64
  | content
  | noAlternative
  | unexpectedChar (c : Char)
  | unexpectedEnd
  /-- A fault of a rule that is not part of the script grammar. -/
  | note (message : String)
  deriving DecidableEq, Repr, Inhabited

namespace Fault

/-- The wording of a fault. -/
def message : Fault → String
  | literal text found wanted =>
    "'" ++ text ++ "' is expected, invalid " ++
      (match found with
        | some c => "'" ++ .ofList (Text.visible c) ++ "'"
        | none => "eof") ++
      " instead of '" ++ .singleton wanted ++ "'"
  | blank => "space or tab is expected"
  | lineFeed => "\\n is expected"
  | lineBreak => "\\n or \\r\\n is expected"
  | endOfLine => "newline is expected"
  | codePointOpening => "\x7b expected, invalid unicode literal"
  | codePoint => "invalid unicode literal"
  | codePointClosing => "\x7d expected, invalid unicode literal"
  | emptyKey => "invalid empty key-string"
  | brokenKey => "invalid key-string"
  | brokenValue => "invalid unquoted-string-value"
  | brokenString => "invalid quoted-string"
  | openingQuote => "\" is expected at quoted-string beginning"
  | closingQuote => "\" is expected at quoted-string end"
  | unknownEscape c => "invalid escape char " ++ .singleton c
  | digit => "[0-9] is expected"
  | decimalPoint => "'.' is expected"
  | integerRange => "invalid integer"
  | boolean => "true or false is expected"
  | variableName => "[A-Za-z0-9_-] char is expected in variable-name"
  | filename => "a valid filename is expected"
  | parentReference => "relative filename is not valid"
  | url => "url is expected"
  | method => "method is expected"
  | version => "version is expected"
  | status => "status code is expected"
  | afterCount => "space is expected after count"
  | count => "a positive count is expected"
  | json => "valid JSON body is expected"
  | xml => "xml is expected"
  | unbalancedXml => "valid xml body is expected"
  | openRaw => "invalid multiline-string"
  | base64 => "a valid base64-string is expected"
  | content => "a valid bytes is expected"
  | noAlternative => "no valid choices"
  | unexpectedChar c => "unexpected char '" ++ .ofList (Text.visible c) ++ "'"
  | unexpectedEnd => "unexpected end of file"
  | note m => m

end Fault

/-- An error of reading a script. -/
inductive ParseError
  | fault (cause : Fault) (position : Position)
  /-- The text ended where a rule needed one more character. -/
  | endOfText (position : Position)
  deriving DecidableEq, Repr, Inhabited

namespace ParseError

/-- Where the error stands. -/
def position : ParseError → Position
  | fault _ p | endOfText p => p

/-- The number of characters before the error. -/
def offset (e : ParseError) : Nat := e.position.offset

/-- The wording of an error. -/
def message : ParseError → String
  | fault cause _ => cause.message
  | endOfText _ => "end of file"

end ParseError

/-! ### The deepest error -/

/-- The highest offset of some errors, if there are any. -/
def depth? (errors : List ParseError) : Option Nat := (errors.map (·.offset)).max?

/-- The errors at the highest offset, in order. -/
def candidates (errors : List ParseError) : List ParseError :=
  errors.filter fun e => some e.offset = depth? errors

/-- **The deepest error**, if it is alone at the highest offset. Equal errors are still several. -/
def deepest? (errors : List ParseError) : Option ParseError :=
  match candidates errors with
  | [e] => some e
  | _ => none

/-- The deepest error is one of the errors. -/
theorem mem_of_deepest? {l : List ParseError} {e : ParseError} (h : deepest? l = some e) :
    e ∈ l := by
  unfold deepest? at h
  split at h
  · rename_i he
    cases h
    have hmem : e ∈ candidates l := he ▸ List.mem_singleton_self e
    exact (List.mem_filter.mp hmem).1
  · cases h

end HttpScript.Grammar
