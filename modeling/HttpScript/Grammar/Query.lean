import HttpScript.Grammar.Lexeme

/-! # Queries

The rules for queries: a keyword with its argument, then perhaps a subquery. The alternatives are
tried in a fixed order, which decides the errors that are reported. -/

namespace HttpScript.Grammar

open Rule Script Text

/-- A keyword alone. -/
def bareSource (s : Source) : Rule Source := do
  literal s.name
  return s

/-- A keyword with blanks and a quoted string. -/
def quotedSource (make : Template → Source) : Rule Source := do
  literal (make default).name
  someBlanks
  return make (← quotedString)

/-- What a query reads. -/
def source : Rule Source :=
  choice [bareSource .status, quotedSource .header, quotedSource .cookie, bareSource .body,
    quotedSource .xpath, quotedSource .jsonpath, quotedSource .regex, quotedSource .stored,
    bareSource .duration]

/-- A pattern that is applied to the value. -/
def regexSubquery : Rule Subquery := do
  someBlanks
  literal "regex"
  someBlanks
  return .regex (← quotedString)

/-- Whether the word `count` may end before a character. -/
def endsCount (c : Char) : Bool := c == '#' || isBlank c || isLineBreak c

/-- The number of values. The word must stand alone: it also begins a longer keyword. -/
def countSubquery : Rule Subquery := do
  someBlanks
  literal "count"
  match ← peek with
  | some c => if endsCount c then return .count else failHere .afterCount
  | none => return .count

/-- A query. -/
def query : Rule Query := do
  let begin ← position
  let source ← source
  let subquery ← optional (choice [regexSubquery, countSubquery])
  return ⟨source, subquery, begin⟩

end HttpScript.Grammar
