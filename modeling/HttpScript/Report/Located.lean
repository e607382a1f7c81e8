import HttpScript.Grammar.Failure
import HttpScript.Report.Style
import HttpScript.Run.Basic
import HttpScript.Text.Class

/-! # Messages about a place in a script

`locate` shows a message with the line of the script that it is about and a caret under the
character that is meant. The last line has as many characters before the caret as the script's
line shows before the place. -/

namespace HttpScript.Report

/-- The line of a text with a number, the first being one, without its end. -/
def sourceLine (source : String) (line : Nat) : List Char :=
  let l := (source.toList.splitOn '\n').getD (line - 1) []
  if l.getLast? = some '\r' then l.dropLast else l

/-- Blanks up to a column. Tabs are kept and what takes no room is left out. -/
def indent (line : List Char) (column : Nat) : List Char :=
  ((line.take (column - 1)).filter fun c => !Text.isCombining c).map fun c =>
    if c = '\t' then '\t' else ' '

/-- **A message with the line it is about.** -/
def locate (filename source : String) (p : Position) (message : String) (colored : Bool) : String :=
  let number := toString p.line
  let gutter (s : String) := paint .boldBlue colored (s ++ " |") ++ " "
  let line := sourceLine source p.line
  paint .bold colored (filename ++ ":" ++ number ++ ":" ++ toString p.column) ++ ": " ++
    paint .boldRed colored "error:" ++ " " ++ message ++ "\n" ++
    gutter number ++ .ofList line ++ "\n" ++
    gutter ("".pushn ' ' number.length) ++ .ofList (indent line p.column) ++
    paint .boldRed colored "^"

/-- A parse error with the line it is about. -/
def parseError (filename source : String) (e : Grammar.ParseError) (colored : Bool) : String :=
  locate filename source e.position e.message colored

/-- The positions and messages of what went wrong in an entry: errors before failed checks. -/
def problems (r : Run.EntryResult) : List (Position × String) :=
  (r.errors.map fun e => (e.position, e.message)) ++
    r.failedAsserts.map fun a => (a.position, a.message)

/-- **All that went wrong in a run**, in order. -/
def failures (filename source : String) (r : Run.Result) (colored : Bool) : List String :=
  (r.entries.flatMap problems).map fun (p, message) => locate filename source p message colored

end HttpScript.Report
