import HttpScript.Grammar.Request

/-! # Reading scripts

`Script.read?` reads a whole script. Where that fails it reports one error: of all errors that
alternatives have left behind, and the fact that the first unread character was not expected, the
deepest one; where several are equally deep, the character found there. -/

namespace HttpScript

open Grammar

namespace Script

/-- The last of the errors with the highest offset. -/
def lastDeepest (first : ParseError) (errors : List ParseError) : ParseError :=
  errors.foldl (fun best e => if best.offset ≤ e.offset then e else best) first

/-- The character of a text at an error, as an error of its own. -/
def unexpectedAt (text : Array Char) (p : Position) : ParseError :=
  match text[p.offset]? with
  | some c => .fault (.unexpectedChar c) p
  | none => .fault .unexpectedEnd p

/-- **The error to report** for a text, given the errors of its alternatives and the last one. -/
def reported (text : Array Char) (errors : List ParseError) (terminal : ParseError) : ParseError :=
  match deepest? (errors ++ [terminal]) with
  | some e => e
  | none => unexpectedAt text (lastDeepest terminal (errors ++ [terminal])).position

/-- A script: entries, and then nothing but blank lines and comment lines. -/
def rule : Rule Script := do
  let entries ← Rule.zeroOrMore entry
  let _ ← Rule.zeroOrMore lineEnd
  return ⟨entries⟩

/-- **Reads a script.** -/
def read? (text : String) : Except ParseError Script :=
  match rule (State.ofText text) with
  | .error e _ => .error e
  | .ok script s =>
    match s.cursor.peek? with
    | none => .ok script
    | some c =>
      .error (reported s.cursor.text s.candidates
        (.fault (.unexpectedChar c) s.cursor.position))

end Script

end HttpScript
