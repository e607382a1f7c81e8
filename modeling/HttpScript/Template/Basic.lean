import HttpScript.Position
import HttpScript.Value.Variables

/-! # Templates

A template is text with placeholders `{{name}}` or `{{{name}}}`. `Template.segments` splits it into
literal text and placeholders, by its characters alone; `Template.render` puts the texts of
variables in the place of placeholders. What a variable puts in is not looked at again. -/

namespace HttpScript.Template

/-- A piece of a template. -/
inductive Segment
  | literal (text : List Char)
  /-- A placeholder as it is written, and the name in it. -/
  | placeholder (written name : List Char)
  deriving DecidableEq, Repr

/-- The characters of a segment as they are written. -/
def Segment.written : Segment → List Char
  | literal l => l
  | placeholder l _ => l

/-- A character of the name in a placeholder. -/
def isNameChar (c : Char) : Bool := c.isAlphanum || c == '_' || c == '-' || c == ' '

/-- The placeholder at the start of a text: two or three opening braces, a name, and as many
closing braces as there are, of which two are needed and three are taken. -/
def placeholder? (l : List Char) : Option (List Char × List Char) :=
  let opening := l.takeWhile (· == '\x7b')
  if opening.length = 2 ∨ opening.length = 3 then
    let afterOpening := l.drop opening.length
    let name := afterOpening.takeWhile isNameChar
    let closing := ((afterOpening.drop name.length).takeWhile (· == '\x7d')).take 3
    if name.isEmpty ∨ closing.length < 2 then none
    else some (opening ++ name ++ closing, name)
  else none

/-- Puts a character in front of segments. -/
def consChar (c : Char) : List Segment → List Segment
  | .literal l :: s => .literal (c :: l) :: s
  | s => .literal [c] :: s

/-- **The segments of a text**, from left to right. -/
def segments (l : List Char) : List Segment :=
  match l with
  | [] => []
  | c :: r =>
    match placeholder? (c :: r) with
    | some (written, name) =>
      .placeholder written name :: segments (r.drop (written.length - 1))
    | none => consChar c (segments r)
termination_by l.length
decreasing_by all_goals simp only [List.length_drop, List.length_cons]; omega

/-- Why a placeholder cannot be filled. -/
inductive Reason
  | undefined
  /-- The variable has no text. -/
  | opaqueValue
  deriving DecidableEq, Repr

/-- The wording of a reason. -/
def Reason.message : Reason → String
  | undefined => "undefined variable"
  | opaqueValue => "invalid variable"

/-- A placeholder that cannot be filled, with the position of its template. -/
structure InvalidVariable where
  name : String
  position : Position
  reason : Reason
  deriving DecidableEq, Repr

/-- The wording of an error. -/
def InvalidVariable.message (e : InvalidVariable) : String := e.reason.message ++ " " ++ e.name

/-- The text of a variable. -/
def lookup (vars : Variables) (p : Position) (name : List Char) : Except InvalidVariable String :=
  let name : String := .ofList name
  match vars.find? name with
  | none => .error ⟨name, p, .undefined⟩
  | some v =>
    match v.text? with
    | some s => .ok s
    | none => .error ⟨name, p, .opaqueValue⟩

/-- The text of a segment. -/
def Segment.fill (vars : Variables) (p : Position) : Segment → Except InvalidVariable String
  | literal l => .ok (.ofList l)
  | placeholder _ name => lookup vars p name

/-- **Fills the placeholders of a text.** The first one that cannot be filled is reported at `p`. -/
def render (vars : Variables) (p : Position) (text : String) : Except InvalidVariable String := do
  let filled ← (segments text.toList).mapM (Segment.fill vars p)
  return .join filled

end HttpScript.Template
