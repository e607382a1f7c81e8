import HttpScript.Decimal.Read
import HttpScript.Text.Class
import HttpScript.Text.Ranges
import HttpScript.Text.Visible

/-! # Property files

A property file has a name and a value on a line, with `=` or `:` between them. A line may be a
comment or the header of a section; names in all sections count alike. Values and names know
escapes, a value may have quoted parts, and a line may go on behind a backslash at its end.

Reading moves a `Place` over the text, which keeps the line and column that faults are reported
at. -/

namespace HttpScript.Properties

/-- Why a text is no property file. -/
inductive Cause
  /-- The text ends where one of some characters is wanted, or the end itself. -/
  | ended (wanted : List (Option Char))
  /-- A backslash in a code that a line break does not follow. -/
  | brokenCode (found : Option Char)
  | unknownCode
  | comment
  | noName
  deriving DecidableEq, Repr

/-- A character as faults show it, or the end. -/
def shown : Option Char → String
  | some '"' => "Some('\"')"
  | some c => "Some('" ++ .ofList (Text.visible c) ++ "')"
  | none => "None"

/-- The wording of a cause. -/
def Cause.message : Cause → String
  | ended wanted =>
    "expecting \"[" ++ ", ".intercalate (wanted.map shown) ++ "]\" but found EOF."
  | brokenCode found => "expecting \"\\\\n\" but found \"" ++ shown found ++ "\"."
  | unknownCode => "unknown character in \\xHH form"
  | comment => "doesn't support inline comment"
  | noName => "missing key"

/-- A cause at a place. -/
structure Fault where
  line : Nat
  column : Nat
  cause : Cause
  deriving DecidableEq, Repr

/-- The wording of a fault. -/
def Fault.message (e : Fault) : String :=
  toString e.line ++ ":" ++ toString e.column ++ " " ++ e.cause.message

/-- A place in a text: what is left of it, and the line and column of its first character. -/
structure Place where
  rest : List Char
  line : Nat
  column : Nat

namespace Place

/-- The character at a place. -/
def current (p : Place) : Option Char := p.rest.head?

/-- Counts a character that is reached. A line break begins the line behind it. -/
def arrive (p : Place) : Place :=
  match p.rest with
  | [] => p
  | '\n' :: _ => { p with line := p.line + 1, column := 0 }
  | _ => { p with column := p.column + 1 }

/-- The first place of a text. -/
def start (s : String) : Place := arrive ⟨s.toList, 0, 0⟩

/-- The next place. -/
def next (p : Place) : Place := arrive { p with rest := p.rest.tail }

theorem rest_next (p : Place) : p.next.rest = p.rest.tail := by
  unfold next arrive
  split <;> simp_all

/-- A fault at a place. -/
def fail {α : Type} (p : Place) (cause : Cause) : Except Fault α :=
  .error ⟨p.line + 1, p.column + 1, cause⟩

/-- The first place from here on whose character is not in a class. -/
def skip (accepts : Char → Bool) (p : Place) : Place :=
  match _h : p.rest with
  | [] => p
  | c :: _ => if accepts c then p.next.skip accepts else p
termination_by p.rest.length
decreasing_by simp [rest_next, _h]

end Place

/-- A character that an escape stands for by a letter. -/
def escaped : Char → Char
  | '0' => '\x00'
  | 'a' => '\x07'
  | 'b' => '\x08'
  | 't' => '\t'
  | 'r' => '\r'
  | 'n' => '\n'
  | c => c

/-- The characters of a code, behind the place of the one before them, and the place of the last. -/
def code (stops : List (Option Char)) : Nat → Place → Except Fault (List Char × Place)
  | 0, p => .ok ([], p)
  | n + 1, p =>
    let p := p.next
    match p.current with
    | none => p.fail (.ended stops)
    | some c =>
      if c = '\\' ∧ p.next.current ≠ some '\n' then p.next.fail (.brokenCode p.next.current)
      else do
        let (l, q) ← code stops n (if c = '\\' then p.next else p)
        return (c :: l, q)

/-- The character with a code of hexadecimal digits. -/
def charOfCode? (l : List Char) : Option Char :=
  if l.all fun c => (Text.hexValue? c).isSome then
    let n := Text.hexNumber l
    if n < 0xD800 ∨ 0xDFFF < n then some (.ofNat n) else none
  else none

/-- What a backslash and the characters behind it stand for, and the last place of them. The place
is that of the backslash. -/
def escape (stops : List (Option Char)) (p : Place) : Except Fault (List Char × Place) :=
  let q := p.next
  match q.current with
  | none => .ok (['\\'], q)
  | some '\n' => .ok ([], q)
  | some 'x' => do
    let (l, r) ← code stops 4 q
    match charOfCode? l with
    | some c => return ([c], r)
    | none => r.fail .unknownCode
  | some c => .ok ([escaped c], q)

/-- The text up to one of some characters, or up to the end if that is among them. -/
def textUntil (stops : List (Option Char)) (p : Place) : Except Fault (List Char × Place) :=
  match p.rest with
  | [] => if stops.contains none then .ok ([], p) else p.fail (.ended stops)
  | c :: _ =>
    if stops.contains (some c) then .ok ([], p)
    else do
      let (l, q) ← if c = '\\' then escape stops p else .ok ([c], p)
      if q.next.rest.length < p.rest.length then
        let (more, r) ← textUntil stops q.next
        return (l ++ more, r)
      else p.fail (.ended stops)
termination_by p.rest.length

/-- The rest of a line. -/
def restOfLine (p : Place) : Except Fault (List Char × Place) :=
  textUntil [some '\n', some '\r', none] p

/-- White space that does not end a line. -/
def isGap (c : Char) : Bool := Text.isWhite c && c != '\n' && c != '\r'

/-- A text without white space at its end. -/
def trimEnd (l : List Char) : List Char := (l.reverse.dropWhile Text.isWhite).reverse

/-- A value: quoted parts and the rest of the line. White space between them is kept. -/
def value (first : Bool) (p : Place) : Except Fault (List Char × Place) :=
  match p.rest with
  | [] => .ok ([], p)
  | c :: _ =>
    if c = '"' ∨ c = '\'' then do
      let (l, q) ← textUntil [some c] p.next
      if q.next.rest.length < p.rest.length then
        let (more, r) ← value false q.next
        return (l ++ more, r)
      else p.fail (.ended [some c])
    else do
      let (l, q) ← restOfLine p
      return (if first then Text.trim l else trimEnd l, q)
termination_by p.rest.length

/-- The place behind a line. -/
def behindLine (p : Place) : Place := (p.skip (· != '\n')).next

/-- What a line adds to the names and values. -/
inductive Line
  | nothing
  | name (text : String)
  | value (text : String)

/-- Reads what begins at a place: a comment, a header, a name, or a value behind the sign that
`name` stands before. -/
def line (name : String) (p : Place) (c : Char) : Except Fault (Line × Place) :=
  if c = ';' ∨ c = '#' then
    if 1 < p.column then p.fail .comment else .ok (.nothing, behindLine p)
  else if c = '[' then do
    let (_, q) ← textUntil [some ']'] p.next
    return (.nothing, q.next)
  else if c = '=' ∨ c = ':' then
    if name.isEmpty then p.fail .noName
    else do
      let (l, q) ← value true (p.next.skip isGap)
      return (.value (.ofList l), q)
  else do
    let (l, q) ← textUntil [some '=', some ':'] p
    return (.name (.ofList (Text.trim l)), q)

/-- Reads what is left. `name` is the name whose value has not been read yet. -/
def entries (name : String) (p : Place) : Except Fault (List (String × String)) :=
  match (p.skip Text.isWhite).rest with
  | [] => .ok []
  | c :: _ => do
    let (l, q) ← line name (p.skip Text.isWhite) c
    if q.rest.length < p.rest.length then
      match l with
      | .nothing => entries name q
      | .name name => entries name q
      | .value v => return (name, v) :: (← entries "" q)
    else return []
termination_by p.rest.length

/-- **The names and values in a text**, in order. -/
def read (s : String) : Except Fault (List (String × String)) :=
  entries "" (.start (if s.toList.head? = some '\uFEFF' then .ofList s.toList.tail else s))

end HttpScript.Properties
