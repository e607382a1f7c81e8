import HttpScript.Grammar.Failure

/-! # Cursors

A `Cursor` walks over the characters of a text and knows the exact position it has reached. Its
view is `rest`, the characters not read yet. Reading past the end fails and leaves the cursor
`exhausted`: every further read fails in the same way until the cursor is moved back or cleared. -/

namespace HttpScript.Grammar

/-- A place in a text. -/
structure Cursor where
  /-- The whole text. -/
  text : Array Char
  position : Position
  /-- Whether a read has failed at the end of the text. -/
  exhausted : Bool
  deriving DecidableEq, Repr, Inhabited

namespace Cursor

/-- The cursor at the beginning of a text. -/
def ofText (text : String) : Cursor := ⟨text.toList.toArray, .start, false⟩

/-- The characters not read yet. -/
def rest (c : Cursor) : List Char := c.text.toList.drop c.position.offset

/-- The number of characters not read yet. -/
def left (c : Cursor) : Nat := c.text.size - c.position.offset

/-- The next character. -/
def peek? (c : Cursor) : Option Char := c.text[c.position.offset]?

/-- The characters between two offsets. -/
def slice (c : Cursor) (a b : Nat) : List Char := (c.text.extract a b).toList

/-- The error that the cursor holds on to. -/
def error? (c : Cursor) : Option ParseError :=
  if c.exhausted then some (.endOfText c.position) else none

/-- Forgets the failed read. -/
def clear (c : Cursor) : Cursor := { c with exhausted := false }

/-- Moves to a position and forgets the failed read. -/
def moveTo (c : Cursor) (p : Position) : Cursor := { c with position := p, exhausted := false }

/-- Steps over the character `x`. -/
def step (c : Cursor) (x : Char) : Cursor := { c with position := c.position.advance x }

/-- Reads one character, or none at the end of the text. -/
def read (c : Cursor) : Option Char × Cursor :=
  if c.exhausted then (none, c)
  else match c.peek? with
    | some x => (some x, c.step x)
    | none => (none, { c with exhausted := true })

/-- Reads `n` characters; stops early, exhausted, if fewer are left. -/
def readN (c : Cursor) : Nat → Option (List Char) × Cursor
  | 0 => (some [], c)
  | n + 1 =>
    match c.read with
    | (none, d) => (none, d)
    | (some x, d) =>
      match d.readN n with
      | (none, e) => (none, e)
      | (some l, e) => (some (x :: l), e)

/-! ### The view -/

@[simp] theorem rest_moveTo (c : Cursor) (p : Position) :
    (c.moveTo p).rest = c.text.toList.drop p.offset := rfl

theorem peek?_eq_head? (c : Cursor) : c.peek? = c.rest.head? := by
  simp [peek?, rest, List.head?_drop]

theorem left_eq_length (c : Cursor) : c.left = c.rest.length := by
  simp [left, rest]

@[simp] theorem rest_step (c : Cursor) (x : Char) : (c.step x).rest = c.rest.tail := by
  simp [step, rest, List.tail_drop]

theorem peek?_of_rest {c : Cursor} {x : Char} {l : List Char} (h : c.rest = x :: l) :
    c.peek? = some x := by
  rw [peek?_eq_head?, h]; rfl

theorem left_step_lt {c : Cursor} {x : Char} (h : c.peek? = some x) (y : Char) :
    (c.step y).left < c.left := by
  have hlt : c.position.offset < c.text.size := (Array.getElem?_eq_some_iff.mp h).1
  simp only [left, step, Position.offset_advance]
  omega

/-- Reads while `p` holds of the next character. -/
def readWhile (p : Char → Bool) (c : Cursor) : List Char × Cursor :=
  match _ : c.peek? with
  | none => ([], c)
  | some x =>
    if p x then
      let r := readWhile p (c.step x)
      (x :: r.1, r.2)
    else ([], c)
termination_by c.left
decreasing_by exact left_step_lt (by assumption) x

end Cursor

end HttpScript.Grammar
