/-! # Positions in a script

A `Position` says where a character of a text stands: its `offset` (from 0), its `line` and its
`column` (from 1), all counted in characters. `Position.advance` steps over one character and
`Position.after` over a list of them, so `Position.start.after l` is the position of whatever
follows the text `l`. -/

namespace HttpScript

/-- The place of a character in a text. -/
structure Position where
  /-- The number of characters before it. -/
  offset : Nat
  /-- Its line, counted from 1. -/
  line : Nat
  /-- Its column, counted from 1. -/
  column : Nat
  deriving DecidableEq, Repr, Inhabited

namespace Position

/-- The first character of a text. -/
def start : Position := ⟨0, 1, 1⟩

/-- The position after the character `c`: a line feed opens the next line. -/
def advance (p : Position) (c : Char) : Position :=
  if c = '\n' then ⟨p.offset + 1, p.line + 1, 1⟩ else ⟨p.offset + 1, p.line, p.column + 1⟩

/-- The position after the characters `l`. -/
def after (p : Position) (l : List Char) : Position := l.foldl advance p

@[simp] theorem after_nil (p : Position) : p.after [] = p := rfl

@[simp] theorem after_cons (p : Position) (c : Char) (l : List Char) :
    p.after (c :: l) = (p.advance c).after l := rfl

theorem after_append (p : Position) (l m : List Char) :
    p.after (l ++ m) = (p.after l).after m := List.foldl_append

@[simp] theorem offset_advance (p : Position) (c : Char) :
    (p.advance c).offset = p.offset + 1 := by
  unfold advance; split <;> rfl

theorem offset_after (p : Position) (l : List Char) :
    (p.after l).offset = p.offset + l.length := by
  induction l generalizing p with
  | nil => rfl
  | cons c l ih => rw [after_cons, ih, offset_advance, List.length_cons]; omega

end Position

end HttpScript
