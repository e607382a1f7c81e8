import HttpScript.Grammar.Cursor

/-! # Rules

A grammar rule is a `Rule α`: it works on a `State`, a cursor and the log of the errors that
alternatives have left behind, and either yields an `α` or fails. A rule that fails leaves the
cursor where it failed; the combinators `optional`, `zeroOrMore`, `oneOrMore` and `choice` put the
cursor back and log the error. `State.candidates` are the logged errors at the highest offset. -/

namespace HttpScript.Grammar

/-- What a rule works on. -/
structure State where
  cursor : Cursor
  /-- The errors of all alternatives that failed, the last one first. -/
  log : List ParseError
  deriving DecidableEq, Repr, Inhabited

namespace State

/-- The state before a text. -/
def ofText (text : String) : State := ⟨.ofText text, []⟩

/-- All errors of failed alternatives, in order. -/
def history (s : State) : List ParseError := s.log.reverse

/-- One more error for a list of candidates: a deeper one replaces them, an equally deep one joins
them and a shallower one is dropped. -/
def keepDeepest (kept : List ParseError) (e : ParseError) : List ParseError :=
  match kept with
  | [] => [e]
  | k :: _ =>
    if e.offset < k.offset then kept
    else if k.offset < e.offset then [e]
    else kept ++ [e]

/-- The logged errors that can still be the deepest one. -/
def candidates (s : State) : List ParseError := s.history.foldl keepDeepest []

/-- Gives up what was read since `start` and logs the error. -/
def backtrack (s : State) (start : Cursor) (e : ParseError) : State :=
  ⟨start.clear, e :: s.log⟩

end State

/-- A grammar rule. -/
abbrev Rule := EStateM ParseError State

namespace Rule

variable {α β : Type}

/-! ### Access to the text -/

/-- The cursor. -/
def cursor : Rule Cursor := fun s => .ok s.cursor s

/-- The position of the cursor. -/
def position : Rule Position := fun s => .ok s.cursor.position s

/-- The next character, without reading it. -/
def peek : Rule (Option Char) := fun s => .ok s.cursor.peek? s

/-- Puts the cursor at a place reached before. -/
def moveTo (c : Cursor) : Rule Unit := fun s => .ok () { s with cursor := c.clear }

/-- Fails with `cause` at the position `p`. -/
def failAt (p : Position) (cause : Fault) : Rule α := throw (.fault cause p)

/-- Fails with `cause` where the cursor stands. -/
def failHere (cause : Fault) : Rule α := fun s => .error (.fault cause s.cursor.position) s

/-- Reads one character. -/
def read : Rule Char := fun s =>
  match s.cursor.read with
  | (some x, c) => .ok x { s with cursor := c }
  | (none, c) => .error (.endOfText c.position) { s with cursor := c }

/-- Reads `n` characters. -/
def readN (n : Nat) : Rule (List Char) := fun s =>
  match s.cursor.readN n with
  | (some l, c) => .ok l { s with cursor := c }
  | (none, c) => .error (.endOfText c.position) { s with cursor := c }

/-- Reads while `p` holds. -/
def readWhile (p : Char → Bool) : Rule (List Char) := fun s =>
  let r := s.cursor.readWhile p
  .ok r.1 { s with cursor := r.2 }

/-- The rule `r` with its errors changed by `f`. -/
def mapError (f : ParseError → ParseError) (r : Rule α) : Rule α := fun s =>
  match r s with
  | .ok a s' => .ok a s'
  | .error e s' => .error (f e) s'

/-- Reads one character; the end of the text is the fault `cause` at the cursor. -/
def readOr (cause : Fault) : Rule Char := fun s =>
  mapError (fun _ => .fault cause s.cursor.position) read s

/-! ### Repetition and alternatives -/

/-- Runs `r` until it yields nothing or reads nothing, and collects what it yields. -/
def collect (r : Rule (Option α)) : Rule (List α) := fun s =>
  match r s with
  | .error e s' => .error e s'
  | .ok none s' => .ok [] s'
  | .ok (some a) s' =>
    if s'.cursor.left < s.cursor.left then
      match collect r s' with
      | .error e t => .error e t
      | .ok l t => .ok (a :: l) t
    else .ok [a] s'
termination_by s => s.cursor.left

/-- Runs `r`; where it fails, nothing is read and the error is logged. -/
def optional (r : Rule α) : Rule (Option α) := fun s =>
  match r s with
  | .ok a s' => .ok (some a) s'
  | .error e s' => .ok none (s'.backtrack s.cursor e)

/-- `optional r` where some text is left, nothing at the end of the text. -/
def optionalBeforeEnd (r : Rule α) : Rule (Option α) := fun s =>
  if s.cursor.left = 0 then .ok none s else optional r s

/-- Runs `r` as often as it succeeds. -/
def zeroOrMore (r : Rule α) : Rule (List α) := collect (optionalBeforeEnd r)

/-- Runs `r` once, then as often as it succeeds. -/
def oneOrMore (r : Rule α) : Rule (List α) := do
  let a ← r
  let l ← zeroOrMore r
  return a :: l

/-- The alternatives `rules` at the cursor `start`; `failures` are the errors of those before. -/
def choiceFrom (start : Cursor) : List (Rule α) → List ParseError → Rule α
  | [], failures => fun s =>
    match deepest? failures with
    | some e => .error e s
    | none => .error (.fault .noAlternative start.position) s
  | r :: rules, failures => fun s =>
    match r s with
    | .ok a s' => .ok a s'
    | .error e s' => choiceFrom start rules (failures ++ [e]) (s'.backtrack start e)

/-- **The first alternative that succeeds.** If none does, the deepest of their errors. -/
def choice (rules : List (Rule α)) : Rule α := fun s => choiceFrom s.cursor rules [] s

/-- The value of the first pair whose fixed text `text` the rule `literal text` accepts. -/
def firstOf (literal : String → Rule Unit) (text : β → String) : List β → Rule (Option β)
  | [] => pure none
  | b :: l => do
    match ← optional (literal (text b)) with
    | some () => return some b
    | none => firstOf literal text l

end Rule

end HttpScript.Grammar
