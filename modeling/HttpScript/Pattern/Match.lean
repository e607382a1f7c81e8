import HttpScript.Pattern.Read

/-! # Matching patterns

A pattern is compiled to a `Program`, whose instructions read a character, assert something about
the place, mark the ends of the first group or branch, the preferred branch first. `Node.search`
runs all threads of a program side by side over a text, in the order of preference, so its work is
bounded by the product of both lengths. The match it finds is the leftmost one, and of those the
preferred one. -/

namespace HttpScript.Pattern

open Text

/-- An instruction; numbers are the places of the instructions to go on with. -/
inductive Instr
  | read (s : CharSet) (next : Nat)
  | look (l : Look) (next : Nat)
  | openGroup (next : Nat)
  | closeGroup (next : Nat)
  | branch (first second : Nat)
  | done
  deriving Repr, Inhabited

/-- The instructions of a pattern, in no particular order. -/
abbrev Program := Array Instr

/-! ### Compiling -/

/-- Adds an instruction and yields its place. -/
def emit (i : Instr) : StateM Program Nat := do
  let p ← get
  set (p.push i)
  return p.size

/-- A place for an instruction that is not known yet. -/
def reserve : StateM Program Nat := emit .done

/-- Puts an instruction into a reserved place. -/
def fill (place : Nat) (i : Instr) : StateM Program Unit :=
  modify fun p => p.setIfInBounds place i

/-- A branch into a repetition or past it. -/
def branchTo (greedy : Bool) (inside past : Nat) : Instr :=
  if greedy then .branch inside past else .branch past inside

/-- Emits `n` copies of a part, one behind the other, before the place `next`. -/
def copies (part : Nat → StateM Program Nat) : Nat → Nat → StateM Program Nat
  | 0, next => return next
  | n + 1, next => do copies part n (← part next)

/-- Emits up to `n` copies of a part, each of which may be the last, before the place `past`. -/
def optionalCopies (part : Nat → StateM Program Nat) (greedy : Bool) (past : Nat) :
    Nat → StateM Program Nat
  | 0 => return past
  | n + 1 => do
    let rest ← optionalCopies part greedy past n
    emit (branchTo greedy (← part rest) past)

/-- Emits one or more rounds of a part before the place `past`. -/
def rounds (part : Nat → StateM Program Nat) (greedy : Bool) (past : Nat) :
    StateM Program Nat := do
  let again ← reserve
  let start ← part again
  fill again (branchTo greedy start past)
  return start

/-- Emits any number of rounds of a part. Where the part reads something each time, one branch
stands before it; else it has to be entered first, so that a round without reading can end. -/
def anyRounds (part : Nat → StateM Program Nat) (greedy nullable : Bool) (past : Nat) :
    StateM Program Nat := do
  if nullable then
    let start ← rounds part greedy past
    emit (branchTo greedy start past)
  else
    let again ← reserve
    let start ← part again
    fill again (branchTo greedy start past)
    return again

mutual

/-- Emits the instructions of a node before the place `next` and yields where they start. -/
def compile : Node → Nat → StateM Program Nat
  | .empty, next => return next
  | .set s, next => emit (.read s next)
  | .look l, next => emit (.look l next)
  | .group index n, next =>
    if index = 1 then do
      let close ← emit (.closeGroup next)
      let inner ← compile n close
      emit (.openGroup inner)
    else compile n next
  | .concat l, next => compileAll l next
  | .alternatives l, next => compileAny l next
  | .repeated least most greedy n, next => do
    let part := compile n
    match most with
    | none =>
      match least with
      | 0 => anyRounds part greedy n.nullable next
      | least + 1 => copies part least (← rounds part greedy next)
    | some most => copies part least (← optionalCopies part greedy next (most - least))

/-- Emits nodes one behind the other. -/
def compileAll : List Node → Nat → StateM Program Nat
  | [], next => return next
  | n :: l, next => do compile n (← compileAll l next)

/-- Emits nodes as alternatives. -/
def compileAny : List Node → Nat → StateM Program Nat
  | [], next => return next
  | [n], next => compile n next
  | n :: l, next => do
    let others ← compileAny l next
    let first ← compile n next
    emit (.branch first others)

end

/-! ### Looking around -/

/-- The characters on either side of a place. -/
structure Place where
  before : Option Char
  after : Option Char
  /-- The number of characters before the place. -/
  offset : Nat

/-- Whether there is a character, and one of words. -/
def isWordChar (word : CharSet) (c : Option Char) : Bool := c.any fun c => word.contains c.toNat

/-- Whether an assertion holds at a place. -/
def Look.holds (p : Place) : Look → Bool
  | textStart => p.before.isNone
  | textEnd => p.after.isNone
  | lineStart => p.before.isNone || p.before == some '\n'
  | lineEnd => p.after.isNone || p.after == some '\n'
  | crlfStart =>
    p.before.isNone || p.before == some '\n' || (p.before == some '\r' && p.after != some '\n')
  | crlfEnd =>
    p.after.isNone || p.after == some '\r' || (p.after == some '\n' && p.before != some '\r')
  | wordBoundary w => isWordChar w p.before != isWordChar w p.after
  | notWordBoundary w => isWordChar w p.before == isWordChar w p.after
  | wordStart w => !isWordChar w p.before && isWordChar w p.after
  | wordEnd w => isWordChar w p.before && !isWordChar w p.after
  | wordStartHalf w => !isWordChar w p.before
  | wordEndHalf w => !isWordChar w p.after

/-! ### Running -/

/-- The ends of the first group, as far as they are known. -/
structure Capture where
  first : Option Nat
  last : Option Nat
  deriving DecidableEq, Repr, Inhabited

/-- A thread: the instruction it stands at, and what it has captured. -/
structure Thread where
  instr : Nat
  capture : Capture
  deriving Repr, Inhabited

/-- Follows threads to the instructions that read a character or end the match, in order. No
instruction is visited twice at one place; `steps` bounds the visits. -/
def follow (p : Program) (place : Place) :
    Nat → List Thread → Array Bool → List Thread → List Thread × Array Bool
  | 0, _, visited, found => (found, visited)
  | _, [], visited, found => (found, visited)
  | steps + 1, t :: pending, visited, found =>
    if visited.getD t.instr true then follow p place steps pending visited found
    else
      let visited := visited.setIfInBounds t.instr true
      match p[t.instr]? with
      | none => follow p place steps pending visited found
      | some i =>
        match i with
        | .read _ _ | .done => follow p place steps pending visited (t :: found)
        | .look l next =>
          if l.holds place then
            follow p place steps ({ t with instr := next } :: pending) visited found
          else follow p place steps pending visited found
        | .openGroup next =>
          follow p place steps
            (⟨next, { t.capture with first := some place.offset }⟩ :: pending) visited found
        | .closeGroup next =>
          follow p place steps
            (⟨next, { t.capture with last := some place.offset }⟩ :: pending) visited found
        | .branch a b =>
          follow p place steps
            ({ t with instr := a } :: { t with instr := b } :: pending) visited found

/-- The threads that have read the character `c`, up to the first that ends the match, and what
that one has captured. -/
def advance (p : Program) (c : Option Char) : List Thread → List Thread × Option Capture
  | [] => ([], none)
  | t :: l =>
    match p[t.instr]? with
    | some .done => ([], some t.capture)
    | some (.read s next) =>
      let (threads, found) := advance p c l
      match c with
      | some c => if s.contains c.toNat then ({ t with instr := next } :: threads, found)
        else (threads, found)
      | none => (threads, found)
    | _ => advance p c l

/-- The threads at a place and the match found so far. -/
structure Search where
  threads : List Thread
  found : Option Capture

/-- One place of a search. As long as no match has been found, one more thread starts at every
place, behind all others. -/
def Search.visit (p : Program) (start : Nat) (place : Place) (s : Search) : Search :=
  let pending :=
    if s.found.isNone then s.threads ++ [⟨start, ⟨none, none⟩⟩] else s.threads
  let steps := 2 * p.size + pending.length + 1
  let (order, _) := follow p place steps pending (Array.replicate p.size false) []
  let (threads, ended) := advance p place.after order.reverse
  ⟨threads, ended.or s.found⟩

/-- Runs a search over the rest of a text. -/
def Search.run (p : Program) (start : Nat) (before : Option Char) (offset : Nat) (s : Search) :
    List Char → Option Capture
  | [] => (s.visit p start ⟨before, none, offset⟩).found
  | c :: l =>
    let s := s.visit p start ⟨before, some c, offset⟩
    if s.found.isSome && s.threads.isEmpty then s.found
    else s.run p start (some c) (offset + 1) l

/-- **The leftmost match of a pattern in a text**, by what its first group captured. -/
def Node.search (n : Node) (text : List Char) : Option Capture :=
  let (start, p) := (do compile n (← emit .done) : StateM Program Nat).run #[]
  Search.run p start none 0 ⟨[], none⟩ text

/-- Whether a pattern matches somewhere in a text. -/
def Node.isMatch (n : Node) (text : String) : Bool := (n.search text.toList).isSome

end HttpScript.Pattern
