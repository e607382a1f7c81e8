import HttpScript.Pattern.CharSet

/-! # Patterns

A `Pattern` is a regular expression: sets of characters, assertions about the place in the text,
concatenation, ordered alternatives, repetitions and groups. Flags have been resolved: they live on
in the sets and assertions only. -/

namespace HttpScript.Pattern

/-- An assertion about a place in a text. -/
inductive Look
  | textStart | textEnd
  | lineStart | lineEnd
  /-- The same where a carriage return may end a line too. -/
  | crlfStart | crlfEnd
  /-- Of two neighbours one is a character of words, and the other one is not. -/
  | wordBoundary (word : CharSet)
  | notWordBoundary (word : CharSet)
  | wordStart (word : CharSet)
  | wordEnd (word : CharSet)
  | wordStartHalf (word : CharSet)
  | wordEndHalf (word : CharSet)
  deriving DecidableEq, Repr, Inhabited

/-- A part of a pattern. -/
inductive Node
  | empty
  | set (s : CharSet)
  | look (l : Look)
  /-- A group with its number, by which it captures what it matches; 0 captures nothing. -/
  | group (index : Nat) (inner : Node)
  | concat (parts : List Node)
  | alternatives (parts : List Node)
  /-- At least `least` and at most `most` times, more rather than fewer if `greedy`. -/
  | repeated (least : Nat) (most : Option Nat) (greedy : Bool) (inner : Node)
  deriving Repr, Inhabited

namespace Node

mutual

/-- How deep nodes stand inside each other. -/
def depth : Node → Nat
  | empty | set _ | look _ => 0
  | group _ n => n.depth + 1
  | concat l => depthAll l + 1
  | alternatives l => depthAll l + 1
  | repeated _ _ _ n => n.depth + 1

/-- The largest depth of some nodes. -/
def depthAll : List Node → Nat
  | [] => 0
  | n :: l => max n.depth (depthAll l)

end

/-- The bytes that one state of an automaton takes. -/
def stateBytes : Nat := 32

/-- The states that a set needs to be matched byte by byte. -/
def setStates (s : CharSet) : Nat :=
  match s with
  | [] => 1
  | _ => if s.isAscii then 1 else 3 + s.length / 2

mutual

/-- An estimate of the states of the automaton of a node. -/
def states : Node → Nat
  | empty | look _ => 1
  | set s => setStates s
  | group index n => if index = 0 then n.states else n.states + 2
  | concat l => statesAll l
  | alternatives l => statesAll l + l.length + 1
  | repeated least most _ n =>
    match most with
    | none => (max least 1) * n.states + 2
    | some m => m * (n.states + 1) + 1

/-- The states of some nodes together. -/
def statesAll : List Node → Nat
  | [] => 0
  | n :: l => n.states + statesAll l

end

mutual

/-- Whether a node can match without reading a character. -/
def nullable : Node → Bool
  | empty | look _ => true
  | set _ => false
  | group _ n => n.nullable
  | concat l => nullableAll l
  | alternatives l => nullableAny l
  | repeated least _ _ n => least == 0 || n.nullable

/-- Whether all of some nodes can. -/
def nullableAll : List Node → Bool
  | [] => true
  | n :: l => n.nullable && nullableAll l

/-- Whether one of some nodes can. -/
def nullableAny : List Node → Bool
  | [] => false
  | n :: l => n.nullable || nullableAny l

end

end Node

end HttpScript.Pattern
