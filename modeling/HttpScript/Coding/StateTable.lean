import HttpScript.Coding.BitStream

/-! # Tables of states

An entropy code whose decoder moves between the states of a table. A state stands for a symbol and
says how many bits to read for the next state. `StateTable.ofCounts` builds the table from how many
states each symbol has, and `StateTable.read?` reads these numbers. -/

namespace HttpScript.Coding

/-- A state: its symbol, the first of the states that can follow it, and the number of bits that
choose among these. -/
structure CodeState where
  symbol : Nat
  base : Nat
  bits : Nat
  deriving Repr, Inhabited

/-- A table of `2 ^ log` states. -/
structure StateTable where
  log : Nat
  states : Array CodeState
  deriving Repr, Inhabited

namespace StateTable

/-- The places of the symbols in a table. The symbols that are rarer than one state (`none` in
`counts`) fill it from the end; the others are dealt out at a fixed stride over what remains. -/
def spread (log : Nat) (counts : List (Option Nat)) : Array Nat :=
  let size := Nat.pow 2 log
  let indexed := counts.zipIdx
  let rare := (indexed.filter (·.1.isNone)).map (·.2)
  let room := size - rare.length
  let tail := rare.reverse
  let dealt := indexed.flatMap fun (n, s) => List.replicate (n.getD 0) s
  let stride := size / 2 + size / 8 + 3
  let places := ((List.range size).map fun i => i * stride % size).filter (· < room)
  let table := (places.zip dealt).foldl (fun (t : Array Nat) (i, s) => t.setIfInBounds i s)
    (Array.replicate room 0)
  table ++ tail.toArray

/-- The states for the places of a table, from the first on; `next` holds for each symbol the
number of its next state. -/
def number (log : Nat) : List Nat → Array Nat → List CodeState
  | [], _ => []
  | s :: l, next =>
    let n := next[s]?.getD 1
    let bits := log - Nat.log2 n
    ⟨s, n * Nat.pow 2 bits - Nat.pow 2 log, bits⟩ :: number log l (next.setIfInBounds s (n + 1))

/-- **The table in which each symbol has so many states**; `none` stands for a symbol that is rarer
than one state. -/
def ofCounts (log : Nat) (counts : List (Option Nat)) : StateTable where
  log := log
  states := (number log (spread log counts).toList (counts.map (·.getD 1)).toArray).toArray

/-- The table of one state. -/
def constant (symbol : Nat) : StateTable := ⟨0, #[⟨symbol, 0, 0⟩]⟩

/-- A state by its number. -/
def state (t : StateTable) (i : Nat) : CodeState := t.states[i]?.getD ⟨0, 0, 0⟩

/-- Reads how many zeros follow a count of zero: two bits each time, as long as both are set. -/
def zeros : Nat → BitStream → Option (Nat × BitStream)
  | 0, _ => none
  | fuel + 1, s => do
    let (n, s) ← s.take? 2
    if n < 3 then return (n, s)
    let (m, s) ← zeros fuel s
    return (3 + m, s)

/-- Completes a number whose low `width` bits have been read: it has one more bit unless it is one
of the `short` shortest. -/
def countFrom (width short low : Nat) (s : BitStream) : Option (Nat × BitStream) :=
  if low < short then some (low, s)
  else match s.take? 1 with
    | none => none
    | some (0, s) => some (low, s)
    | some (_, s) => some (low + Nat.pow 2 width - short, s)

/-- Reads counts, of which `left` states remain to be given. Each takes a bit at least, which bounds
their number. -/
def countsFrom (limit : Nat) : Nat → Nat → List (Option Nat) → BitStream →
    Option (List (Option Nat) × BitStream)
  | 0, _, _, _ => none
  | fuel + 1, left, reversed, s =>
    if left = 0 then some (reversed.reverse, s)
    else if limit < reversed.length + 1 then none
    else do
      let width := Nat.log2 (left + 1)
      let (low, s) ← s.take? width
      let short := Nat.pow 2 (width + 1) - 1 - (left + 1)
      let (v, s) ← countFrom width short low s
      match v with
      | 0 => countsFrom limit fuel (left - 1) (none :: reversed) s
      | 1 =>
        let (n, s) ← zeros fuel s
        countsFrom limit fuel left (List.replicate (n + 1) (some 0) ++ reversed) s
      | n + 2 =>
        if left < n + 1 then none
        else countsFrom limit fuel (left - (n + 1)) (some (n + 1) :: reversed) s

/-- **Reads a table** of `2 ^ maxLog` states and `limit` symbols at most. -/
def read? (maxLog limit : Nat) (l : List UInt8) : Option (StateTable × List UInt8) := do
  let (log, s) ← (BitStream.ofList l).take? 4
  let log := log + 5
  if maxLog < log then none
  let (counts, s) ← countsFrom limit (s.left + 2) (Nat.pow 2 log) [] s
  if limit < counts.length then none
  return (.ofCounts log counts, s.rest)

end StateTable

end HttpScript.Coding
