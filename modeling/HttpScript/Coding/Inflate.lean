import HttpScript.Coding.BitStream

/-! # Deflated data

Deflated data is a row of blocks. A block holds plain bytes, or symbols of prefix codes: literal
bytes and copies of earlier output. `inflate?` yields the output and the stream behind the last
block. A copy that reaches back beyond the start of the output finds zeros there. -/

namespace HttpScript.Coding.Inflate

/-- Why data cannot be inflated. -/
inductive Fault
  /-- It ends before the last block does. -/
  | incomplete
  | corrupt
  deriving DecidableEq, Repr

/-- A step on the stream of bits. -/
abbrev Step := StateT BitStream (Except Fault)

/-- The number that the next `n` bits give. -/
def bits (n : Nat) : Step Nat := fun s =>
  match s.take? n with
  | some r => .ok r
  | none => .error .incomplete

/-- Refuses the data. -/
def refuse {α : Type} : Step α := throw .corrupt

/-! ### Prefix codes -/

/-- A prefix code whose words are numbered by length and then by symbol. -/
structure PrefixCode where
  /-- How many words have the lengths 1, 2, …, 15. -/
  counts : List Nat
  /-- The symbols in the order of their words. -/
  symbols : Array Nat
  deriving Repr

namespace PrefixCode

/-- The code in which each symbol has a word of the given length, or none for zero. -/
def ofLengths (lengths : List Nat) : PrefixCode where
  counts := (List.range 15).map fun i => lengths.count (i + 1)
  symbols := ((List.range 15).flatMap fun i =>
    (lengths.zipIdx.filter (·.1 == i + 1)).map (·.2)).toArray

/-- The share of all words of 15 bits that the words of a code begin. -/
def share (c : PrefixCode) : Nat :=
  c.counts.zipIdx.foldr (fun (n, i) share => n * Nat.pow 2 (14 - i) + share) 0

/-- Whether every word of 15 bits begins with a word of the code. -/
def isComplete (c : PrefixCode) : Bool := c.share == Nat.pow 2 15

/-- Reads a word: `first` is the first word of the present length, `index` the number of shorter
words, and `word` what has been read of it. -/
def readFrom (c : PrefixCode) (word first index : Nat) : List Nat → Step Nat
  | [] => refuse
  | n :: counts => do
    let word := word + (← bits 1)
    if word < first + n then
      match c.symbols[index + (word - first)]? with
      | some s => return s
      | none => refuse
    else c.readFrom (2 * word) (2 * (first + n)) (index + n) counts

/-- Reads the word of a symbol. -/
def read (c : PrefixCode) : Step Nat := c.readFrom 0 0 0 c.counts

end PrefixCode

/-! ### Blocks of symbols -/

/-- Base and number of further bits for the lengths of copies. -/
def lengthTable : List (Nat × Nat) :=
  [(3, 0), (4, 0), (5, 0), (6, 0), (7, 0), (8, 0), (9, 0), (10, 0), (11, 1), (13, 1), (15, 1),
   (17, 1), (19, 2), (23, 2), (27, 2), (31, 2), (35, 3), (43, 3), (51, 3), (59, 3), (67, 4),
   (83, 4), (99, 4), (115, 4), (131, 5), (163, 5), (195, 5), (227, 5), (258, 0)]

/-- Base and number of further bits for the distances of copies. -/
def distanceTable : List (Nat × Nat) :=
  [(1, 0), (2, 0), (3, 0), (4, 0), (5, 1), (7, 1), (9, 2), (13, 2), (17, 3), (25, 3), (33, 4),
   (49, 4), (65, 5), (97, 5), (129, 6), (193, 6), (257, 7), (385, 7), (513, 8), (769, 8),
   (1025, 9), (1537, 9), (2049, 10), (3073, 10), (4097, 11), (6145, 11), (8193, 12), (12289, 12),
   (16385, 13), (24577, 13)]

/-- A number by its entry in a table and the bits that follow. -/
def tableValue (table : List (Nat × Nat)) (i : Nat) : Step Nat :=
  match table[i]? with
  | some (base, extra) => return base + (← bits extra)
  | none => refuse

/-- Appends `n` bytes, each equal to the byte `distance` before it. -/
def copy (out : Array UInt8) (distance n : Nat) : Array UInt8 :=
  Nat.repeat (fun out =>
    out.push (if distance ≤ out.size then out[out.size - distance]?.getD 0 else 0)) n out

/-- Reads symbols to the end of a block. Each takes a bit at least, which bounds their number. -/
def symbols (literals distances : PrefixCode) : Nat → Array UInt8 → Step (Array UInt8)
  | 0, _ => throw .incomplete
  | fuel + 1, out => do
    let s ← literals.read
    if s < 256 then symbols literals distances fuel (out.push (.ofNat s))
    else if s = 256 then return out
    else
      let n ← tableValue lengthTable (s - 257)
      let d ← tableValue distanceTable (← distances.read)
      symbols literals distances fuel (copy out d n)

/-! ### The codes of a block -/

/-- The fixed code of literals and lengths. -/
def fixedLiterals : PrefixCode :=
  .ofLengths (List.replicate 144 8 ++ List.replicate 112 9 ++ List.replicate 24 7 ++
    List.replicate 8 8)

/-- The fixed code of distances. -/
def fixedDistances : PrefixCode := .ofLengths (List.replicate 32 5)

/-- The order in which the lengths of the code for lengths are given. -/
def lengthOrder : List Nat := [16, 17, 18, 0, 8, 7, 9, 6, 10, 5, 11, 4, 12, 3, 13, 2, 14, 1, 15]

/-- Reads `n` numbers of `width` bits. -/
def numbers (width : Nat) : Nat → Step (List Nat)
  | 0 => return []
  | n + 1 => do
    let x ← bits width
    return x :: (← numbers width n)

/-- Reads word lengths until there are `n`; runs of equal lengths are given by their count. Each
step adds a length at least, which bounds their number. -/
def wordLengths (c : PrefixCode) (n : Nat) : Nat → List Nat → Step (List Nat)
  | 0, _ => refuse
  | fuel + 1, reversed =>
    if reversed.length = n then return reversed.reverse
    else if n < reversed.length then refuse
    else do
      let s ← c.read
      if s < 16 then wordLengths c n fuel (s :: reversed)
      else if s = 16 then
        match reversed with
        | [] => refuse
        | x :: _ => wordLengths c n fuel (List.replicate (3 + (← bits 2)) x ++ reversed)
      else if s = 17 then wordLengths c n fuel (List.replicate (3 + (← bits 3)) 0 ++ reversed)
      else wordLengths c n fuel (List.replicate (11 + (← bits 7)) 0 ++ reversed)

/-- A code for symbols: it must be complete unless it has one word at most. -/
def checked (lengths : List Nat) : Step PrefixCode :=
  let c := PrefixCode.ofLengths lengths
  if c.isComplete || c.symbols.size ≤ 1 then return c else refuse

/-- Reads the codes that a block brings with it. -/
def ownCodes : Step (PrefixCode × PrefixCode) := do
  let literals := (← bits 5) + 257
  let distances := (← bits 5) + 1
  let given ← numbers 3 ((← bits 4) + 4)
  if 286 < literals ∨ 30 < distances then refuse
  let lengths := (List.range 19).map fun i =>
    match (lengthOrder.zip given).find? (·.1 == i) with
    | some (_, n) => n
    | none => 0
  let c := PrefixCode.ofLengths lengths
  if !c.isComplete then refuse
  let all ← wordLengths c (literals + distances) (literals + distances + 1) []
  return (← checked (all.take literals), ← checked (all.drop literals))

/-! ### All blocks -/

/-- Reads the plain bytes of a block. -/
def plain (out : Array UInt8) : Step (Array UInt8) := do
  modify BitStream.align
  let n ← bits 16
  if n + (← bits 16) ≠ 65535 then refuse
  return out ++ ((← numbers 8 n).map UInt8.ofNat).toArray

/-- Reads blocks up to the last one. Each takes three bits at least, which bounds their number. -/
def blocks : Nat → Array UInt8 → Step (Array UInt8)
  | 0, _ => throw .incomplete
  | fuel + 1, out => do
    let last ← bits 1
    let kind ← bits 2
    let bound := (← get).left + 1
    let out ← match kind with
      | 0 => plain out
      | 1 => symbols fixedLiterals fixedDistances bound out
      | 2 => do
        let (literals, distances) ← ownCodes
        symbols literals distances bound out
      | _ => refuse
    if last = 1 then return out else blocks fuel out

/-- **Inflates data**: the output, and the stream behind the last block. -/
def inflate? (s : BitStream) : Except Fault (Array UInt8 × BitStream) := blocks (s.left + 1) #[] s

end HttpScript.Coding.Inflate
