import HttpScript.Bytes.Checksum
import HttpScript.Coding.StateTable

/-! # Frames of compressed blocks

The third compressed format is a row of frames. A frame is a header, blocks and a checksum where the
header asks for one. A block holds plain bytes, one byte many times, or literals and sequences: a
sequence appends some of the literals and then a copy of earlier output. `unframe?` yields the
content of all frames, one after the other.

* `Frame.literals?`: the literals of a block, plain or in a prefix code (`WeightCode`).
* `Frame.sequences`: lengths and distances, coded in three state tables.
* `Frame.History`: what later blocks of a frame can refer to. -/

namespace HttpScript.Coding.Frame

open Bytes.Checksum

/-- Why frames cannot be read. -/
inductive Fault
  /-- The data ends within a frame. -/
  | incomplete
  /-- A frame does not begin as one. -/
  | start
  | corrupt
  | window
  | parameter
  | dictionary
  | checksum
  deriving DecidableEq, Repr

/-- The wording of a fault. -/
def Fault.message : Fault → String
  | incomplete => "incomplete frame"
  | start => "Unknown frame descriptor"
  | corrupt => "Data corruption detected"
  | window => "Frame requires too much memory for decoding"
  | parameter => "Unsupported frame parameter"
  | dictionary => "Dictionary mismatch"
  | checksum => "Restored data doesn't match checksum"

/-! ### The prefix code of literals -/

/-- A prefix code given by weights: a table of `2 ^ log` entries, each a symbol and the length of
its word. -/
structure WeightCode where
  log : Nat
  entries : Array (Nat × Nat)
  deriving Repr, Inhabited

namespace WeightCode

/-- The code in which a symbol of weight `w > 0` has `2 ^ (w - 1)` entries, lower weights first. -/
def ofWeights (log : Nat) (weights : List Nat) : WeightCode where
  log := log
  entries := ((List.range log).flatMap fun i =>
    (weights.zipIdx.filter (·.1 == i + 1)).flatMap fun (_, s) =>
      List.replicate (Nat.pow 2 i) (s, log - i)).toArray

/-- The code of all weights but the last, which makes the sum of the shares a power of two. -/
def ofGiven? (weights : List Nat) : Option WeightCode :=
  let total := weights.foldr (fun w n => (if w = 0 then 0 else Nat.pow 2 (w - 1)) + n) 0
  if total = 0 ∨ weights.any (12 < ·) then none
  else
    let log := Nat.log2 total + 1
    let missing := Nat.pow 2 log - total
    if 11 < log ∨ Nat.pow 2 missing.log2 ≠ missing then none
    else
      let all := weights ++ [Nat.log2 missing + 1]
      if all.count 1 < 2 ∨ all.count 1 % 2 = 1 then none else some (ofWeights log all)

/-- Reads weights that are coded with two states in turn, to the end of the stream. Each takes up
part of the stream or is one of the last two, which bounds their number. -/
def weightsFrom (t : StateTable) : Nat → Nat → Nat → ReverseBits → List Nat → Option (List Nat)
  | 0, _, _, _, _ => none
  | fuel + 1, x, y, s, reversed =>
    let c := t.state x
    if s.left < c.bits then some ((t.state y).symbol :: c.symbol :: reversed).reverse
    else weightsFrom t fuel y (c.base + s.peek c.bits) (s.drop c.bits) (c.symbol :: reversed)

/-- Reads a code: its weights are four bits each, or coded with states. -/
def read? : List UInt8 → Option (WeightCode × List UInt8)
  | [] => none
  | h :: l => do
    if 128 ≤ h.toNat then
      let n := h.toNat - 127
      let size := (n + 1) / 2
      if l.length < size then none
      let digits := (l.take size).flatMap fun b => [b.toNat / 16, b.toNat % 16]
      return (← ofGiven? (digits.take n), l.drop size)
    else
      let size := h.toNat
      if l.length < size then none
      let (t, rest) ← StateTable.read? 6 256 (l.take size)
      let s ← ReverseBits.ofList? rest
      if s.left < 2 * t.log then none
      let x := s.peek t.log
      let s := s.drop t.log
      let y := s.peek t.log
      let s := s.drop t.log
      let weights ← weightsFrom t 256 x y s []
      if 255 < weights.length then none
      return (← ofGiven? weights, l.drop size)

/-- Reads `n` symbols. -/
def symbols (c : WeightCode) : Nat → ReverseBits → List UInt8 → List UInt8 × ReverseBits
  | 0, s, reversed => (reversed.reverse, s)
  | n + 1, s, reversed =>
    let (x, bits) := c.entries[s.peek c.log]?.getD (0, 0)
    c.symbols n (s.drop bits) (.ofNat x :: reversed)

/-- Decodes the `n` symbols of a stream, which have to fill it. -/
def decode? (c : WeightCode) (n : Nat) (l : List UInt8) : Option (List UInt8) := do
  let s ← ReverseBits.ofList? l
  let (out, s) := c.symbols n s []
  if s.left = 0 then some out else none

/-- Decodes `n` symbols that are spread over four streams, which begin with the sizes of the first
three. -/
def decodeFour? (c : WeightCode) (n : Nat) (l : List UInt8) : Option (List UInt8) := do
  let size := fun i => littleEndian ((l.drop (2 * i)).take 2)
  let l := l.drop 6
  let a := size 0
  let b := size 1
  let d := size 2
  if l.length ≤ a + b + d then none
  let part := (n + 3) / 4
  if n < 3 * part then none
  let first ← c.decode? part (l.take a)
  let second ← c.decode? part ((l.drop a).take b)
  let third ← c.decode? part ((l.drop (a + b)).take d)
  let fourth ← c.decode? (n - 3 * part) (l.drop (a + b + d))
  return first ++ second ++ third ++ fourth

end WeightCode

/-! ### What blocks share -/

/-- What later blocks of a frame can refer to: codes, tables and distances. -/
structure History where
  code : Option WeightCode
  literalLengths : Option StateTable
  offsets : Option StateTable
  matchLengths : Option StateTable
  distances : Nat × Nat × Nat
  deriving Repr, Inhabited

/-- The history at the start of a frame. -/
def History.start : History := ⟨none, none, none, none, (1, 4, 8)⟩

/-! ### Literals -/

/-- The most bytes that a block can hold. -/
def blockLimit : Nat := 131072

/-- Reads the literals of a block. -/
def literals? (h : History) (l : List UInt8) : Option (List UInt8 × History × List UInt8) := do
  let first := (l.headD 0).toNat
  let kind := first % 4
  let format := first / 4 % 4
  if kind < 2 then
    let (header, n) :=
      if format % 2 = 0 then (1, first / 8)
      else if format = 1 then (2, littleEndian (l.take 2) / 16)
      else (3, littleEndian (l.take 3) / 16)
    if blockLimit < n then none
    if kind = 0 then
      if l.length < header + n then none
      return ((l.drop header).take n, h, l.drop (header + n))
    else
      match l.drop header with
      | [] => none
      | b :: rest => return (List.replicate n b, h, rest)
  else
    let (header, width) := if format < 2 then (3, 10) else if format = 2 then (4, 14) else (5, 18)
    if l.length < header then none
    let sizes := littleEndian (l.take header) / 16
    let n := sizes % Nat.pow 2 width
    let size := sizes / Nat.pow 2 width
    let l := l.drop header
    if blockLimit < n ∨ l.length < size then none
    let (code, body) ← if kind = 2 then WeightCode.read? (l.take size)
      else h.code.map ((·, l.take size))
    let out ← if format = 0 then code.decode? n body else code.decodeFour? n body
    return (out, { h with code := some code }, l.drop size)

/-! ### Sequences -/

/-- Base and number of further bits of the lengths of literals. -/
def literalLengthTable : Array (Nat × Nat) :=
  ((List.range 16).map ((·, 0)) ++
    [(16, 1), (18, 1), (20, 1), (22, 1), (24, 2), (28, 2), (32, 3), (40, 3), (48, 4), (64, 6),
     (128, 7), (256, 8), (512, 9), (1024, 10), (2048, 11), (4096, 12), (8192, 13), (16384, 14),
     (32768, 15), (65536, 16)]).toArray

/-- Base and number of further bits of the lengths of copies. -/
def matchLengthTable : Array (Nat × Nat) :=
  ((List.range 32).map ((· + 3, 0)) ++
    [(35, 1), (37, 1), (39, 1), (41, 1), (43, 2), (47, 2), (51, 3), (59, 3), (67, 4), (83, 4),
     (99, 5), (131, 7), (259, 8), (515, 9), (1027, 10), (2051, 11), (4099, 12), (8195, 13),
     (16387, 14), (32771, 15), (65539, 16)]).toArray

/-- The table of literal lengths where a block brings none. -/
def commonLiteralLengths : StateTable :=
  .ofCounts 6 ((([4, 3] ++ List.replicate 11 2 ++ [1, 1, 1] ++ List.replicate 9 2 ++
    [3, 2, 1, 1, 1, 1, 1]).map some) ++ List.replicate 4 none)

/-- The table of copy lengths where a block brings none. -/
def commonMatchLengths : StateTable :=
  .ofCounts 6 ((([1, 4, 3] ++ List.replicate 6 2 ++ List.replicate 37 1).map some) ++
    List.replicate 7 none)

/-- The table of offsets where a block brings none. -/
def commonOffsets : StateTable :=
  .ofCounts 5 ((([1, 1, 1, 1, 1, 1, 2, 2, 2] ++ List.replicate 15 1).map some) ++
    List.replicate 5 none)

/-- Reads a table in one of four ways: the common one, a single symbol, counts, the one before. -/
def table? (mode : Nat) (common : StateTable) (before : Option StateTable) (maxLog limit : Nat)
    (l : List UInt8) : Option (StateTable × List UInt8) :=
  match mode with
  | 0 => some (common, l)
  | 1 =>
    match l with
    | b :: rest => if b.toNat < limit then some (.constant b.toNat, rest) else none
    | [] => none
  | 2 => StateTable.read? maxLog limit l
  | _ => before.map ((·, l))

/-- The number of sequences. -/
def sequenceCount? : List UInt8 → Option (Nat × List UInt8)
  | [] => none
  | a :: l =>
    if a < 128 then some (a.toNat, l)
    else match l with
      | [] => none
      | b :: l =>
        if a < 255 then some ((a.toNat - 128) * 256 + b.toNat, l)
        else match l with
          | [] => none
          | c :: l => some (b.toNat + c.toNat * 256 + 0x7F00, l)

/-- The distance that an offset names, and the last three distances after it. The first three
offsets name one of the last three distances, shifted by one where there are no literals. -/
def distance (offset literalLength : Nat) (last : Nat × Nat × Nat) : Nat × (Nat × Nat × Nat) :=
  let (a, b, c) := last
  if 3 < offset then (offset - 3, (offset - 3, a, b))
  else match offset + (if literalLength = 0 then 1 else 0) with
    | 1 => (a, last)
    | 2 => (b, (b, a, c))
    | 3 => (c, (c, a, b))
    | _ => (a - 1, (a - 1, a, b))

/-- Appends `n` bytes, each equal to the byte `distance` before it. -/
def copy (out : Array UInt8) (distance n : Nat) : Array UInt8 :=
  Nat.repeat (fun out => out.push (out[out.size - distance]?.getD 0)) n out

/-- The tables of a block. -/
structure Tables where
  literalLengths : StateTable
  offsets : StateTable
  matchLengths : StateTable
  deriving Repr

/-- Carries out `n` sequences. The states `x`, `y` and `z` are those of literal lengths, offsets and
copy lengths. -/
def sequences (t : Tables) : Nat → Nat × Nat × Nat → ReverseBits → List UInt8 →
    Nat × Nat × Nat → Array UInt8 → Option (List UInt8 × (Nat × Nat × Nat) × Array UInt8)
  | 0, _, s, literals, last, out => if s.left = 0 then some (literals, last, out) else none
  | n + 1, (x, y, z), s, literals, last, out => do
    let a := t.literalLengths.state x
    let b := t.offsets.state y
    let c := t.matchLengths.state z
    let offset := Nat.pow 2 b.symbol + s.peek b.symbol
    let s := s.drop b.symbol
    let (base, bits) := matchLengthTable[c.symbol]?.getD (0, 0)
    let matchLength := base + s.peek bits
    let s := s.drop bits
    let (base, bits) := literalLengthTable[a.symbol]?.getD (0, 0)
    let literalLength := base + s.peek bits
    let s := s.drop bits
    let (d, last) := distance offset literalLength last
    if s.left < 0 ∨ literals.length < literalLength then none
    let out := out ++ (literals.take literalLength).toArray
    if d = 0 ∨ out.size < d then none
    let out := copy out d matchLength
    let literals := literals.drop literalLength
    if n = 0 then sequences t n (x, y, z) s literals last out
    else
      let x := a.base + s.peek a.bits
      let s := s.drop a.bits
      let z := c.base + s.peek c.bits
      let s := s.drop c.bits
      let y := b.base + s.peek b.bits
      let s := s.drop b.bits
      if s.left < 0 then none
      sequences t n (x, y, z) s literals last out

/-- Carries out a block of literals and sequences. -/
def block? (h : History) (l : List UInt8) (out : Array UInt8) : Option (History × Array UInt8) := do
  if l.length < 2 then none
  let (literals, h, l) ← literals? h l
  let (n, l) ← sequenceCount? l
  if n = 0 then
    if l.isEmpty then return (h, out ++ literals.toArray) else none
  else
    match l with
    | [] => none
    | modes :: l =>
      let modes := modes.toNat
      if modes % 4 ≠ 0 then none
      let (x, l) ← table? (modes / 64) commonLiteralLengths h.literalLengths 9 36 l
      let (y, l) ← table? (modes / 16 % 4) commonOffsets h.offsets 8 32 l
      let (z, l) ← table? (modes / 4 % 4) commonMatchLengths h.matchLengths 9 53 l
      let s ← ReverseBits.ofList? l
      let i := s.peek x.log
      let s := s.drop x.log
      let j := s.peek y.log
      let s := s.drop y.log
      let k := s.peek z.log
      let s := s.drop z.log
      let (rest, last, out) ← sequences ⟨x, y, z⟩ n (i, j, k) s literals h.distances out
      let h := { h with
        literalLengths := some x, offsets := some y, matchLengths := some z, distances := last }
      return (h, out ++ rest.toArray)

/-! ### Frames -/

/-- The next `n` bytes, which have to be there. -/
def take (n : Nat) (l : List UInt8) : Except Fault (List UInt8 × List UInt8) :=
  if l.length < n then .error .incomplete else .ok (l.take n, l.drop n)

/-- What the header of a frame says. -/
structure Header where
  size : Option Nat
  checked : Bool
  window : Nat
  deriving Repr

/-- The largest window that is accepted. -/
def windowLimit : Nat := 134217729

/-- Reads the header of a frame, behind its first four bytes. -/
def header (l : List UInt8) : Except Fault (Header × List UInt8) := do
  let (first, l) ← take 1 l
  let flags := (first.headD 0).toNat
  let single := flags / 32 % 2 = 1
  let sizeBytes := match flags / 64 with
    | 0 => if single then 1 else 0
    | 1 => 2
    | 2 => 4
    | _ => 8
  let dictionaryBytes := match flags % 4 with
    | 3 => 4
    | n => n
  let (descriptor, l) ← take (if single then 0 else 1) l
  let (dictionary, l) ← take dictionaryBytes l
  let (size, l) ← take sizeBytes l
  if flags / 8 % 2 = 1 then throw .parameter
  let d := (descriptor.headD 0).toNat
  let size := if sizeBytes = 0 then none
    else some (littleEndian size + if sizeBytes = 2 then 256 else 0)
  let base := Nat.pow 2 (10 + d / 8)
  let window := if single then size.getD 0 else base + base / 8 * (d % 8)
  if windowLimit < window then throw .window
  if littleEndian dictionary ≠ 0 then throw .dictionary
  return (⟨size, flags / 4 % 2 = 1, window⟩, l)

/-- Reads blocks up to the last one. Each takes three bytes at least, which bounds their number. -/
def blocks (limit : Nat) : Nat → History → List UInt8 → Array UInt8 →
    Except Fault (Array UInt8 × List UInt8)
  | 0, _, _, _ => .error .incomplete
  | fuel + 1, h, l, out => do
    let (head, l) ← take 3 l
    let head := littleEndian head
    let size := head / 8
    let finish := fun h l out =>
      if head % 2 = 1 then pure (out, l) else blocks limit fuel h l out
    match head / 2 % 4 with
    | 0 =>
      if limit < size then throw .corrupt
      let (body, l) ← take size l
      finish h l (out ++ body.toArray)
    | 1 =>
      if limit < size then throw .corrupt
      let (body, l) ← take 1 l
      finish h l (out ++ Array.replicate size (body.headD 0))
    | 2 =>
      if limit < size then throw .corrupt
      let (body, l) ← take size l
      match block? h body out with
      | some (h, out) => finish h l out
      | none => throw .corrupt
    | _ => throw .corrupt

/-- The bytes that a frame begins with. -/
def magic : List UInt8 := [0x28, 0xB5, 0x2F, 0xFD]

/-- Whether bytes begin a frame that has no content. -/
def isSkippable : List UInt8 → Bool
  | a :: l => a / 16 == 5 && l.isPrefixOf [0x2A, 0x4D, 0x18]
  | [] => true

/-- Reads a frame. -/
def frame (l : List UInt8) : Except Fault (List UInt8 × List UInt8) := do
  let start := l.take 4
  if start.isPrefixOf magic then
    let (_, l) ← take 4 l
    let (h, l) ← header l
    let (out, l) ← blocks (min blockLimit h.window) (l.length + 1) .start l #[]
    let out := out.toList
    if h.size.any (· ≠ out.length) then throw .corrupt
    if h.checked then
      let (sum, l) ← take 4 l
      if littleEndian sum ≠ hash64 out % UInt32.size then throw .checksum
      return (out, l)
    else return (out, l)
  else if isSkippable start then
    let (_, l) ← take 4 l
    let (size, l) ← take 4 l
    let (_, l) ← take (littleEndian size) l
    return ([], l)
  else throw .start

/-- Reads frames to the end. Each takes a byte at least, which bounds their number. -/
def frames : Nat → List UInt8 → Except Fault (List UInt8)
  | 0, _ => .error .incomplete
  | fuel + 1, l => do
    let (out, l) ← frame l
    if l.isEmpty then return out else return out ++ (← frames fuel l)

end HttpScript.Coding.Frame

namespace HttpScript.Coding

/-- **The content of a row of frames.** -/
def unframe? (l : List UInt8) : Except Frame.Fault (List UInt8) := Frame.frames (l.length + 1) l

end HttpScript.Coding
