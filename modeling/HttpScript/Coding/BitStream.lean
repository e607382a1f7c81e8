/-! # Streams of bits

`BitStream` reads bytes from their lowest bit on; `ReverseBits` reads them from the highest bit of
the last byte back to the start. A prefix code is read from the first kind bit by bit. -/

namespace HttpScript.Coding

/-- Bytes that are read from the lowest bit of the first one. -/
structure BitStream where
  bytes : Array UInt8
  /-- The number of bits that have been read. -/
  position : Nat
  deriving Repr, Inhabited

namespace BitStream

/-- The stream of some bytes. -/
def ofList (l : List UInt8) : BitStream := ⟨l.toArray, 0⟩

/-- The number of bits that are left. -/
def left (s : BitStream) : Nat := 8 * s.bytes.size - s.position

/-- The next bit. -/
def bit? (s : BitStream) : Option (Nat × BitStream) :=
  match s.bytes[s.position / 8]? with
  | some b => some (b.toNat >>> (s.position % 8) % 2, { s with position := s.position + 1 })
  | none => none

/-- The number that the next `n` bits give, the lowest first. -/
def take? (n : Nat) (s : BitStream) : Option (Nat × BitStream) :=
  match n with
  | 0 => some (0, s)
  | n + 1 => do
    let (b, s) ← s.bit?
    let (v, s) ← s.take? n
    return (b + 2 * v, s)

/-- Skips to the start of a byte. -/
def align (s : BitStream) : BitStream := { s with position := (s.position + 7) / 8 * 8 }

/-- The bytes from the next whole byte on. -/
def rest (s : BitStream) : List UInt8 := (s.bytes.toList).drop ((s.position + 7) / 8)

end BitStream

/-- Bytes that are read backwards. The last byte ends with a mark: the highest bit that is set in
it, before which reading starts. -/
structure ReverseBits where
  bytes : Array UInt8
  /-- The number of bits that are left; it falls below zero when more are read. -/
  left : Int
  deriving Repr, Inhabited

namespace ReverseBits

/-- The stream of some bytes, if they end with a mark. -/
def ofList? (l : List UInt8) : Option ReverseBits :=
  match l.getLast? with
  | none => none
  | some b => if b = 0 then none else some ⟨l.toArray, 8 * (l.length - 1) + Nat.log2 b.toNat⟩

/-- A bit by its number, counted from the start; there are only zeros outside the bytes. -/
def bitAt (s : ReverseBits) (i : Int) : Nat :=
  if i < 0 then 0 else (s.bytes[i.toNat / 8]?.getD 0).toNat >>> (i.toNat % 8) % 2

/-- The number that the next `n` bits give, the highest first. -/
def peek (s : ReverseBits) (n : Nat) : Nat :=
  n.fold (fun i _ acc => 2 * acc + s.bitAt (s.left - 1 - i)) 0

/-- Skips some bits. -/
def drop (s : ReverseBits) (n : Nat) : ReverseBits := { s with left := s.left - n }

end ReverseBits

end HttpScript.Coding
