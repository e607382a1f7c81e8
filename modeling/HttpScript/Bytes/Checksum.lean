/-! # Checksums of bytes

The three sums that compressed formats end with: a cyclic redundancy check of 32 bits, a pair of
sums modulo 65521, and a hash in four lanes of 64 bits. -/

namespace HttpScript.Bytes.Checksum

/-- One step of the cyclic redundancy check: a bit is shifted out of the remainder. -/
def crcBit (r : UInt32) : UInt32 :=
  if r &&& 1 = 1 then (r >>> 1) ^^^ 0xEDB88320 else r >>> 1

/-- The remainder after a byte. -/
def crcByte (r : UInt32) (b : UInt8) : UInt32 :=
  Nat.repeat crcBit 8 (r ^^^ b.toUInt32)

/-- **The cyclic redundancy check** of some bytes. -/
def crc32 (l : List UInt8) : Nat := ((l.foldl crcByte 0xFFFFFFFF) ^^^ 0xFFFFFFFF).toNat

/-- **The sum of the bytes and the sum of those sums**, modulo 65521. -/
def adler32 (l : List UInt8) : Nat :=
  let (a, b) := l.foldl (fun (a, b) x =>
    let a := (a + x.toNat) % 65521
    (a, (b + a) % 65521)) (1, 0)
  b * 65536 + a

/-- The number that bytes give, the lowest first. -/
def littleEndian (l : List UInt8) : Nat := l.foldr (fun b acc => b.toNat + 256 * acc) 0

/-- The number that bytes give, the highest first. -/
def bigEndian (l : List UInt8) : Nat := l.foldl (fun acc b => 256 * acc + b.toNat) 0

/-! ### The hash in four lanes -/

namespace Hash64

def prime1 : UInt64 := 0x9E3779B185EBCA87
def prime2 : UInt64 := 0xC2B2AE3D27D4EB4F
def prime3 : UInt64 := 0x165667B19E3779F9
def prime4 : UInt64 := 0x85EBCA77C2B2AE63
def prime5 : UInt64 := 0x27D4EB2F165667C5

/-- Turns a word to the left. -/
def rotate (x : UInt64) (n : UInt64) : UInt64 := (x <<< n) ||| (x >>> (64 - n))

/-- Takes a word into a lane. -/
def round (acc word : UInt64) : UInt64 := rotate (acc + word * prime2) 31 * prime1

/-- The word that the first eight bytes give. -/
def word (l : List UInt8) : UInt64 := .ofNat (littleEndian (l.take 8))

/-- Takes a lane into the sum. -/
def merge (acc lane : UInt64) : UInt64 := (acc ^^^ round 0 lane) * prime1 + prime4

/-- The four lanes after all whole blocks of 32 bytes, and the bytes that remain. -/
def lanes (a b c d : UInt64) (l : List UInt8) : UInt64 × List UInt8 :=
  if l.length < 32 then
    let acc := rotate a 1 + rotate b 7 + rotate c 12 + rotate d 18
    (merge (merge (merge (merge acc a) b) c) d, l)
  else lanes (round a (word l)) (round b (word (l.drop 8))) (round c (word (l.drop 16)))
    (round d (word (l.drop 24))) (l.drop 32)
termination_by l.length
decreasing_by simp only [List.length_drop]; omega

/-- Takes the bytes after the last block into the sum. -/
def finish (acc : UInt64) (l : List UInt8) : UInt64 :=
  if 8 ≤ l.length then
    finish (rotate (acc ^^^ round 0 (word l)) 27 * prime1 + prime4) (l.drop 8)
  else if 4 ≤ l.length then
    finish (rotate (acc ^^^ (.ofNat (littleEndian (l.take 4)) * prime1)) 23 * prime2 + prime3)
      (l.drop 4)
  else
    l.foldl (fun acc b => rotate (acc ^^^ (b.toUInt64 * prime5)) 11 * prime1) acc
termination_by l.length
decreasing_by all_goals simp only [List.length_drop]; omega

/-- Spreads every bit of the sum over all others. -/
def scatter (x : UInt64) : UInt64 :=
  let x := (x ^^^ (x >>> 33)) * prime2
  let x := (x ^^^ (x >>> 29)) * prime3
  x ^^^ (x >>> 32)

end Hash64

open Hash64 in
/-- **The hash in four lanes** of some bytes, with the seed zero. -/
def hash64 (l : List UInt8) : Nat :=
  let (acc, rest) :=
    if l.length < 32 then (prime5, l) else lanes (prime1 + prime2) prime2 0 (0 - prime1) l
  (scatter (finish (acc + .ofNat l.length) rest)).toNat

end HttpScript.Bytes.Checksum
