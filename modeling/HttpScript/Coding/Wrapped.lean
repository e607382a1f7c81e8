import HttpScript.Bytes.Checksum
import HttpScript.Coding.Inflate

/-! # Deflated data in a wrapper

Deflated data comes in one of two wrappers, each with a header before it and a checksum behind it:
`gzip?` reads the one with the longer header and a cyclic redundancy check, `zlib?` the one with a
header of two bytes. What follows the first wrapped stream is not looked at. -/

namespace HttpScript.Coding

open Bytes.Checksum

/-- Why a wrapped stream cannot be read. -/
inductive WrapFault
  | inflate (fault : Inflate.Fault)
  /-- The header or the checksum is cut off. -/
  | endOfData
  | header
  | longField
  | checksum
  deriving DecidableEq, Repr

/-- The wording of a fault. -/
def WrapFault.message : WrapFault → String
  | inflate .incomplete => "incomplete deflate stream"
  | inflate .corrupt => "corrupt deflate stream"
  | endOfData => "unexpected end of file"
  | header => "invalid gzip header"
  | longField => "gzip header field too long"
  | checksum => "corrupt gzip stream does not have a matching checksum"

namespace Gzip

/-- A step on the bytes that are left. -/
abbrev Step := StateT (List UInt8) (Except WrapFault)

/-- The next `n` bytes. -/
def take (n : Nat) : Step (List UInt8) := fun l =>
  if l.length < n then .error .endOfData else .ok (l.take n, l.drop n)

/-- The most bytes that a text in the header can have. -/
def fieldLimit : Nat := 65535

/-- The bytes up to a zero. -/
def field : Step (List UInt8) := fun l =>
  let text := l.takeWhile (· != 0)
  if fieldLimit < text.length then .error .longField
  else match l.drop text.length with
    | [] => .error .endOfData
    | _ :: rest => .ok (text, rest)

/-- Reads something where a flag of the header asks for it. -/
def whenFlag {α : Type} (flags : UInt8) (bit : UInt8) (s : Step α) : Step Unit :=
  if flags &&& bit = 0 then return () else do let _ ← s

/-- Reads the header: ten bytes, and the fields that its flags announce. -/
def header : Step Unit := do
  let whole ← get
  match ← take 10 with
  | 0x1F :: 0x8B :: 8 :: flags :: _ =>
    if flags &&& 0xE0 ≠ 0 then throw .header
    whenFlag flags 4 do take (littleEndian (← take 2))
    whenFlag flags 8 field
    whenFlag flags 16 field
    let read := whole.take (whole.length - (← get).length)
    whenFlag flags 2 do
      if littleEndian (← take 2) ≠ crc32 read % 65536 then throw .checksum
  | _ => throw .header

end Gzip

/-- **The content of a stream with the longer header.** -/
def gzip? (l : List UInt8) : Except WrapFault (List UInt8) := do
  let ((), body) ← Gzip.header l
  let (out, s) ← (Inflate.inflate? (.ofList body)).mapError .inflate
  let (trailer, _) ← Gzip.take 8 s.rest
  let out := out.toList
  if littleEndian (trailer.take 4) = crc32 out ∧
      littleEndian (trailer.drop 4) = out.length % UInt32.size then
    return out
  else throw .checksum

/-- **The content of a stream with the shorter header.** -/
def zlib? (l : List UInt8) : Except WrapFault (List UInt8) :=
  match l with
  | cmf :: flags :: body => do
    if (cmf.toNat * 256 + flags.toNat) % 31 ≠ 0 ∨ flags &&& 0x20 ≠ 0 ∨ cmf &&& 0x0F ≠ 8 ∨
        0x78 < cmf then
      throw (.inflate .corrupt)
    let (out, s) ← (Inflate.inflate? (.ofList body)).mapError .inflate
    let trailer := s.rest.take 4
    let out := out.toList
    if trailer.length < 4 then throw (.inflate .incomplete)
    else if bigEndian trailer = adler32 out then return out
    else throw (.inflate .corrupt)
  | _ => throw (.inflate .incomplete)

end HttpScript.Coding
