/-! # UTF-8

`Utf8.units` cuts bytes into characters and faults: a fault is a byte that begins no character, or
the longest beginning of a character that the bytes after it break off. `decode?` refuses bytes with
a fault and `decodeLossy` puts one replacement character in the place of each. -/

namespace HttpScript.Bytes.Utf8

/-- The bytes of a text. -/
def encode (s : String) : List UInt8 := s.toUTF8.data.toList

/-- For the first byte of a character of several bytes: how many follow, and the bounds of the
first of them. The bounds exclude surrogates, long forms and what is beyond the last character. -/
def lead? (b : UInt8) : Option (Nat × UInt8 × UInt8) :=
  if 0xC2 ≤ b ∧ b ≤ 0xDF then some (1, 0x80, 0xBF)
  else if b = 0xE0 then some (2, 0xA0, 0xBF)
  else if b = 0xED then some (2, 0x80, 0x9F)
  else if 0xE1 ≤ b ∧ b ≤ 0xEF then some (2, 0x80, 0xBF)
  else if b = 0xF0 then some (3, 0x90, 0xBF)
  else if 0xF1 ≤ b ∧ b ≤ 0xF3 then some (3, 0x80, 0xBF)
  else if b = 0xF4 then some (3, 0x80, 0x8F)
  else none

/-- The bytes at the start of a list that continue a character: at most `n` of them, the first one
within the bounds. -/
def continuation (n : Nat) (low high : UInt8) : List UInt8 → List UInt8
  | [] => []
  | b :: l =>
    if low ≤ b ∧ b ≤ high then b :: (l.takeWhile fun b => 0x80 ≤ b && b ≤ 0xBF).take (n - 1)
    else []

/-- The character of a first byte, with `n` bytes to follow it, and those bytes. -/
def assemble (b : UInt8) (n : Nat) (l : List UInt8) : Char :=
  .ofNat (l.foldl (fun acc c => acc * 64 + c.toNat % 64) (b.toNat % Nat.pow 2 (6 - n)))

/-- The characters of some bytes; `none` stands for a fault. -/
def units (l : List UInt8) : List (Option Char) :=
  match l with
  | [] => []
  | b :: l =>
    if b < 0x80 then some (.ofNat b.toNat) :: units l
    else match lead? b with
      | none => none :: units l
      | some (n, low, high) =>
        let tail := continuation n low high l
        (if tail.length = n then some (assemble b n tail) else none) :: units (l.drop tail.length)
termination_by l.length
decreasing_by all_goals simp only [List.length_drop, List.length_cons]; omega

/-- The text of some bytes, if they are the bytes of a text. -/
def decode? (l : List UInt8) : Option String := ((units l).mapM id).map .ofList

/-- The text of some bytes, with a replacement character for each fault. -/
def decodeLossy (l : List UInt8) : String :=
  .ofList ((units l).map (·.getD '\ufffd'))

end HttpScript.Bytes.Utf8
