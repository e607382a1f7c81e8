/-! # Base64

The standard alphabet with padding. `encode` writes three bytes as four characters; `decode?`
accepts exactly the texts that `encode` writes: the padding is required and the bits that it leaves
over are zero. -/

namespace HttpScript.Bytes.Base64

/-- The character for six bits. -/
def encodeDigit (n : Nat) : Char :=
  if n < 26 then Char.ofNat (65 + n)
  else if n < 52 then Char.ofNat (97 + (n - 26))
  else if n < 62 then Char.ofNat (48 + (n - 52))
  else if n = 62 then '+'
  else '/'

/-- The six bits of a character. -/
def decodeDigit? (c : Char) : Option Nat :=
  if 'A' ≤ c ∧ c ≤ 'Z' then some (c.toNat - 65)
  else if 'a' ≤ c ∧ c ≤ 'z' then some (c.toNat - 97 + 26)
  else if '0' ≤ c ∧ c ≤ '9' then some (c.toNat - 48 + 52)
  else if c = '+' then some 62
  else if c = '/' then some 63
  else none

/-- The text of some bytes. -/
def encode : List UInt8 → List Char
  | [] => []
  | [a] =>
    let n := a.toNat * 16
    [encodeDigit (n / 64), encodeDigit (n % 64), '=', '=']
  | [a, b] =>
    let n := (a.toNat * 256 + b.toNat) * 4
    [encodeDigit (n / 4096), encodeDigit (n / 64 % 64), encodeDigit (n % 64), '=']
  | a :: b :: c :: l =>
    let n := (a.toNat * 256 + b.toNat) * 256 + c.toNat
    encodeDigit (n / 262144) :: encodeDigit (n / 4096 % 64) :: encodeDigit (n / 64 % 64) ::
      encodeDigit (n % 64) :: encode l

/-- The bytes of a text, if it is the text of some bytes. -/
def decode? : List Char → Option (List UInt8)
  | [] => some []
  | [x, y, '=', '='] => do
    let n := (← decodeDigit? x) * 64 + (← decodeDigit? y)
    if n % 16 = 0 then some [UInt8.ofNat (n / 16)] else none
  | [x, y, z, '='] => do
    let n := ((← decodeDigit? x) * 64 + (← decodeDigit? y)) * 64 + (← decodeDigit? z)
    if n % 4 = 0 then some [UInt8.ofNat (n / 1024), UInt8.ofNat (n / 4 % 256)] else none
  | x :: y :: z :: w :: l => do
    let n := (((← decodeDigit? x) * 64 + (← decodeDigit? y)) * 64 + (← decodeDigit? z)) * 64
      + (← decodeDigit? w)
    let bytes ← decode? l
    some (UInt8.ofNat (n / 65536) :: UInt8.ofNat (n / 256 % 256) :: UInt8.ofNat (n % 256) :: bytes)
  | _ => none

end HttpScript.Bytes.Base64
