import HttpScript.Url.Label
import HttpScript.Url.Percent

/-! # Hosts of URLs

A host is a domain name, an address of four bytes or an address of eight words.

* `Host.read?` reads the host of a URL with a special scheme: percent signs are resolved, letters
  are made small, and a name whose last label is a number is an address.
* `Host.readOpaque?` reads the host of any other URL, which keeps its spelling.
* `Host.text` writes a host. -/

namespace HttpScript.Url

/-- A host. -/
inductive Host
  | domain (name : String)
  | ipv4 (address : Nat)
  /-- The eight words of the address. -/
  | ipv6 (words : List Nat)
  deriving DecidableEq, Repr, Inhabited

namespace Host

/-! ### Addresses of four bytes -/

/-- A number in an address: decimal, hexadecimal behind `0x`, or octal behind `0`. -/
def number? (l : List Char) : Option Nat :=
  let digits := fun (base : Nat) (l : List Char) => l.foldlM (fun n c =>
    match Text.hexValue? c with
    | some d => if d < base then some (base * n + d) else none
    | none => none) 0
  match l with
  | [] => none
  | '0' :: 'x' :: l | '0' :: 'X' :: l => digits 16 l
  | '0' :: l => digits 8 l
  | l => digits 10 l

/-- The parts of a name between dots, without an empty one at the end. -/
def parts (l : List Char) : List (List Char) :=
  let parts := l.splitOn '.'
  if 1 < parts.length ∧ parts.getLast? = some [] then parts.dropLast else parts

/-- Whether the last label of a name is a number, so that the name has to be an address. -/
def endsInNumber (l : List Char) : Bool :=
  match (parts l).getLast? with
  | none => false
  | some last => (!last.isEmpty && last.all Char.isDigit) || (number? last).isSome

/-- The address that a name stands for: the last number fills what the others leave. -/
def readIpv4? (l : List Char) : Option Nat := do
  let numbers ← (parts l).mapM number?
  let last ← numbers.getLast?
  let others := numbers.dropLast
  if 4 < numbers.length ∨ others.any (255 < ·) ∨ Nat.pow 256 (4 - others.length) ≤ last then none
  return others.zipIdx.foldr (fun (n, i) address => n * Nat.pow 256 (3 - i) + address) last

/-- The written form of an address of four bytes. -/
def ipv4Text (n : Nat) : String :=
  ".".intercalate ([n / 16777216, n / 65536 % 256, n / 256 % 256, n % 256].map toString)

/-! ### Addresses of eight words -/

/-- A decimal byte, without a zero before it. -/
def byte? (l : List Char) : Option Nat :=
  match l with
  | [] => none
  | '0' :: _ :: _ => none
  | l => if l.all Char.isDigit ∧ l.length ≤ 3 then
      let n := l.foldl (fun n c => 10 * n + (c.toNat - 48)) 0
      if n < 256 then some n else none
    else none

/-- The two words of four decimal bytes. -/
def bytesAsWords? (l : List Char) : Option (List Nat) := do
  match ← (l.splitOn '.').mapM byte? with
  | [a, b, c, d] => some [256 * a + b, 256 * c + d]
  | _ => none

/-- The words between colons; the last two may be written as four decimal bytes. -/
def words? : List (List Char) → Option (List Nat)
  | [] => some []
  | [l] => if l.contains '.' then bytesAsWords? l else (word? l).map ([·])
  | l :: rest => do return (← word? l) :: (← words? rest)
where
  /-- A word of one to four digits. -/
  word? (l : List Char) : Option Nat :=
    if l.isEmpty ∨ 4 < l.length ∨ !l.all (fun c => (Text.hexValue? c).isSome) then none
    else some (Text.hexNumber l)

/-- The words of a list of groups, of which one at most is empty (`::`) and stands for zeros. -/
def groups? (l : List Char) : Option (List Nat) :=
  if l.isEmpty then some [] else words? (l.splitOn ':')

/-- Cuts a text at the first `::`. -/
def cutAtGap : List Char → List Char → Option (List Char × List Char)
  | _, [] => none
  | before, ':' :: ':' :: after => some (before.reverse, after)
  | before, c :: l => cutAtGap (c :: before) l

/-- Reads an address of eight words. -/
def readIpv6? (l : List Char) : Option (List Nat) :=
  match cutAtGap [] l with
  | none => do
    let words ← groups? l
    if words.length = 8 then some words else none
  | some (before, after) => do
    if before.contains '.' then none
    let a ← groups? before
    let b ← groups? after
    if 7 < a.length + b.length then none
    else some (a ++ List.replicate (8 - a.length - b.length) 0 ++ b)

/-- The number of zeros at the start of a list. -/
def zeros (l : List Nat) : Nat := (l.takeWhile (· == 0)).length

/-- The place and length of the first longest run of two or more zeros. -/
def longestGap (l : List Nat) : Option (Nat × Nat) :=
  (List.range l.length).foldl (fun best i =>
    let n := zeros (l.drop i)
    match best with
    | some (_, m) => if m < n then some (i, n) else best
    | none => if 2 ≤ n then some (i, n) else none) none

/-- A word in hexadecimal. -/
def wordText (n : Nat) : String := .ofList (Nat.toDigits 16 n)

/-- The written form of an address of eight words. -/
def ipv6Text (l : List Nat) : String :=
  let join := fun (l : List Nat) => ":".intercalate (l.map wordText)
  match longestGap l with
  | some (i, n) => join (l.take i) ++ "::" ++ join (l.drop (i + n))
  | none => join l

/-! ### Hosts -/

/-- What no host can hold. -/
def isForbidden (c : Char) : Bool :=
  ['\x00', '\t', '\n', '\r', ' ', '#', '/', ':', '<', '>', '?', '@', '[', '\\', ']', '^',
    '|'].contains c

/-- What no domain name can hold. -/
def isForbiddenInDomain (c : Char) : Bool :=
  isForbidden c || c.toNat < 0x20 || c == '%' || c.toNat = 0x7F

/-- The host in brackets. -/
def readBracketed? (l : List Char) : Option Host :=
  if l.getLast? = some ']' then (readIpv6? l.dropLast).map ipv6 else none

/-- Reads the host of a URL with a special scheme. -/
def read? (l : List Char) : Option Host :=
  match l with
  | '[' :: l => readBracketed? l
  | l => do
    let decoded := (Bytes.Utf8.decodeLossy (percentDecode l)).toList
    let name := ['.'].intercalate ((decoded.splitOn '.').map Label.toAscii)
    if name.isEmpty ∨ name.any isForbiddenInDomain then none
    else if endsInNumber name then (readIpv4? name).map ipv4
    else some (domain (.ofList name))

/-- Reads the host of a URL whose scheme is not special. -/
def readOpaque? (l : List Char) : Option Host :=
  match l with
  | '[' :: l => readBracketed? l
  | l => if l.any isForbidden then none else some (domain (.ofList (percentEncode isControl l)))

/-- The written form of a host. -/
def text : Host → String
  | domain name => name
  | ipv4 n => ipv4Text n
  | ipv6 l => "[" ++ ipv6Text l ++ "]"

end Host

end HttpScript.Url
