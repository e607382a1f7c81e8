import HttpScript.Decimal.Read
import HttpScript.Pattern.Basic
import HttpScript.Text.Class

/-! # Reading patterns

`Dialect.read?` reads the text of a pattern, with groups, flags, classes and counted repetitions,
and resolves flags on the way. A text that is no pattern has no value; why not is not told. What
stands in the tables of characters, and how large a pattern may be, is what dialects differ in;
`Pattern.read?` reads the patterns of one of them.

The reader keeps the flags in force: a flag group changes them up to the end of the group around
it. With the flag `verbose`, white space and comments between tokens are skipped. -/

namespace HttpScript.Pattern

open Text

/-- The flags in force. -/
structure Flags where
  ignoreCase : Bool := false
  multiLine : Bool := false
  dotAll : Bool := false
  swapGreed : Bool := false
  unicode : Bool := true
  crlf : Bool := false
  verbose : Bool := false
  deriving DecidableEq, Repr, Inhabited

/-- What a reader works on. -/
structure Source where
  rest : List Char
  flags : Flags
  /-- The number of capturing groups opened so far. -/
  groups : Nat
  /-- The names of those that have one. -/
  names : List String
  deriving Repr, Inhabited

/-- A reader of an `α`, which may refuse the text. -/
abbrev Reader (α : Type) := StateT Source Option α

/-! ### Characters -/

/-- Refuses the text. -/
def refuse {α : Type} : Reader α := fun _ => none

/-- The characters left. -/
def rest : Reader (List Char) := return (← get).rest

/-- The flags in force. -/
def flags : Reader Flags := return (← get).flags

/-- Goes on with the characters `l`. -/
def goTo (l : List Char) : Reader Unit := modify fun s => { s with rest := l }

/-- Changes the flags in force. -/
def setFlags (f : Flags) : Reader Unit := modify fun s => { s with flags := f }

/-- The next character, without reading it. -/
def peek : Reader (Option Char) := return (← rest).head?

/-- Reads one character. -/
def next : Reader Char := do
  match ← rest with
  | c :: l => goTo l; return c
  | [] => refuse

/-- Reads one character, which has to be `c`. -/
def expect (c : Char) : Reader Unit := do
  if (← next) ≠ c then refuse

/-- Reads `c` if it is next. -/
def accept (c : Char) : Reader Bool := do
  match ← rest with
  | d :: l => if d = c then goTo l; return true else return false
  | [] => return false

/-- The text behind white space and comments. `inComment` tells whether a comment has begun. -/
def skipIgnored (inComment : Bool) : List Char → List Char
  | [] => []
  | c :: l =>
    if inComment then skipIgnored (c ≠ '\n') l
    else if isWhite c then skipIgnored false l
    else if c = '#' then skipIgnored true l
    else c :: l

/-- The characters left behind what the flags let ignore. -/
def visibleRest (f : Flags) (l : List Char) : List Char :=
  if f.verbose then skipIgnored false l else l

/-- Skips what the flags let ignore. -/
def skip : Reader Unit := do goTo (visibleRest (← flags) (← rest))

/-- Reads one character and skips what the flags let ignore. -/
def nextSkip : Reader Char := do
  let c ← next
  skip
  return c

/-! ### Numbers and code points -/

/-- The digits at the front of the text, with what may be ignored between them. -/
def readDigits (isDigit : Char → Bool) : Nat → List Char → Reader (List Char)
  | 0, done => return done.reverse
  | steps + 1, done => do
    match ← peek with
    | some c =>
      if isDigit c then
        let _ ← nextSkip
        readDigits isDigit steps (c :: done)
      else return done.reverse
    | none => return done.reverse

/-- A number of a counted repetition, of 32 bits, with white space around it. -/
def readCount : Reader Nat := do
  goTo ((← rest).dropWhile isWhite)
  let l ← readDigits Char.isDigit (← rest).length []
  goTo ((← rest).dropWhile isWhite)
  skip
  if l.isEmpty then refuse
  let n := Decimal.natOfDigits l
  if UInt32.size ≤ n then refuse
  return n

/-- The character of a code point. -/
def charOf (n : Nat) : Reader Char :=
  if h : n.isValidChar then return Char.ofNatAux n h else refuse

/-- Exactly `n` hexadecimal digits. -/
def readHexDigits : Nat → List Char → Reader (List Char)
  | 0, done => return done.reverse
  | n + 1, done => do
    skip
    let c ← next
    if isHexDigit c then readHexDigits n (c :: done) else refuse

/-- A code point by its hexadecimal digits: `n` of them, or any number in braces. Also tells
whether it was written without braces in two digits, as a byte is. -/
def readCodePoint (n : Nat) : Reader (Char × Bool) := do
  skip
  if (← peek) = some '\x7b' then
    let _ ← nextSkip
    let l ← readDigits isHexDigit (← rest).length []
    if l.isEmpty ∨ 8 < (l.dropWhile (· = '0')).length then refuse
    expect '\x7d'
    return (← charOf (hexNumber l), false)
  else
    let l ← readHexDigits n []
    return (← charOf (hexNumber l), n == 2)

/-! ### Dialects -/

/-- **What dialects of patterns differ in**: what they take from the tables of one version of the
Unicode standard, and how large a pattern may be. -/
structure Dialect where
  /-- The set of a property by its name, which may have a value behind it. -/
  property? : List Char → Option CharSet
  /-- What `\d` stands for. -/
  digit : CharSet
  /-- What `\w` stands for. -/
  word : CharSet
  /-- A set and what differs from a member in case only. -/
  foldCase : CharSet → CharSet
  /-- Whether a character may be the first one in the name of a group, or stand behind that. -/
  inGroupName : Bool → Char → Bool
  /-- Whether a text and the pattern that it writes are within the limits of nesting and size. -/
  fits : String → Node → Bool

/-- Splits a text at the first place of `sep`. -/
def splitAt? (sep : List Char) : List Char → Option (List Char × List Char)
  | [] => none
  | c :: l =>
    if sep.isPrefixOf (c :: l) then some ([], (c :: l).drop sep.length)
    else (splitAt? sep l).map fun p => (c :: p.1, p.2)

/-- The set of a property name, with or without a value. -/
def propertySet (text : List Char) : Option CharSet :=
  match splitAt? ['!', '='] text with
  | some (p, v) => (CharSet.valued? p v).map CharSet.complement
  | none =>
    match splitAt? [':'] text with
    | some (p, v) => CharSet.valued? p v
    | none =>
      match splitAt? ['='] text with
      | some (p, v) => CharSet.valued? p v
      | none => CharSet.named? text

/-- A character of the name of a group. -/
def isGroupNameChar (first : Bool) (c : Char) : Bool :=
  if first then c == '_' || (isAlphanumeric c && !isNumeric c)
  else c == '_' || c == '.' || c == '[' || c == ']' || isAlphanumeric c
where
  /-- A number, which no name begins with. -/
  isNumeric (c : Char) : Bool :=
    if c.toNat < 128 then c.isDigit
    else ((CharSet.ofCategories ["Nd", "No"])).contains c.toNat

/-- Nodes may stand this deep inside each other. -/
def maxDepth : Nat := 250

/-- The automaton of a pattern may take this many bytes. -/
def maxBytes : Nat := 10 * 1024 * 1024

/-- The dialect of the tables at hand, with the names of categories and scripts and some names of
properties, and with an estimate of the size of the automaton. -/
def Dialect.standard : Dialect where
  property? := propertySet
  digit := CharSet.digit
  word := CharSet.word
  foldCase := CharSet.foldCase
  inGroupName := isGroupNameChar
  fits _ n := n.depth ≤ maxDepth && n.states * Node.stateBytes ≤ maxBytes

variable (D : Dialect)

/-! ### Sets -/

/-- What an escape or a plain character stands for. -/
inductive Atom
  /-- A character, and whether it was written as a byte. -/
  | char (c : Char) (asByte : Bool)
  | set (s : CharSet)
  | look (l : Look)

/-- A set with letter case ignored if the flags say so. -/
def folded (f : Flags) (s : CharSet) : CharSet :=
  if f.ignoreCase then
    if f.unicode then D.foldCase s else s.union (s.foldCase.inter [(0, 127)])
  else s

/-- A set, or what is not in it. -/
def signed (negated : Bool) (s : CharSet) : CharSet := if negated then s.complement else s

/-- A set that the flags permit: without the flag `unicode` it may hold ASCII characters only. -/
def permitted (s : CharSet) : Reader CharSet := do
  if (← flags).unicode ∨ s.isAscii then return s else refuse

/-- The characters of words. -/
def wordClass (f : Flags) : CharSet := if f.unicode then D.word else CharSet.asciiWord

/-- A class of one letter. -/
def letterClass (f : Flags) (c : Char) : CharSet :=
  let set := match c.toLower with
    | 'd' => if f.unicode then D.digit else CharSet.asciiDigit
    | 's' => if f.unicode then CharSet.white else CharSet.asciiWhite
    | _ => wordClass D f
  signed c.isUpper set

/-! ### Properties -/

/-- The characters up to a closing brace. -/
def readBraced : Nat → List Char → Reader (List Char)
  | 0, _ => refuse
  | steps + 1, done => do
    let c ← nextSkip
    if c = '\x7d' then return done.reverse else readBraced steps (c :: done)

/-- A class of a Unicode property, behind its letter. -/
def readProperty (negated : Bool) : Reader CharSet := do
  skip
  let f ← flags
  if !f.unicode then refuse
  let set ← if (← peek) = some '\x7b' then do
      let _ ← nextSkip
      let name ← readBraced ((← rest).length + 1) []
      match D.property? name with
      | some s => pure s
      | none => refuse
    else do
      let c ← next
      if c = '\\' then refuse
      match D.property? [c] with
      | some s => pure s
      | none => refuse
  return signed negated (folded D f set)

/-! ### Escapes -/

/-- A character that has a meaning of its own in patterns. -/
def isMeta (c : Char) : Bool := "\\.+*?()|[]\x7b\x7d^$#&-~".toList.contains c

/-- A character that may be escaped: those that have a meaning, and ASCII without letters, digits
and angle brackets. -/
def isEscapable (c : Char) : Bool :=
  isMeta c || (c.toNat < 128 && !c.isAlphanum && c != '<' && c != '>')

/-- A character of the word in a special word boundary. -/
def isBoundaryChar (c : Char) : Bool := c.isAlpha || c == '-'

/-- What stands behind `\b`: perhaps the kind of boundary in braces. A brace that no such word
follows is left for a repetition. -/
def readBoundary : Reader Look := do
  let word := wordClass D (← flags)
  let plain := Look.wordBoundary word
  if (← peek) ≠ some '\x7b' then return plain
  let brace ← rest
  let _ ← nextSkip
  match ← peek with
  | none => refuse
  | some c =>
    if !isBoundaryChar c then
      goTo brace
      return plain
    let kind ← readDigits isBoundaryChar (← rest).length []
    expect '\x7d'
    match String.ofList kind with
    | "start" => return .wordStart word
    | "end" => return .wordEnd word
    | "start-half" => return .wordStartHalf word
    | "end-half" => return .wordEndHalf word
    | _ => refuse

/-- An escape, behind its backslash. -/
def readEscape : Reader Atom := do
  let f ← flags
  let c ← next
  if isEscapable c then return .char c false
  else match c with
    | 'x' => let (d, b) ← readCodePoint 2; return .char d b
    | 'u' => return .char (← readCodePoint 4).1 false
    | 'U' => return .char (← readCodePoint 8).1 false
    | 'p' => return .set (← readProperty D false)
    | 'P' => return .set (← readProperty D true)
    | 'd' | 's' | 'w' => return .set (letterClass D f c)
    | 'D' | 'S' | 'W' => return .set (← permitted (letterClass D f c))
    | 'a' => return .char '\x07' false
    | 'f' => return .char '\x0c' false
    | 't' => return .char '\t' false
    | 'n' => return .char '\n' false
    | 'r' => return .char '\r' false
    | 'v' => return .char '\x0b' false
    | 'A' => return .look .textStart
    | 'z' => return .look .textEnd
    | 'b' => return .look (← readBoundary D)
    | 'B' => return .look (.notWordBoundary (wordClass D f))
    | '<' => return .look (.wordStart (wordClass D f))
    | '>' => return .look (.wordEnd (wordClass D f))
    | _ => refuse

/-! ### Classes -/

/-- One item of a class: a character, or a set by an escape. -/
def readClassAtom : Reader Atom := do
  let c ← next
  if c = '\\' then readEscape D else return .char c false

/-- A character of a class as the flags permitted it. -/
def classChar : Atom → Reader Nat
  | .char c _ => do
    if (← flags).unicode ∨ c.toNat < 128 then return c.toNat else refuse
  | _ => refuse

/-- The set of an item of a class. -/
def atomSet : Atom → Reader CharSet
  | .char c b => do
    let n ← classChar (.char c b)
    return [(n, n)]
  | .set s => return s
  | .look _ => refuse

/-- An item of a class or a range of characters. -/
def readClassRange : Reader CharSet := do
  let first ← readClassAtom D
  skip
  let f ← flags
  match ← rest with
  | [] => refuse
  | '-' :: l =>
    let after := (visibleRest f l).head?
    if after = some ']' ∨ after = some '-' then atomSet first
    else
      let _ ← nextSkip
      let second ← readClassAtom D
      let a ← classChar first
      let b ← classChar second
      if b < a then refuse
      return [(a, b)]
  | _ => atomSet first

/-- The class named between `[:` and `:]` at the front of a text, and the text behind it. -/
def namedClass? (l : List Char) : Option (CharSet × List Char) :=
  match l with
  | '[' :: ':' :: l =>
    let (negated, l) := match l with
      | '^' :: l => (true, l)
      | _ => (false, l)
    let name := l.takeWhile (· != ':')
    match l.drop name.length with
    | ':' :: ']' :: r => (CharSet.asciiClass? (.ofList name)).map fun s => (signed negated s, r)
    | _ => none
  | _ => none

/-- An operation on two classes. -/
inductive ClassOp
  | inter | diff | symmDiff

/-- The result of an operation; letter case is ignored before it. -/
def ClassOp.apply (f : Flags) (op : ClassOp) (s t : CharSet) : CharSet :=
  let s := folded D f s
  let t := folded D f t
  match op with
  | inter => s.inter t
  | diff => s.diff t
  | symmDiff => s.symmDiff t

/-- What the items of a class amount to, given the operation that is waiting for them. -/
def closeOperand (f : Flags) (waiting : Option (CharSet × ClassOp)) (items : CharSet) : CharSet :=
  match waiting with
  | none => items
  | some (s, op) => op.apply D f s items

/-- The operation written by a doubled character at the front of a text. -/
def classOp? : List Char → Option ClassOp
  | '&' :: '&' :: _ => some .inter
  | '-' :: '-' :: _ => some .diff
  | '~' :: '~' :: _ => some .symmDiff
  | _ => none

/-- Hyphens at the beginning of a class, which stand for themselves. -/
def readHyphens : Nat → CharSet → Reader CharSet
  | 0, s => return s
  | steps + 1, s => do
    if (← peek) = some '-' then
      let _ ← nextSkip
      if (← peek).isNone then refuse
      readHyphens steps [(45, 45)]
    else return s

/-- The beginning of a class, behind its bracket: whether it is negated, and what stands for itself
there. -/
def openClass : Reader (Bool × CharSet) := do
  skip
  let negated ← accept '^'
  skip
  let hyphens ← readHyphens (← rest).length []
  if hyphens.isEmpty ∧ (← peek) = some ']' then
    let _ ← nextSkip
    return (negated, [(93, 93)])
  return (negated, hyphens)

/-- The items of a class up to its end. -/
def readClassItems : Nat → Bool → Option (CharSet × ClassOp) → CharSet → Reader CharSet
  | 0, _, _, _ => refuse
  | steps + 1, negated, waiting, items => do
    skip
    let f ← flags
    let l ← rest
    match classOp? l with
    | some op =>
      goTo (l.drop 2)
      readClassItems steps negated (some (closeOperand D f waiting items, op)) []
    | none =>
      match l with
      | [] => refuse
      | ']' :: r =>
        goTo r
        permitted (signed negated (folded D f (closeOperand D f waiting items)))
      | '[' :: r =>
        match namedClass? l with
        | some (s, r) =>
          goTo r
          readClassItems steps negated waiting (items.union (folded D f s))
        | none =>
          goTo r
          let (n, start) ← openClass
          let inner ← readClassItems steps n none start
          readClassItems steps negated waiting (items.union inner)
      | _ => do
        let s ← readClassRange D
        readClassItems steps negated waiting (items.union s)

/-- A class, behind its bracket. -/
def readClass : Reader CharSet := do
  let (negated, start) ← openClass
  readClassItems D ((← rest).length + 1) negated none start

/-! ### Groups -/

/-- A flag by its letter, set to `b`. -/
def Flags.set (f : Flags) (c : Char) (b : Bool) : Option Flags :=
  match c with
  | 'i' => some { f with ignoreCase := b }
  | 'm' => some { f with multiLine := b }
  | 's' => some { f with dotAll := b }
  | 'U' => some { f with swapGreed := b }
  | 'u' => some { f with unicode := b }
  | 'R' => some { f with crlf := b }
  | 'x' => some { f with verbose := b }
  | _ => none

/-- The letters of a flag group up to its end: the flags they make, and the character behind them.
No letter may be repeated, and a hyphen stands once and before a letter. -/
def readFlags : Nat → List Char → Flags → Reader (Flags × Char)
  | 0, _, _ => refuse
  | steps + 1, seen, f => do
    let c ← next
    if c = ':' ∨ c = ')' then
      if seen.head? = some '-' then refuse
      if c = ')' ∧ seen.isEmpty then refuse
      return (f, c)
    else if seen.contains c then refuse
    else if c = '-' then readFlags steps (c :: seen) f
    else
      match f.set c (!seen.contains '-') with
      | some f => readFlags steps (c :: seen) f
      | none => refuse

/-- The name of a group, behind its opening bracket. No two groups have one name. -/
def readGroupName : Reader Unit := do
  let l ← rest
  let name := l.takeWhile (· != '>')
  if name.isEmpty ∨ name.length = l.length then refuse
  if !(D.inGroupName true (name.headD ' ') && (name.drop 1).all (D.inGroupName false)) then
    refuse
  let s ← get
  if s.names.contains (.ofList name) then refuse
  set { s with rest := l.drop (name.length + 1), names := .ofList name :: s.names }

/-- How a group begins. -/
inductive Opening
  /-- Flags for what follows in the group around it. -/
  | flags (f : Flags)
  | plain (f : Flags)
  | capture (index : Nat)

/-- Counts a capturing group. -/
def countGroup : Reader Opening := do
  modify fun s => { s with groups := s.groups + 1 }
  return .capture (← get).groups

/-- The beginning of a group, behind its parenthesis. -/
def readOpening : Reader Opening := do
  skip
  match ← rest with
  | '?' :: '=' :: _ | '?' :: '!' :: _ | '?' :: '<' :: '=' :: _ | '?' :: '<' :: '!' :: _ => refuse
  | '?' :: 'P' :: '<' :: l =>
    goTo l
    readGroupName D
    countGroup
  | '?' :: '<' :: l =>
    goTo l
    readGroupName D
    countGroup
  | '?' :: l =>
    goTo l
    let (f, c) ← readFlags (l.length + 1) [] (← flags)
    return if c = ')' then .flags f else .plain f
  | _ => countGroup

/-! ### Nodes -/

/-- The node of an atom. -/
def atomNode (f : Flags) : Atom → Reader Node
  | .set s => return .set s
  | .look l => return .look l
  | .char c b => do
    if !f.unicode then
      if b ∧ 128 ≤ c.toNat then refuse
      if f.ignoreCase ∧ 128 ≤ c.toNat then refuse
    return .set (folded D f (CharSet.single c))

/-- The set of the point. -/
def dotSet (f : Flags) : Reader CharSet :=
  permitted (if f.dotAll then CharSet.full
    else if f.crlf then CharSet.complement [(10, 10), (13, 13)]
    else CharSet.complement [(10, 10)])

/-- The assertion of a circumflex. -/
def startLook (f : Flags) : Look :=
  if f.multiLine then (if f.crlf then .crlfStart else .lineStart) else .textStart

/-- The assertion of a dollar sign. -/
def endLook (f : Flags) : Look :=
  if f.multiLine then (if f.crlf then .crlfEnd else .lineEnd) else .textEnd

/-- A single character, escape or assertion. -/
def readPrimitive : Reader Node := do
  let f ← flags
  match ← next with
  | '\\' => atomNode D f (← readEscape D)
  | '.' => return .set (← dotSet f)
  | '^' => return .look (startLook f)
  | '$' => return .look (endLook f)
  | c => atomNode D f (.char c false)

/-- Whether a repetition is greedy, by the question mark behind it. -/
def readGreed : Reader Bool := do
  let lazy ← accept '?'
  return lazy == (← flags).swapGreed

/-- A counted repetition, behind its brace. -/
def readRange : Reader (Nat × Option Nat) := do
  skip
  let least ← readCount
  if ← accept ',' then
    skip
    if ← accept '\x7d' then return (least, none)
    else
      let most ← readCount
      expect '\x7d'
      if most < least then refuse
      return (least, some most)
  else
    expect '\x7d'
    return (least, some least)

/-- Repeats the last item; a flag group or nothing cannot be repeated. -/
def repeatLast (least : Nat) (most : Option Nat) (greedy : Bool) :
    List (Option Node) → Reader (List (Option Node))
  | some n :: l => return some (.repeated least most greedy n) :: l
  | _ => refuse

/-- The concatenation of items, the last one first. -/
def concatOf (items : List (Option Node)) : Node :=
  match items.reverse.map (·.getD .empty) with
  | [] => .empty
  | [n] => n
  | l => .concat l

/-- The alternatives, the last one first. -/
def alternativesOf (done : List Node) (last : List (Option Node)) : Node :=
  match done with
  | [] => concatOf last
  | _ => .alternatives (done.reverse ++ [concatOf last])

/-- A pattern up to the end of the group around it: `done` are the alternatives read, `items` the
items of the one being read, each the last one first. A flag group is an item without a node. -/
def readNode : Nat → List Node → List (Option Node) → Reader Node
  | 0, _, _ => refuse
  | steps + 1, done, items => do
    skip
    match ← rest with
    | [] => return alternativesOf done items
    | ')' :: _ => return alternativesOf done items
    | '|' :: l =>
      goTo l
      readNode steps (concatOf items :: done) []
    | '(' :: l =>
      goTo l
      let outer ← flags
      match ← readOpening D with
      | .flags f =>
        setFlags f
        readNode steps done (none :: items)
      | .plain f =>
        setFlags f
        let inner ← readNode steps [] []
        expect ')'
        setFlags outer
        readNode steps done (some (.group 0 inner) :: items)
      | .capture index =>
        let inner ← readNode steps [] []
        expect ')'
        setFlags outer
        readNode steps done (some (.group index inner) :: items)
    | '[' :: l =>
      goTo l
      let s ← readClass D
      readNode steps done (some (.set s) :: items)
    | '?' :: l =>
      goTo l
      readNode steps done (← repeatLast 0 (some 1) (← readGreed) items)
    | '*' :: l =>
      goTo l
      readNode steps done (← repeatLast 0 none (← readGreed) items)
    | '+' :: l =>
      goTo l
      readNode steps done (← repeatLast 1 none (← readGreed) items)
    | '\x7b' :: l =>
      goTo l
      let (least, most) ← readRange
      skip
      readNode steps done (← repeatLast least most (← readGreed) items)
    | _ =>
      let n ← readPrimitive D
      readNode steps done (some n :: items)

/-! ### Patterns -/

/-- **The pattern that a text writes** in a dialect. -/
def Dialect.read? (text : String) : Option Node := do
  let l := text.toList
  let (n, s) ← (readNode D (l.length + 1) [] []).run ⟨l, {}, 0, []⟩
  if s.rest.isEmpty && D.fits text n then some n else none

/-- The pattern that a text writes in the standard dialect. -/
def read? (text : String) : Option Node := Dialect.standard.read? text

end HttpScript.Pattern
