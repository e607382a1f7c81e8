import HttpScript.Decimal.Read
import HttpScript.XPath.Basic

/-! # Words of path expressions

The same characters are an operator behind an operand and a name elsewhere: `*` and `and`, `or`,
`mod`, `div`. So a token is read knowing the token before it. Abbreviations are written out:
`//`, `@`, `.` and `..` become the steps that they stand for. -/

namespace HttpScript.XPath

/-- A word of an expression. -/
inductive Token
  | slash | leftParen | rightParen | leftBracket | rightBracket | comma
  | operator (o : Operator)
  | axis (a : Axis)
  | test (t : Test)
  /-- A name with an opening parenthesis to follow. -/
  | function (n : Xml.Name)
  | stored (n : Xml.Name)
  | literal (s : String)
  | number (x : Float)
  deriving Repr, Inhabited

/-- Whether an operand ends with a token, so that an operator can follow. -/
def Token.endsOperand : Token → Bool
  | rightParen | rightBracket | test _ | stored _ | literal _ | number _ => true
  | _ => false

/-- What stands for itself wherever it is written; the longer ones first. -/
def marks : List (String × List Token) :=
  [("<=", [.operator .le]), (">=", [.operator .ge]), ("!=", [.operator .ne]),
    ("//", [.slash, .axis .descendantOrSelf, .test .node, .slash]),
    ("..", [.axis .parent, .test .node]), ("/", [.slash]), ("(", [.leftParen]),
    (")", [.rightParen]), ("[", [.leftBracket]), ("]", [.rightBracket]), ("@", [.axis .attribute]),
    (",", [.comma]), ("|", [.operator .union]), ("+", [.operator .add]), ("-", [.operator .sub]),
    ("=", [.operator .eq]), ("<", [.operator .lt]), (">", [.operator .gt])]

/-- What is an operator behind an operand only. -/
def namedOperators : List (String × Operator) :=
  [("and", .and), ("or", .or), ("mod", .mod), ("div", .div), ("*", .mul)]

/-- The kinds of nodes that are asked for with parentheses. -/
def nodeTests : List (String × Test) :=
  [("node", .node), ("text", .text), ("comment", .comment),
    ("processing-instruction", .instruction none)]

/-- The rest of a text behind a literal that it starts with. -/
def behind? (literal : String) (l : List Char) : Option (List Char) :=
  if literal.toList.isPrefixOf l then some (l.drop literal.length) else none

/-- The rest of a text behind white space and a literal. -/
def behindSpace? (literal : String) (l : List Char) : Option (List Char) :=
  behind? literal (Xml.skipSpace l)

/-- The first of a list of words that a text starts with, and the rest. -/
def firstOf? {α : Type} (words : List (String × α)) (l : List Char) : Option (α × List Char) :=
  words.findSome? fun (w, a) => (behind? w l).map (a, ·)

/-- A text in quotes. -/
def quoted? : List Char → Option (String × List Char)
  | [] => none
  | q :: l =>
    if q = '"' ∨ q = '\'' then
      match l.dropWhile (· != q) with
      | _ :: r => some (.ofList (l.takeWhile (· != q)), r)
      | [] => none
    else none

/-- A number: digits with an optional point among them. -/
def number? (l : List Char) : Option (Float × List Char) :=
  let (whole, r) := l.span Char.isDigit
  match r with
  | '.' :: r' =>
    let (fraction, r') := r'.span Char.isDigit
    if whole.isEmpty && fraction.isEmpty then none
    else some (Decimal.ofParts false whole fraction 0, r')
  | _ => if whole.isEmpty then none else some (Decimal.ofParts false whole [] 0, r)

/-- An axis with the colons behind it. -/
def axis? (l : List Char) : Option (Token × List Char) :=
  Axis.all.findSome? fun (w, a) =>
    ((behind? w l).bind (behindSpace? "::")).map (Token.axis a, ·)

/-- A test for a kind of node. -/
def nodeTest? (l : List Char) : Option (Token × List Char) := do
  let (t, r) ← firstOf? nodeTests l
  let r := Xml.skipSpace (← behindSpace? "(" r)
  match t, quoted? r with
  | .instruction _, some (s, r) => some (.test (.instruction (some s)), ← behindSpace? ")" r)
  | t, _ => some (.test t, ← behind? ")" r)

/-- A test for a name, in which `*` stands for every word. -/
def nameTest? (l : List Char) : Option (Token × List Char) :=
  match l with
  | '*' :: r => some (.test (.name ⟨none, "*"⟩), r)
  | _ => do
    let (n, r) ← Xml.Name.read? l
    match n.qualifier, r with
    | none, ':' :: '*' :: r => some (.test (.name ⟨some n.base, "*"⟩), r)
    | _, _ =>
      if (behindSpace? "(" r).isSome then some (.function n, r) else some (.test (.name n), r)

/-- A token that begins an operand. -/
def operandToken? (l : List Char) : Option (List Token × List Char) :=
  ((quoted? l).map fun (s, r) => ([Token.literal s], r))
  <|> ((number? l).map fun (x, r) => ([Token.number x], r))
  <|> ((behind? "." l).map fun r => ([Token.axis .self, .test .node], r))
  <|> ((behind? "$" l).bind fun r => (Xml.Name.read? r).map fun (n, r) => ([Token.stored n], r))
  <|> ((axis? l).map fun (t, r) => ([t], r))
  <|> ((nodeTest? l).map fun (t, r) => ([t], r))
  <|> ((nameTest? l).map fun (t, r) => ([t], r))

/-- The tokens that the next word of a text stands for, and the rest. `operand` says whether an
operand ends before it. -/
def nextTokens? (operand : Bool) (l : List Char) : Option (List Token × List Char) :=
  firstOf? marks l
  <|> (if operand then
      (firstOf? namedOperators l).map fun (o, r) => ([Token.operator o], r)
    else none)
  <|> operandToken? l

/-- **The tokens of a text.** -/
def tokens? (operand : Bool) (l : List Char) : Option (List Token) :=
  match Xml.skipSpace l with
  | [] => some []
  | c :: t =>
    match nextTokens? operand (c :: t) with
    | some (words, r) =>
      if r.length < l.length then
        (tokens? ((words.getLast?.map Token.endsOperand).getD operand) r).map (words ++ ·)
      else none
    | none => none
termination_by l.length

end HttpScript.XPath
