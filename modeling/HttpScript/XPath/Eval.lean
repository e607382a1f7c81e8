import HttpScript.Text.Infix
import HttpScript.Xml.Document
import HttpScript.XPath.Basic
import HttpScript.XPath.Number

/-! # Evaluating path expressions

`XPath.eval?` gives the result of an expression on a document, or nothing where the expression
asks for what does not exist: an unknown function, a variable, nodes of what is no set of nodes.
A set of nodes is the list of their numbers in document order. -/

namespace HttpScript.XPath

open Xml (Document Kind)

/-- The result of an expression. -/
inductive Result
  | bool (b : Bool)
  | number (x : Float)
  | string (s : String)
  | nodes (l : List Nat)
  deriving Repr, Inhabited

namespace Result

/-- A set of nodes. -/
def nodes? : Result → Option (List Nat)
  | nodes l => some l
  | _ => none

/-- A result as text: of nodes, the text of the first. -/
def text (d : Document) : Result → String
  | bool b => if b then "true" else "false"
  | number x => Number.text x
  | string s => s
  | nodes l => (l.head?.map d.textOf).getD ""

/-- A result as a number. -/
def toNumber (d : Document) : Result → Float
  | bool b => if b then 1 else 0
  | number x => x
  | r => Number.ofText (r.text d)

/-- A result as a truth value. -/
def isTrue : Result → Bool
  | bool b => b
  | number x => !(x == 0 || x.isNaN)
  | string s => !s.isEmpty
  | nodes l => !l.isEmpty

/-- Whether two results are equal. Nodes are equal to what one of them is equal to. -/
def equals (d : Document) : Result → Result → Bool
  | nodes l, nodes m => l.any fun i => m.any fun j => d.textOf i == d.textOf j
  | nodes l, number x | number x, nodes l => l.any fun i => Number.ofText (d.textOf i) == x
  | nodes l, string s | string s, nodes l => l.any fun i => d.textOf i == s
  | bool a, b | b, bool a => a == b.isTrue
  | number x, a | a, number x => x == a.toNumber d
  | string s, string t => s == t

end Result

/-- Where an expression is evaluated: at a node, which is one of `size` nodes. -/
structure Focus where
  node : Nat
  position : Nat
  size : Nat

/-! ### Steps -/

/-- Removes what equals its neighbour. -/
def distinct : List Nat → List Nat
  | [] => []
  | [i] => [i]
  | i :: j :: l => if i = j then distinct (j :: l) else i :: distinct (j :: l)

/-- Nodes in document order, each once. -/
def inOrder (l : List Nat) : List Nat := distinct (l.mergeSort (· ≤ ·))

/-- The nodes that an axis leads to from a node, the nearest first. -/
def Axis.nodes (d : Document) (i : Nat) : Axis → List Nat
  | ancestor => d.ancestors i
  | ancestorOrSelf => i :: d.ancestors i
  | .attribute => d.attributes i
  | child => d.children i
  | descendant => d.descendants i
  | descendantOrSelf => i :: d.descendants i
  | following => d.following i
  | followingSibling =>
    if d.isContent i then (d.following i).filter fun j => (d.node j).parent == (d.node i).parent
    else []
  | binding => d.bindings i
  | parent => (d.node i).parent.toList
  | preceding => d.preceding i
  | precedingSibling =>
    if d.isContent i then (d.preceding i).filter fun j => (d.node j).parent == (d.node i).parent
    else []
  | self => [i]

/-- Whether a name in a document passes a test for a name. No qualifier is known to an expression,
so that a plain name means no namespace and a qualified one nothing. -/
def nameMatches (asked : Xml.Name) (base : String) (space : Option String) : Bool :=
  asked.qualifier.isNone && (asked.base == "*" || (asked.base == base && space.isNone))

/-- Whether a node passes a test. Names are those of attributes on the axis of attributes, of
namespaces on theirs, and of elements on all others. -/
def Test.accepts (axis : Axis) : Test → Kind → Bool
  | name n, .element m space => axis != .attribute && axis != .binding && nameMatches n m.base space
  | name n, .attribute m space _ => axis == .attribute && nameMatches n m.base space
  | name n, .binding label _ => axis == .binding && nameMatches n label none
  | node, _ => true
  | text, .text _ => true
  | comment, .comment _ => true
  | instruction none, .instruction _ _ => true
  | instruction (some t), .instruction u _ => t == u
  | _, _ => false

/-- Whether a test can be made: no qualifier is known. -/
def Test.isKnown : Test → Bool
  | name n => n.qualifier.isNone
  | _ => true

/-- Whether a node at a place satisfies a predicate with a result: a number asks for the place. -/
def satisfies (position : Nat) : Result → Bool
  | .number x => Float.ofNat position == x
  | r => r.isTrue

/-- The nodes that satisfy a predicate, given the nodes' number and the place of the first. -/
def select (predicate : Focus → Option Result) (size : Nat) : Nat → List Nat → Option (List Nat)
  | _, [] => some []
  | k, i :: l => do
    let r ← predicate ⟨i, k, size⟩
    let rest ← select predicate size (k + 1) l
    return if satisfies k r then i :: rest else rest

/-! ### Functions -/

/-- The first argument, or the node itself where there is none. -/
def argumentOrHere (f : Focus) : List Result → Option Result
  | [] => some (.nodes [f.node])
  | [r] => some r
  | _ => none

/-- The text before and the text behind the first place of `part`. -/
def around? (part : List Char) : List Char → Option (List Char × List Char)
  | [] => if part.isEmpty then some ([], []) else none
  | c :: l =>
    if part.isPrefixOf (c :: l) then some ([], (c :: l).drop part.length)
    else (around? part l).map fun (a, b) => (c :: a, b)

/-- The characters whose places, from one on, are not below `first` and are below `stop`. -/
def charsFrom (first stop : Float) : Nat → List Char → List Char
  | _, [] => []
  | k, c :: l =>
    let place := Float.ofNat k
    if first ≤ place && place < stop then c :: charsFrom first stop (k + 1) l
    else charsFrom first stop (k + 1) l

/-- What a character becomes: its partner in `to`, nothing if it has none, or itself. -/
def translated (source target : List Char) (c : Char) : List Char :=
  match source.findIdx? (· == c) with
  | none => [c]
  | some k => target[k]?.toList

/-- A text with single blanks for all its white space and none at its ends. -/
def normalized (s : String) : String :=
  " ".intercalate (((s.toList.splitOnP Xml.isSpace).filter fun w => !w.isEmpty).map String.ofList)

/-- The name of a node as it is written. -/
def nameText : Kind → String
  | .element n _ | .attribute n _ _ => n.text
  | .binding label _ => label
  | .instruction target _ => target
  | _ => ""

/-- The name of a node without its qualifier. -/
def baseName : Kind → String
  | .element n _ | .attribute n _ _ => n.base
  | k => nameText k

/-- The namespace of a node. -/
def spaceName : Kind → String
  | .element _ s | .attribute _ s _ => s.getD ""
  | _ => ""

/-- A text about the first of the nodes that are given. -/
def ofFirst (d : Document) (f : Focus) (l : List Result) (g : Kind → String) : Option Result := do
  let nodes ← (← argumentOrHere f l).nodes?
  return .string ((nodes.head?.map fun i => g (d.node i).kind).getD "")

/-- A function of texts. -/
def ofTexts (d : Document) (l : List Result) (g : List String → Option Result) : Option Result :=
  g (l.map (Result.text d))

/-- A function of one number. -/
def ofNumber (d : Document) (g : Float → Float) : List Result → Option Result
  | [r] => some (.number (g (r.toNumber d)))
  | _ => none

/-- The part of a text from a place on. -/
def substring (d : Document) : List Result → Option Result
  | [s, a] =>
    let first := Number.round (a.toNumber d)
    some (.string (.ofList (charsFrom first (first + 1 / 0) 1 (s.text d).toList)))
  | [s, a, n] =>
    let first := Number.round (a.toNumber d)
    let stop := first + Number.round (n.toNumber d)
    some (.string (.ofList (charsFrom first stop 1 (s.text d).toList)))
  | _ => none

/-- The result of a function. -/
def call? (d : Document) (f : Focus) (function : String) (l : List Result) : Option Result :=
  match function with
  | "last" => if l.isEmpty then some (.number (Float.ofNat f.size)) else none
  | "position" => if l.isEmpty then some (.number (Float.ofNat f.position)) else none
  | "true" => if l.isEmpty then some (.bool true) else none
  | "false" => if l.isEmpty then some (.bool false) else none
  | "count" =>
    match l with
    | [.nodes m] => some (.number (Float.ofNat m.length))
    | _ => none
  | "sum" =>
    match l with
    | [.nodes m] => some (.number ((m.map fun i => Number.ofText (d.textOf i)).foldl (· + ·) 0))
    | _ => none
  | "name" => ofFirst d f l nameText
  | "local-name" => ofFirst d f l baseName
  | "namespace-uri" => ofFirst d f l spaceName
  | "string" => (argumentOrHere f l).map fun r => .string (r.text d)
  | "number" => (argumentOrHere f l).map fun r => .number (r.toNumber d)
  | "string-length" =>
    (argumentOrHere f l).map fun r => .number (Float.ofNat (r.text d).length)
  | "normalize-space" => (argumentOrHere f l).map fun r => .string (normalized (r.text d))
  | "boolean" =>
    match l with
    | [r] => some (.bool r.isTrue)
    | _ => none
  | "not" =>
    match l with
    | [r] => some (.bool !r.isTrue)
    | _ => none
  | "concat" =>
    ofTexts d l fun s => if s.length < 2 then none else some (.string (String.join s))
  | "starts-with" => ofTexts d l fun
    | [s, t] => some (.bool (Text.startsWith s t))
    | _ => none
  | "contains" => ofTexts d l fun
    | [s, t] => some (.bool (Text.contains s t))
    | _ => none
  | "substring-before" => ofTexts d l fun
    | [s, t] => some (.string (.ofList ((around? t.toList s.toList).elim [] (·.1))))
    | _ => none
  | "substring-after" => ofTexts d l fun
    | [s, t] => some (.string (.ofList ((around? t.toList s.toList).elim [] (·.2))))
    | _ => none
  | "translate" => ofTexts d l fun
    | [s, a, b] => some (.string (.ofList (s.toList.flatMap (translated a.toList b.toList))))
    | _ => none
  | "substring" => substring d l
  | "floor" => ofNumber d Float.floor l
  | "ceiling" => ofNumber d Float.ceil l
  | "round" => ofNumber d Number.round l
  | _ => none

/-! ### Expressions -/

/-- The number that an operator of arithmetic makes of two. -/
def Operator.compute : Operator → Float → Float → Option Float
  | add, x, y => some (x + y)
  | sub, x, y => some (x - y)
  | mul, x, y => some (x * y)
  | div, x, y => some (x / y)
  | mod, x, y => some (Number.remainder x y)
  | _, _, _ => none

/-- The relation that an operator of order stands for. -/
def Operator.relates : Operator → Float → Float → Bool
  | lt, x, y => x < y
  | le, x, y => x ≤ y
  | gt, x, y => y < x
  | ge, x, y => y ≤ x
  | _, _, _ => false

/-- The result of an operator on two results. -/
def Operator.combine? (d : Document) (a b : Result) (o : Operator) : Option Result :=
  match o with
  | or => some (.bool (a.isTrue || b.isTrue))
  | and => some (.bool (a.isTrue && b.isTrue))
  | eq => some (.bool (a.equals d b))
  | ne => some (.bool !(a.equals d b))
  | lt | le | gt | ge => some (.bool (o.relates (a.toNumber d) (b.toNumber d)))
  | add | sub | mul | div | mod => (o.compute (a.toNumber d) (b.toNumber d)).map .number
  | union => do return .nodes (inOrder ((← a.nodes?) ++ (← b.nodes?)))

/-- Whether the left operand alone decides. -/
def Operator.isDecided (a : Result) : Operator → Bool
  | or => a.isTrue
  | and => !a.isTrue
  | _ => false

mutual

/-- The result of an expression. -/
def eval? (d : Document) : XPath → Focus → Option Result
  | .literal s, _ => some (.string s)
  | .number x, _ => some (.number x)
  | .stored _, _ => none
  | .root, _ => some (.nodes [0])
  | .here, f => some (.nodes [f.node])
  | .negative a, f => do return .number (-(← eval? d a f).toNumber d)
  | .operation o a b, f => do
    let x ← eval? d a f
    if o.isDecided x then some (.bool x.isTrue) else o.combine? d x (← eval? d b f)
  | .call g arguments, f => do
    let l ← evalAll? d arguments f
    if g.qualifier.isSome then none else call? d f g.base l
  | .filter source p, f => do
    let l ← (← eval? d source f).nodes?
    return .nodes (← select (eval? d p) l.length 1 l)
  | .step source axis test predicates, f => do
    if !test.isKnown then none
    let l ← (← eval? d source f).nodes?
    let found ← l.mapM fun i =>
      narrow? d predicates ((axis.nodes d i).filter fun j => test.accepts axis (d.node j).kind)
    return .nodes (inOrder found.flatten)

/-- The results of expressions. -/
def evalAll? (d : Document) : List XPath → Focus → Option (List Result)
  | [], _ => some []
  | a :: l, f => do return (← eval? d a f) :: (← evalAll? d l f)

/-- The nodes that satisfy all predicates, each asked of what the ones before it leave. -/
def narrow? (d : Document) : List XPath → List Nat → Option (List Nat)
  | [], l => some l
  | p :: ps, l => do narrow? d ps (← select (eval? d p) l.length 1 l)

end

/-- **The result of an expression at the root of a document.** -/
def atRoot? (d : Document) (a : XPath) : Option Result := eval? d a ⟨0, 1, 1⟩

end HttpScript.XPath
