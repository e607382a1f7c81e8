import HttpScript.XPath.Token

/-! # Reading path expressions

A recursive descent over tokens, one function for each kind of expression. `XPath.read?` gives it
enough fuel: between two tokens that are taken no more than ten functions call each other. -/

namespace HttpScript.XPath

/-- The number of levels of operators below the sign. -/
def signLevel : Nat := 6

/-- A literal, a number or a variable, which are operands by themselves. -/
def plainOperand? : Token → Option XPath
  | .literal s => some (.literal s)
  | .number x => some (.number x)
  | .stored n => some (.stored n)
  | _ => none

/-- The operator at the start of tokens, if it has a level. -/
def operatorAt? (level : Nat) : List Token → Option (Operator × List Token)
  | .operator o :: l => if o.level = level then some (o, l) else none
  | _ => none

/-- The axis and the test of a step. The axis may be left out. -/
def stepHead? : List Token → Option (Axis × Test × List Token)
  | .axis a :: .test t :: l => some (a, t, l)
  | .test t :: l => some (.child, t, l)
  | _ => none

/-- Whether tokens begin with a step, so that no step is only absent. -/
def beginsStep : List Token → Bool
  | .axis _ :: _ | .test _ :: _ => true
  | _ => false

mutual

/-- Operands of a level with the level's operators between them, the left ones first. -/
def binary? : Nat → Nat → List Token → Option (XPath × List Token)
  | 0, _, _ => none
  | n + 1, level, l => do
    if level = signLevel then signed? n l
    else
      let (a, l) ← binary? n (level + 1) l
      binaryTail? n level a l

/-- Further operands behind the first ones. -/
def binaryTail? : Nat → Nat → XPath → List Token → Option (XPath × List Token)
  | 0, _, _, _ => none
  | n + 1, level, a, l =>
    match operatorAt? level l with
    | none => some (a, l)
    | some (o, l) => do
      let (b, l) ← binary? n (level + 1) l
      binaryTail? n level (.operation o a b) l

/-- A union behind any number of signs. -/
def signed? : Nat → List Token → Option (XPath × List Token)
  | 0, _ => none
  | n + 1, .operator .sub :: l => do
    let (a, l) ← signed? n l
    return (.negative a, l)
  | n + 1, l => do
    let (a, l) ← path? n l
    unionTail? n a l

/-- Further paths of a union. -/
def unionTail? : Nat → XPath → List Token → Option (XPath × List Token)
  | 0, _, _ => none
  | n + 1, a, .operator .union :: l => do
    let (b, l) ← path? n l
    unionTail? n (.operation .union a b) l
  | _ + 1, a, l => some (a, l)

/-- A path from the root, from where the expression is evaluated, or from an operand. -/
def path? : Nat → List Token → Option (XPath × List Token)
  | 0, _ => none
  | n + 1, .slash :: l => if beginsStep l then steps? n .root l else some (.root, l)
  | n + 1, l => do
    if beginsStep l then steps? n .here l
    else
      let (a, l) ← operand? n l
      let (a, l) ← filters? n a l
      match l with
      | .slash :: l => steps? n a l
      | _ => some (a, l)

/-- An operand without its predicates. -/
def operand? : Nat → List Token → Option (XPath × List Token)
  | 0, _ => none
  | n + 1, .leftParen :: l => do
    let (a, l) ← binary? n 0 l
    match l with
    | .rightParen :: l => some (a, l)
    | _ => none
  | _ + 1, .function f :: .leftParen :: .rightParen :: l => some (.call f [], l)
  | n + 1, .function f :: .leftParen :: l => do
    let (arguments, l) ← arguments? n l
    return (.call f arguments, l)
  | _ + 1, t :: l => (plainOperand? t).map (·, l)
  | _ + 1, [] => none

/-- The arguments of a function, up to the closing parenthesis. -/
def arguments? : Nat → List Token → Option (List XPath × List Token)
  | 0, _ => none
  | n + 1, l => do
    let (a, l) ← binary? n 0 l
    match l with
    | .rightParen :: l => some ([a], l)
    | .comma :: l => do
      let (more, l) ← arguments? n l
      return (a :: more, l)
    | _ => none

/-- The predicates behind an operand. -/
def filters? : Nat → XPath → List Token → Option (XPath × List Token)
  | 0, _, _ => none
  | n + 1, a, .leftBracket :: l => do
    let (p, l) ← predicate? n l
    filters? n (.filter a p) l
  | _ + 1, a, l => some (a, l)

/-- A predicate behind its opening bracket. -/
def predicate? : Nat → List Token → Option (XPath × List Token)
  | 0, _ => none
  | n + 1, l => do
    let (p, l) ← binary? n 0 l
    match l with
    | .rightBracket :: l => some (p, l)
    | _ => none

/-- One step or more from `source`. -/
def steps? : Nat → XPath → List Token → Option (XPath × List Token)
  | 0, _, _ => none
  | n + 1, source, l => do
    let (axis, test, l) ← stepHead? l
    let (predicates, l) ← predicates? n l
    let a := XPath.step source axis test predicates
    match l with
    | .slash :: l => steps? n a l
    | _ => some (a, l)

/-- The predicates of a step. -/
def predicates? : Nat → List Token → Option (List XPath × List Token)
  | 0, _ => none
  | n + 1, .leftBracket :: l => do
    let (p, l) ← predicate? n l
    let (more, l) ← predicates? n l
    return (p :: more, l)
  | _ + 1, l => some ([], l)

end

/-- **The expression that a text writes**, if it writes one. -/
def read? (s : String) : Option XPath := do
  let l ← tokens? false s.toList
  match ← binary? (20 * (l.length + 1)) 0 l with
  | (a, []) => some a
  | _ => none

end HttpScript.XPath
