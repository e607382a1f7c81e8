import HttpScript.Grammar.Lexeme

/-! # Predicates

The rules for predicates: perhaps `not`, then a condition. A longer keyword is tried before the one
it begins with. -/

namespace HttpScript.Grammar

open Rule Script

/-- A keyword and any blanks. -/
def keyword (name : String) : Rule Unit := do
  literal name
  blanks

/-- A quoted string as a literal. -/
def stringLiteral : Rule Literal := .string <$> quotedString

/-- A number as a literal. -/
def numberLiteral : Rule Literal := .number <$> number

/-- A truth value as a literal. -/
def boolLiteral : Rule Literal := .bool <$> boolean

/-- The literal `null`. -/
def nullLiteral : Rule Literal := do
  literal "null"
  return .null

/-- A variable that a value is compared with. -/
def equalsVariable : Rule Condition := do
  let (name, begin) ← placeholder
  return .equalsVariable name begin

/-- Equality with a literal or a variable. -/
def equalsCondition : Rule Condition := do
  keyword "equals"
  choice [.equals <$> numberLiteral, .equals <$> boolLiteral, .equals <$> stringLiteral,
    .equals <$> nullLiteral, equalsVariable]

/-- An ordering and its bound. -/
def orderedCondition (o : Script.Ordering) : Rule Condition := do
  keyword o.name
  return .ordered o (← number)

/-- A count, which is not negative. -/
def countCondition : Rule Condition := do
  keyword "countEquals"
  let begin ← position
  let n ← integer
  if n < 0 then failAt begin .count
  return .countEquals n.toNat

/-- A keyword with a quoted string. -/
def quotedCondition (make : Template → Condition) : Rule Condition := do
  keyword (make default).name
  return make (← quotedString)

/-- An item that a list has to hold. -/
def includesCondition : Rule Condition := do
  keyword "includes"
  .includes <$> choice [boolLiteral, numberLiteral, stringLiteral, nullLiteral]

/-- That there is a value. -/
def presentCondition : Rule Condition := do
  literal "exists"
  return .present

/-- A condition. -/
def condition : Rule Condition :=
  choice [equalsCondition, orderedCondition .greaterOrEqual, orderedCondition .greater,
    orderedCondition .lessOrEqual, orderedCondition .less, countCondition,
    quotedCondition .startsWith, quotedCondition .contains, includesCondition,
    quotedCondition .like, presentCondition]

/-- The word that negates a condition. -/
def negation : Rule Unit := do
  literal "not"
  someBlanks

/-- A predicate. -/
def predicate : Rule Predicate := do
  let begin ← position
  let negated := (← optional negation).isSome
  return ⟨negated, ← condition, begin⟩

end HttpScript.Grammar
