import HttpScript.Pattern.Engine
import HttpScript.Script.Basic
import HttpScript.Template.Basic
import HttpScript.Text.Infix

/-! # Judging predicates

`judge` compares a value with what a predicate demands and words both sides. A condition applies to
values of one kind only; to any other it does not say whether it holds (`Expectation.holds` is
`none`), and then the condition fails. Its negation

* succeeds where nothing was found,
* is the opposite where the condition applies,
* on a value of another kind succeeds for equality and `contains` and fails for all others. -/

namespace HttpScript

open Script

/-- What a condition demands of a value: whether the value meets it, if it is of the right kind,
and the wording for the condition and its negation. -/
structure Expectation where
  holds : Option Bool
  positive : String
  negative : String
  deriving DecidableEq, Repr

/-- The outcome of a predicate. -/
structure Judgement where
  succeeded : Bool
  actual : String
  expected : String
  deriving DecidableEq, Repr, Inhabited

namespace Expectation

/-- Equality with a string. -/
def equalsString (s : String) (actual : Value) : Expectation where
  holds := match actual with
    | .string a => some (a = s)
    | _ => none
  positive := "equals string <" ++ s ++ ">"
  negative := "doesn't equal string <" ++ s ++ ">"

/-- Equality with a number. -/
def equalsNumber (x : Float) (actual : Value) : Expectation where
  holds := match actual with
    | .number a => some (a == x)
    | _ => none
  positive := "equals number <" ++ Decimal.text x ++ ">"
  negative := "doesn't equal number <" ++ Decimal.text x ++ ">"

/-- Equality with a truth value. -/
def equalsBool (b : Bool) (actual : Value) : Expectation where
  holds := match actual with
    | .bool a => some (a = b)
    | _ => none
  positive := "equals boolean <" ++ Value.boolText b ++ ">"
  negative := "doesn't equal boolean <" ++ Value.boolText b ++ ">"

/-- Equality with null. -/
def equalsNull (actual : Value) : Expectation where
  holds := match actual with
    | .object .null => some true
    | _ => none
  positive := "equals <null>"
  negative := "doesn't equal <null>"

/-- Equality with a value of any kind. -/
def equalsValue (v actual : Value) : Expectation where
  holds := some (actual == v)
  positive := "equals " ++ v.display
  negative := "doesn't equal " ++ v.display

/-- Equality with a variable, by the type that it has. -/
def equalsVariable : Variable → Value → Expectation
  | .string s => equalsString s
  | .number x => equalsNumber x
  | .bool b => equalsBool b
  | .opaqueValue v => equalsValue v

/-- Whether an ordering holds. -/
def orders : Script.Ordering → Float → Float → Bool
  | .greater, a, b => b < a
  | .greaterOrEqual, a, b => b ≤ a
  | .less, a, b => a < b
  | .lessOrEqual, a, b => a ≤ b

/-- The wording of an ordering. -/
def orderingText : Script.Ordering → String
  | .greater => "greater than"
  | .greaterOrEqual => "greater than or equals"
  | .less => "less than"
  | .lessOrEqual => "less than or equals"

/-- An ordering of numbers. -/
def ordered (o : Script.Ordering) (x : Float) (actual : Value) : Expectation where
  holds := match actual with
    | .number a => some (orders o a x)
    | _ => none
  positive := orderingText o ++ " number <" ++ Decimal.text x ++ ">"
  negative := "not " ++ orderingText o ++ " number <" ++ Decimal.text x ++ ">"

/-- That a string begins with another. -/
def startsWith (s : String) (actual : Value) : Expectation where
  holds := match actual with
    | .string a => some (Text.startsWith a s)
    | _ => none
  positive := "starts with string <" ++ s ++ ">"
  negative := "doesn't start with string <" ++ s ++ ">"

/-- That a string holds another. -/
def contains (s : String) (actual : Value) : Expectation where
  holds := match actual with
    | .string a => some (Text.contains a s)
    | _ => none
  positive := "contains string <" ++ s ++ ">"
  negative := "doesn't contain string <" ++ s ++ ">"

/-- Whether a list holds an item. -/
def listHolds (item actual : Value) : Option Bool :=
  match actual with
  | .list items => some (items.contains item)
  | _ => none

/-- That a list holds a string. -/
def includesString (s : String) (actual : Value) : Expectation where
  holds := listHolds (.string s) actual
  positive := "include string <" ++ s ++ ">"
  negative := "doesn't include string <" ++ s ++ ">"

/-- That a list holds a number. -/
def includesNumber (x : Float) (actual : Value) : Expectation where
  holds := listHolds (.number x) actual
  positive := "include number <" ++ Decimal.text x ++ ">"
  negative := "doesn't include number <" ++ Decimal.text x ++ ">"

/-- That a list holds a truth value. -/
def includesBool (b : Bool) (actual : Value) : Expectation where
  holds := listHolds (.bool b) actual
  positive := "include boolean <" ++ Value.boolText b ++ ">"
  negative := "doesn't include boolean <" ++ Value.boolText b ++ ">"

/-- That a list holds null. -/
def includesNull (actual : Value) : Expectation where
  holds := listHolds (.object .null) actual
  positive := "includes <null>"
  negative := "doesn't include <null>"

/-- That a string matches a pattern. A text that is no pattern applies to no value. -/
def like (pattern : String) (actual : Value) : Expectation :=
  match Pattern.read? pattern with
  | some p =>
    { holds := match actual with
        | .string a => some (p.isMatch a)
        | _ => none
      positive := "matches string <" ++ pattern ++ ">"
      negative := "doesn't match string <" ++ pattern ++ ">" }
  | none =>
    { holds := none
      positive := "a valid regex, got <" ++ pattern ++ ">"
      negative := "a valid regex, got <" ++ pattern ++ ">" }

/-- That there are so many items or nodes. -/
def countEquals (n : Nat) (actual : Value) : Expectation where
  holds := match actual with
    | .list items => some (items.length = n)
    | .nodes m => some (m = n)
    | _ => none
  positive := "count equals " ++ toString n
  negative := "count doesn't equals " ++ toString n

/-- That anything was found. -/
def present (actual : Value) : Expectation where
  holds := match actual with
    | .none | .nodes 0 => some false
    | _ => some true
  positive := "anything"
  negative := "nothing"

end Expectation

namespace Script

/-- The text of a template. -/
def Template.render (t : Template) (vars : Variables) :
    Except HttpScript.Template.InvalidVariable String :=
  HttpScript.Template.render vars t.position t.value

namespace Condition

/-- **What a condition demands of a value.** -/
def expectation (vars : Variables) (actual : Value) :
    Condition → Except HttpScript.Template.InvalidVariable Expectation
  | equals (.string t) => return .equalsString (← t.render vars) actual
  | equals (.number x) => return .equalsNumber x actual
  | equals (.bool b) => return .equalsBool b actual
  | equals .null => return .equalsNull actual
  | equalsVariable name p =>
    match vars.find? name with
    | none => .error ⟨name, p, .undefined⟩
    | some v => return .equalsVariable v actual
  | ordered o x => return .ordered o x actual
  | startsWith t => return .startsWith (← t.render vars) actual
  | contains t => return .contains (← t.render vars) actual
  | includes (.string t) => return .includesString (← t.render vars) actual
  | includes (.number x) => return .includesNumber x actual
  | includes (.bool b) => return .includesBool b actual
  | includes .null => return .includesNull actual
  | like t => return .like (← t.render vars) actual
  | countEquals n => return .countEquals n actual
  | present => return .present actual

/-- Whether the negation of a condition succeeds on values that the condition does not apply to. -/
def negationAcceptsMismatch : Condition → Bool
  | equals _ | equalsVariable _ _ | contains _ => true
  | _ => false

/-- Whether a condition or its negation succeeds on a value. -/
def succeeds (c : Condition) (negated : Bool) (actual : Value) (holds : Option Bool) : Bool :=
  if negated then
    match actual with
    | .none => true
    | _ =>
      match holds with
      | some b => !b
      | none => c.negationAcceptsMismatch
  else holds == some true

end Condition

end Script

/-- **Judges a value** by a condition or its negation. -/
def judge (c : Condition) (negated : Bool) (actual : Value) (vars : Variables) :
    Except Template.InvalidVariable Judgement := do
  let e ← c.expectation vars actual
  return {
    succeeded := c.succeeds negated actual e.holds
    actual := actual.display
    expected := if negated then e.negative else e.positive }

end HttpScript
