import HttpScript.Json.Basic

/-! # JSON paths

A path into a JSON document is a list of segments. A segment selects from a value itself or from
all values nested in it; what it selects is given by a selector: members or items by their keys,
all of them, a slice of an array, or those that satisfy a filter. -/

namespace HttpScript.JsonPath

/-- A step to one value inside another: by its name, or by its index, which counts from the end if
it is negative. -/
inductive Key
  | name (n : String)
  | index (i : Int)
  deriving DecidableEq, Repr

/-- A comparison. -/
inductive Relation
  | eq | ne | lt | le | gt | ge
  deriving DecidableEq, Repr

/-- A literal of a filter. -/
inductive Literal
  | number (x : Float)
  | string (s : String)
  | bool (b : Bool)
  | null
  deriving Repr

/-- A demand on a value: that there is a value at a path and, if so stated, how it compares with a
literal. -/
structure Filter where
  path : List Key
  condition : Option (Relation × Literal)
  deriving Repr

/-- What a segment selects. -/
inductive Selector
  | keys (l : List Key)
  | wildcard
  | slice (first last : Option Int)
  | filter (f : Filter)
  deriving Repr

/-- A segment: it selects from a value itself, or from every value nested in it. -/
inductive Segment
  | child (s : Selector)
  | descendant (s : Selector)
  deriving Repr

end HttpScript.JsonPath

namespace HttpScript

/-- A path. -/
abbrev JsonPath := List JsonPath.Segment

end HttpScript
