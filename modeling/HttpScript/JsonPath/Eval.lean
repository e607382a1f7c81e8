import HttpScript.JsonPath.Basic

/-! # Evaluating JSON paths

`JsonPath.eval` follows a path segment by segment: it keeps the list of the values reached so far
and replaces each by what the segment selects from it. The values nested in a value are found with
a list of values still to visit (`descendants`). -/

namespace HttpScript

namespace Json

mutual

/-- The number of values nested in a value, itself included. -/
def weight : Json → Nat
  | array items => 1 + weightItems items
  | object members => 1 + weightMembers members
  | _ => 1

/-- The weight of values. -/
def weightItems : List Json → Nat
  | [] => 0
  | v :: l => weight v + weightItems l

/-- The weight of members. -/
def weightMembers : List (String × Json) → Nat
  | [] => 0
  | (_, v) :: l => weight v + weightMembers l

end

theorem weightItems_append (l m : List Json) :
    weightItems (l ++ m) = weightItems l + weightItems m := by
  induction l with
  | nil => simp [weightItems]
  | cons v l ih => simp only [List.cons_append, weightItems, ih]; omega

theorem weightItems_map (l : List (String × Json)) :
    weightItems (l.map (·.2)) = weightMembers l := by
  induction l with
  | nil => simp [weightItems, weightMembers]
  | cons p l ih => obtain ⟨n, v⟩ := p; simp [weightItems, weightMembers, ih]

theorem weight_eq (v : Json) : v.weight = 1 + weightItems v.children := by
  cases v <;> simp [weight, children, weightItems, weightItems_map]

/-- The values still to visit and all that are nested in them, each before those inside it. -/
def visit (pending : List Json) : List Json :=
  match pending with
  | [] => []
  | v :: l => v :: visit (v.children ++ l)
termination_by weightItems pending
decreasing_by
  simp only [weightItems, weightItems_append, weight_eq v]
  omega

/-- A value and all values nested in it, each before those inside it. -/
def descendants (v : Json) : List Json := visit [v]

end Json

namespace JsonPath

/-- The place of an index in a list of `n` items. -/
def place (n : Nat) (i : Int) : Int := if i < 0 then n + i else i

/-- The value at a key. -/
def lookup : Json → Key → Option Json
  | .object members, .name n => Named.find? n members
  | .array items, .index i =>
    let i := place items.length i
    if i < 0 then none else items[i.toNat]?
  | _, _ => none

/-- The value at the end of a path of keys. -/
def follow (path : List Key) (v : Json) : Option Json :=
  path.foldlM lookup v

/-- How two texts are ordered. -/
def compareText (a b : String) : Ordering := if a < b then .lt else if a = b then .eq else .gt

/-- How two doubles are ordered; not-a-number is not ordered. -/
def compareFloat (a b : Float) : Option Ordering :=
  if a < b then some .lt else if a == b then some .eq else if b < a then some .gt else none

/-- How a value compares with a literal, if it does. -/
def compare : Json → Literal → Option Ordering
  | .number a, .number b => compareFloat a.toFloat b
  | .string a, .string b => some (compareText a b)
  | .bool a, .bool b => if a = b then some .eq else none
  | .null, .null => some .eq
  | _, _ => none

/-- Whether a relation holds. Values that do not compare are only unequal. -/
def Relation.holds : Relation → Option Ordering → Bool
  | ne, o => o != some .eq
  | _, none => false
  | eq, some o => o == .eq
  | lt, some o => o == .lt
  | le, some o => o != .gt
  | gt, some o => o == .gt
  | ge, some o => o != .lt

/-- Whether a value satisfies a filter. -/
def Filter.accepts (f : Filter) (v : Json) : Bool :=
  match follow f.path v, f.condition with
  | none, _ => false
  | some _, none => true
  | some a, some (r, b) => r.holds (compare a b)

/-- The place of a bound in a list of `n` items, which lies between its ends. -/
def bound (n : Nat) (i : Int) : Nat := min (place n i).toNat n

/-- What a selector selects from a value. -/
def select : Selector → Json → List Json
  | .keys l, v => l.filterMap (lookup v)
  | .wildcard, v => v.children
  | .slice first last, .array items =>
    let a := bound items.length (first.getD 0)
    let b := bound items.length (last.getD items.length)
    (items.take b).drop a
  | .slice _ _, _ => []
  | .filter f, v => v.children.filter f.accepts

/-- What a segment selects from a value. -/
def Segment.select : Segment → Json → List Json
  | child s, v => JsonPath.select s v
  | descendant s, v => v.descendants.flatMap (JsonPath.select s)

/-- **The values that a path reaches**, in order. -/
def eval (path : JsonPath) (root : Json) : List Json :=
  path.foldl (fun reached s => reached.flatMap s.select) [root]

end JsonPath

end HttpScript
