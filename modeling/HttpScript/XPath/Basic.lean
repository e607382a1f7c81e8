import HttpScript.Xml.Name

/-! # Paths into XML documents

An `XPath` is an expression over the nodes of a document. A path is a chain of `step`s, each of
which leads from every node reached so far along an axis to the nodes that pass a test and all
predicates. -/

namespace HttpScript

namespace XPath

/-- A relation from a node to others. -/
inductive Axis
  | ancestor | ancestorOrSelf | attribute | child | descendant | descendantOrSelf | following
  | followingSibling | binding | parent | preceding | precedingSibling | self
  deriving DecidableEq, Repr, Inhabited

/-- All axes by name. A name stands before those it begins with. -/
def Axis.all : List (String × Axis) :=
  [("ancestor-or-self", .ancestorOrSelf), ("ancestor", .ancestor), ("attribute", .attribute),
    ("child", .child), ("descendant-or-self", .descendantOrSelf), ("descendant", .descendant),
    ("following-sibling", .followingSibling), ("following", .following), ("namespace", .binding),
    ("parent", .parent), ("preceding-sibling", .precedingSibling), ("preceding", .preceding),
    ("self", .self)]

/-- What a step asks of a node. -/
inductive Test
  /-- A name; `*` stands for every word. -/
  | name (n : Xml.Name)
  | node
  | text
  | comment
  | instruction (target : Option String)
  deriving DecidableEq, Repr, Inhabited

/-- The operators between two expressions. -/
inductive Operator
  | or | and | eq | ne | lt | le | gt | ge | add | sub | mul | div | mod | union
  deriving DecidableEq, Repr, Inhabited

/-- How tightly an operator binds; only `union` binds tighter than a sign. -/
def Operator.level : Operator → Nat
  | or => 0
  | and => 1
  | eq | ne => 2
  | lt | le | gt | ge => 3
  | add | sub => 4
  | mul | div | mod => 5
  | union => 6

end XPath

open XPath in
/-- An expression. -/
inductive XPath
  | literal (s : String)
  | number (x : Float)
  /-- The value of a variable. No document has any. -/
  | stored (name : Xml.Name)
  | call (function : Xml.Name) (arguments : List XPath)
  | operation (o : Operator) (a b : XPath)
  | negative (a : XPath)
  /-- The root of the document. -/
  | root
  /-- The node at which the expression is evaluated. -/
  | here
  | step (source : XPath) (axis : Axis) (test : Test) (predicates : List XPath)
  /-- The nodes of `source` that satisfy a predicate. -/
  | filter (source predicate : XPath)
  deriving Repr, Inhabited

end HttpScript
