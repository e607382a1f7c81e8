import HttpScript.Xml.Markup

/-! # XML documents

A `Document` is the list of its nodes in document order: the root, then each element with its
namespaces, its attributes and its content behind it. A node knows its parent and the place where
the nodes inside it end, so that all relations between nodes are relations between numbers.

`Document.read?` adds the pieces of markup to a `Draft` one by one. -/

namespace HttpScript.Xml

/-- What a node is. -/
inductive Kind
  | root
  | element (name : Name) (space : Option String)
  | attribute (name : Name) (space : Option String) (value : String)
  /-- A namespace that can be named at an element. -/
  | binding (label space : String)
  | text (s : String)
  | comment (s : String)
  | instruction (target value : String)
  deriving DecidableEq, Repr, Inhabited

/-- A node. -/
structure Node where
  kind : Kind
  parent : Option Nat
  /-- The number behind the last node inside this one. -/
  stop : Nat
  deriving Repr, Inhabited

/-- A document. -/
structure Document where
  nodes : Array Node
  deriving Repr, Inhabited

/-- Namespaces by their labels, the innermost first; no label for the one of plain names. -/
abbrev Scope := List (Option String × String)

namespace Scope

/-- The namespaces of a document's outside. -/
def outside : Scope := [(some "xml", "http://www.w3.org/XML/1998/namespace")]

/-- The namespace with a label. -/
def find? (s : Scope) (label : Option String) : Option String := s.lookup label

/-- The namespaces that can be named, each label once. -/
def bindings (s : Scope) : List (String × String) :=
  (s.foldr (fun p l => p :: l.filter (·.1 != p.1)) []).filterMap fun (label, space) =>
    if space.isEmpty then none else some (label.getD "", space)

end Scope

/-- The namespace that an attribute declares, if it declares one. -/
def Attribute.declares? (a : Attribute) : Option (Option String × String) :=
  match a.name with
  | ⟨some "xmlns", label⟩ => some (some label, a.value)
  | ⟨none, "xmlns"⟩ => some (none, a.value)
  | _ => none

/-- A document that is being read. -/
structure Draft where
  nodes : Array Node
  /-- The elements that are open, the innermost first, with their namespaces. -/
  opened : List (Nat × Name × Scope)
  /-- Whether the outermost element has begun. -/
  begun : Bool

namespace Draft

/-- A document with nothing in its root. -/
def start : Draft := ⟨#[⟨.root, none, 0⟩], [], false⟩

/-- Whether no element is open. -/
def isOutside (d : Draft) : Bool := d.opened.isEmpty

/-- The node that holds what is read next. -/
def parent (d : Draft) : Nat := (d.opened.head?.map (·.1)).getD 0

/-- The namespaces where reading is. -/
def scope (d : Draft) : Scope := (d.opened.head?.map (·.2.2)).getD .outside

/-- Adds a node that has nothing inside. -/
def push (d : Draft) (parent : Nat) (k : Kind) : Draft :=
  { d with nodes := d.nodes.push ⟨k, some parent, d.nodes.size + 1⟩ }

/-- Says that all nodes inside a node have been read. -/
def close (d : Draft) (i : Nat) : Draft :=
  { d with nodes := d.nodes.modify i fun n => { n with stop := d.nodes.size } }

/-- The namespace of an element's name. -/
def spaceOf? (scope : Scope) (n : Name) : Option (Option String) :=
  match n.qualifier with
  | none => some ((scope.find? none).filter (!·.isEmpty))
  | some q => (scope.find? (some q)).map some

/-- The node of an attribute. Plain names of attributes belong to no namespace. -/
def attributeKind? (scope : Scope) (a : Attribute) : Option Kind := do
  let space ← match a.name.qualifier with
    | none => some none
    | some q => (scope.find? (some q)).map some
  return .attribute a.name space a.value

/-- Adds an element. Its attributes differ in their names, no label stands for an empty namespace,
and every qualifier in its tag is known. -/
def open? (d : Draft) (name : Name) (l : List Attribute) (empty : Bool) : Option Draft := do
  if !(l.map (·.name)).Nodup then none
  let declared := l.filterMap Attribute.declares?
  if declared.any fun p => p.1.isSome && p.2.isEmpty then none
  let scope : Scope := declared.reverse ++ d.scope
  let kind : Kind := .element name (← spaceOf? scope name)
  let own ← (l.filter (·.declares?.isNone)).mapM (attributeKind? scope)
  let i := d.nodes.size
  let d := d.push d.parent kind
  let d := scope.bindings.foldl (fun d p => d.push i (.binding p.1 p.2)) d
  let d := own.foldl (fun d k => d.push i k) d
  if empty then some { d.close i with begun := true }
  else some { d with opened := (i, name, scope) :: d.opened, begun := true }

/-- Adds a piece of markup. Outside the outermost element, of which there is one, only comments and
instructions stand. -/
def add? (d : Draft) : Markup → Option Draft
  | .opens name l empty => if d.isOutside && d.begun then none else d.open? name l empty
  | .closes name =>
    match d.opened with
    | (i, n, _) :: outer => if n = name then some { d.close i with opened := outer } else none
    | [] => none
  | .text s => if d.isOutside then none else some (d.push d.parent (.text s))
  | .comment s => some (d.push d.parent (.comment s))
  | .instruction t v => some (d.push d.parent (.instruction t v))

/-- The next step of reading: a document type, where none has begun, or a piece of markup. -/
def next? (d : Draft) (l : List Char) : Option (Draft × List Char) :=
  match (if d.begun then none else doctype? l) with
  | some r => some (d, r)
  | none => do
    let (m, r) ← Markup.read? l
    return (← d.add? m, r)

/-- The document, once its outermost element has ended. -/
def finish? (d : Draft) : Option Document :=
  if d.isOutside && d.begun then some ⟨(d.close 0).nodes⟩ else none

/-- Reads the rest of a document. -/
def read? (d : Draft) (l : List Char) : Option Document :=
  match (if d.isOutside then skipSpace l else l) with
  | [] => d.finish?
  | c :: t =>
    match d.next? (c :: t) with
    | some (d, r) => if r.length < l.length then d.read? r else none
    | none => none
termination_by l.length

end Draft

namespace Document

/-- **The document that a text writes**, if it is well-formed. -/
def read? (s : String) : Option Document :=
  Draft.start.read? ((declaration? s.toList).getD s.toList)

/-- The node with a number. -/
def node (d : Document) (i : Nat) : Node := d.nodes.getD i ⟨.root, none, 0⟩

/-- Whether a node is content: neither an attribute nor a namespace. -/
def isContent (d : Document) (i : Nat) : Bool :=
  match (d.node i).kind with
  | .attribute .. | .binding .. => false
  | _ => true

/-- The numbers from `a` up to but not including `b`. -/
def between (a b : Nat) : List Nat := (List.range (b - a)).map (· + a)

/-- The nodes around a node, the nearest first. -/
def ancestors (d : Document) (i : Nat) : List Nat :=
  match (d.node i).parent with
  | none => []
  | some p => if p < i then p :: d.ancestors p else []
termination_by i

/-- The content inside a node. -/
def descendants (d : Document) (i : Nat) : List Nat :=
  (between (i + 1) (d.node i).stop).filter d.isContent

/-- The content directly inside a node. -/
def children (d : Document) (i : Nat) : List Nat :=
  (d.descendants i).filter fun j => (d.node j).parent == some i

/-- The attributes of a node. -/
def attributes (d : Document) (i : Nat) : List Nat :=
  (between (i + 1) (d.node i).stop).filter fun j =>
    (d.node j).parent == some i && (match (d.node j).kind with | .attribute .. => true | _ => false)

/-- The namespaces that can be named at a node. -/
def bindings (d : Document) (i : Nat) : List Nat :=
  (between (i + 1) (d.node i).stop).filter fun j =>
    (d.node j).parent == some i && (match (d.node j).kind with | .binding .. => true | _ => false)

/-- The content behind a node, none of it inside. -/
def following (d : Document) (i : Nat) : List Nat :=
  (between (d.node i).stop d.nodes.size).filter d.isContent

/-- The content before a node, none of it around the node, the nearest first. -/
def preceding (d : Document) (i : Nat) : List Nat :=
  ((List.range i).filter fun j => d.isContent j && (d.node j).stop ≤ i).reverse

/-- The text of a node: all the texts inside it, or its value. -/
def textOf (d : Document) (i : Nat) : String :=
  match (d.node i).kind with
  | .root | .element .. =>
    String.join ((d.descendants i).map fun j =>
      match (d.node j).kind with
      | .text s => s
      | _ => "")
  | .attribute _ _ s | .binding _ s | .text s | .comment s | .instruction _ s => s

end Document

end HttpScript.Xml
