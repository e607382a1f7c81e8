import HttpScript.Text.Ranges
import HttpScript.Xml.Name

/-! # Markup

A document is read one piece of `Markup` at a time: a tag, a text, a comment or an instruction.
`Markup.read?` reads the piece at the start of a text and gives the rest. References are resolved
here, so a reference is a text of its own. -/

namespace HttpScript.Xml

open Text (hexNumber hexValue?)

/-- An attribute of a start tag. -/
structure Attribute where
  name : Name
  value : String
  deriving DecidableEq, Repr, Inhabited

/-- A piece of markup. -/
inductive Markup
  /-- A start tag; `empty` if it is the whole element. -/
  | opens (name : Name) (attributes : List Attribute) (empty : Bool)
  | closes (name : Name)
  | text (s : String)
  | comment (s : String)
  | instruction (target value : String)
  deriving Repr, Inhabited

/-- The rest of a text behind a literal that it starts with. -/
def after? (literal : String) (l : List Char) : Option (List Char) :=
  if literal.toList.isPrefixOf l then some (l.drop literal.length) else none

/-- The parts of a text before and behind the first place of `needle`. -/
def cutAt? (needle : List Char) : List Char → Option (List Char × List Char)
  | [] => none
  | c :: l =>
    if needle.isPrefixOf (c :: l) then some ([], (c :: l).drop needle.length)
    else (cutAt? needle l).map fun (a, b) => (c :: a, b)

/-! ### References -/

/-- The character with a number, if there is one. -/
def charOf? (n : Nat) : Option Char :=
  if n < 0xD800 ∨ (0xDFFF < n ∧ n < 0x110000) then some (.ofNat n) else none

/-- The characters that have a name. -/
def named? : String → Option Char
  | "amp" => some '&'
  | "lt" => some '<'
  | "gt" => some '>'
  | "apos" => some '\''
  | "quot" => some '"'
  | _ => none

/-- The character that a reference stands for, given what is between `&` and `;`. -/
def referenced? : List Char → Option Char
  | '#' :: 'x' :: l =>
    if l.isEmpty || !l.all fun c => (hexValue? c).isSome then none else charOf? (hexNumber l)
  | '#' :: l =>
    if l.isEmpty || !l.all Char.isDigit then none
    else charOf? (l.foldl (fun n c => 10 * n + (c.toNat - '0'.toNat)) 0)
  | l => named? (.ofList l)

/-- A reference behind its `&`. -/
def reference? (l : List Char) : Option (Char × List Char) := do
  let (inner, r) ← cutAt? [';'] l
  return (← referenced? inner, r)

/-! ### Attributes -/

/-- The rest of an attribute's value, up to its closing quote. -/
def value? (quote : Char) (l : List Char) : Option (List Char × List Char) :=
  match l with
  | [] => none
  | c :: l =>
    if c = quote then some ([], l)
    else if c = '<' then none
    else if c = '&' then
      match reference? l with
      | none => none
      | some (d, r) =>
        if r.length < l.length + 1 then (value? quote r).map fun (v, r) => (d :: v, r) else none
    else (value? quote l).map fun (v, r) => (c :: v, r)
termination_by l.length

/-- A quoted text, in quotes of either kind. -/
def quoted? (content : Char → List Char → Option (List Char × List Char)) :
    List Char → Option (String × List Char)
  | c :: l =>
    if c = '"' ∨ c = '\'' then (content c l).map fun (v, r) => (.ofList v, r) else none
  | [] => none

/-- An equals sign with white space around it. -/
def equals? (l : List Char) : Option (List Char) := (after? "=" (skipSpace l)).map skipSpace

/-- An attribute. -/
def attribute? (l : List Char) : Option (Attribute × List Char) := do
  let (name, l) ← Name.read? l
  let (value, l) ← quoted? value? (← equals? l)
  return (⟨name, value⟩, l)

/-- The attributes of a tag, each behind white space, and the rest. -/
def attributes (l : List Char) : List Attribute × List Char :=
  match l with
  | [] => ([], [])
  | c :: t =>
    if isSpace c then
      match attribute? (skipSpace t) with
      | some (a, r) =>
        if r.length < t.length + 1 then
          let (more, r) := attributes r
          (a :: more, r)
        else ([], l)
      | none => ([], l)
    else ([], l)
termination_by l.length

/-! ### Pieces -/

/-- A start tag behind its `<`. -/
def opening? (l : List Char) : Option (Markup × List Char) := do
  let (name, l) ← Name.read? l
  let (attributes, l) := attributes l
  match skipSpace l with
  | '/' :: '>' :: r => some (.opens name attributes true, r)
  | '>' :: r => some (.opens name attributes false, r)
  | _ => none

/-- An end tag behind its `</`. -/
def closing? (l : List Char) : Option (Markup × List Char) := do
  let (name, l) ← Name.read? l
  return (.closes name, ← after? ">" (skipSpace l))

/-- A comment behind its `<!--`. It holds no two hyphens in a row. -/
def comment? (l : List Char) : Option (Markup × List Char) := do
  let (content, l) ← cutAt? ['-', '-'] l
  return (.comment (.ofList content), ← after? ">" l)

/-- A word in which colons may stand. -/
def target? : List Char → Option (String × List Char)
  | [] => none
  | c :: l =>
    let inside (d : Char) := inWord d || d == ':'
    if startsWord c || c == ':' then
      some (.ofList (c :: l.takeWhile inside), l.dropWhile inside)
    else none

/-- An instruction behind its `<?`. The target that begins a document is not allowed again. -/
def instruction? (l : List Char) : Option (Markup × List Char) := do
  let (target, l) ← target? l
  if target.toList.map Char.toLower = "xml".toList then none
  else match l with
    | '?' :: '>' :: r => some (.instruction target "", r)
    | c :: _ =>
      if isSpace c then
        let (value, r) ← cutAt? ['?', '>'] (skipSpace l)
        some (.instruction target (.ofList value), r)
      else none
    | [] => none

/-- Character data, up to a tag, a reference or the end of a data section. -/
def data : List Char → List Char × List Char
  | [] => ([], [])
  | c :: l =>
    if c = '<' ∨ c = '&' ∨ [']', ']', '>'].isPrefixOf (c :: l) then ([], c :: l)
    else
      let (d, r) := data l
      (c :: d, r)

/-- **The piece of markup at the start of a text**, and the rest. -/
def Markup.read? : List Char → Option (Markup × List Char)
  | '<' :: '!' :: '-' :: '-' :: l => comment? l
  | '<' :: '!' :: l => do
    let (s, r) ← cutAt? [']', ']', '>'] (← after? "[CDATA[" l)
    return (.text (.ofList s), r)
  | '<' :: '?' :: l => instruction? l
  | '<' :: '/' :: l => closing? l
  | '<' :: l => opening? l
  | '&' :: l => (reference? l).map fun (c, r) => (.text (.singleton c), r)
  | l =>
    let (s, r) := data l
    if s.isEmpty then none else some (.text (.ofList s), r)

/-! ### What stands before the first tag -/

/-- A quoted text without references. -/
def plain? (quote : Char) (l : List Char) : Option (List Char × List Char) := cutAt? [quote] l

/-- A version number. -/
def isVersion (s : String) : Bool :=
  match s.toList with
  | '1' :: '.' :: l => !l.isEmpty && l.all Char.isDigit
  | _ => false

/-- The name of an encoding. -/
def isEncoding (s : String) : Bool :=
  match s.toList with
  | c :: l => c.isAlpha && l.all fun d => d.isAlphanum || d == '.' || d == '_' || d == '-'
  | [] => false

/-- A setting of the declaration that begins a document, behind white space. -/
def setting? (name : String) (accepts : String → Bool) : List Char → Option (List Char)
  | c :: l => do
    if !isSpace c then none
    let (value, r) ← quoted? plain? (← equals? (← after? name (skipSpace l)))
    if accepts value then some r else none
  | [] => none

/-- The rest of a document behind the declaration that begins it. -/
def declaration? (l : List Char) : Option (List Char) := do
  let l ← setting? "version" isVersion (← after? "<?xml" l)
  let l := (setting? "encoding" isEncoding l).getD l
  let l := (setting? "standalone" (fun s => s == "yes" || s == "no") l).getD l
  after? "?>" (skipSpace l)

/-- The rest of a text behind the keyword of an outer document type and a public identifier. -/
def kindOfOuter? (l : List Char) : Option (List Char) :=
  match after? "SYSTEM" l with
  | some l => some l
  | none => ((after? "PUBLIC" l).bind fun l => quoted? plain? (skipSpace l)).map (·.2)

/-- The address of an outer document type, behind white space. -/
def outer? : List Char → Option (List Char)
  | c :: l => do
    if !isSpace c then none
    return (← quoted? plain? (skipSpace (← kindOfOuter? (skipSpace l)))).2
  | [] => none

/-- Declarations between brackets. They are not looked into. -/
def inner? (l : List Char) : Option (List Char) := do
  return (← cutAt? [']'] (← after? "[" (skipSpace l))).2

/-- The rest of a document behind a document type. -/
def doctype? (l : List Char) : Option (List Char) := do
  let l ← after? "<!DOCTYPE" l
  let (_, l) ← target? (skipSpace l)
  let l := (outer? l).getD l
  let l := (inner? l).getD l
  after? ">" (skipSpace l)

end HttpScript.Xml
