import HttpScript.Text.Split

/-! # Headers that set a cookie

`SetCookie.read?` reads the value of a `Set-Cookie` header: a name and a value, and attributes with
or without a value. -/

namespace HttpScript

/-- The value of a `Set-Cookie` header. -/
structure SetCookie where
  name : String
  value : String
  /-- The attributes in order, their names in lower case. -/
  attributes : List (String × Option String)
  deriving DecidableEq, Repr, Inhabited

namespace SetCookie

/-- Whether a character is a quotation mark. -/
def isQuote (c : Char) : Bool := c == '"' || c == '\''

/-- A name or a value without white space and then without quotation marks at either end. -/
def unquote (l : List Char) : String := .ofList (Text.strip isQuote (Text.trim l))

/-- An attribute. -/
def attributeOf (l : List Char) : String × Option String :=
  match Text.splitOnce '=' l with
  | some (key, value) =>
    (.ofList (Text.lowered (Text.trim key)), some (.ofList (Text.trim value)))
  | none => (.ofList (Text.lowered (Text.trim l)), none)

/-- **Reads a header.** There is no cookie in it if the first pair has no `=`. -/
def read? (header : String) : Option SetCookie :=
  match header.toList.splitOn ';' with
  | [] => none
  | pair :: attributes => do
    let (name, value) ← Text.splitOnce '=' pair
    return ⟨unquote name, unquote value,
      (attributes.map attributeOf).filter fun a => a.1 != ""⟩

/-- The first attribute of a name: whether there is one, and its value if it has one. -/
def attribute? (c : SetCookie) (name : String) : Option (Option String) :=
  (c.attributes.find? (·.1 == name)).map (·.2)

/-- The value of the first attribute of a name. -/
def attributeValue? (c : SetCookie) (name : String) : Option String := (c.attribute? name).join

end SetCookie

end HttpScript
