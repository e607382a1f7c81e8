/-! # Texts inside texts

Whether a text begins with another or holds it somewhere, on lists of characters. -/

namespace HttpScript.Text

/-- Whether `part` stands somewhere in a text. -/
def hasInfix (part : List Char) : List Char → Bool
  | [] => part.isEmpty
  | c :: l => part.isPrefixOf (c :: l) || hasInfix part l

/-- Whether a text begins with `part`. -/
def startsWith (text part : String) : Bool := part.toList.isPrefixOf text.toList

/-- Whether a text holds `part` somewhere. -/
def contains (text part : String) : Bool := hasInfix part.toList text.toList

end HttpScript.Text
