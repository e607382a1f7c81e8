import HttpScript.Pattern.Match

/-! # Engines

What patterns are read and searched for with is an `Engine`: it accepts texts as patterns and finds
them in other texts. `Engine.of` reads the patterns of a dialect and searches as `Node.search`
does. -/

namespace HttpScript.Pattern

/-- **What patterns are read and searched for with.** -/
structure Engine where
  /-- An accepted pattern. -/
  Compiled : Type
  compile : String → Option Compiled
  /-- What the first group captures of the match that is found in a text. -/
  search : Compiled → List Char → Option Capture

namespace Engine

/-- The engine for the patterns of a dialect. -/
def of (D : Dialect) : Engine := ⟨Node, D.read?, Node.search⟩

/-- The engine for the patterns of the standard dialect. -/
def standard : Engine := of .standard

/-- The text that the first group captures of the match that is found. -/
def firstGroup? (E : Engine) (p : E.Compiled) (text : String) : Option String :=
  match E.search p text.toList with
  | some ⟨some a, some b⟩ => some (.ofList ((text.toList.drop a).take (b - a)))
  | _ => none

end Engine

/-- The text of a pattern that has to match a whole text. -/
def wholeText (pattern : String) : String := "^(?:" ++ pattern ++ ")$"

end HttpScript.Pattern
