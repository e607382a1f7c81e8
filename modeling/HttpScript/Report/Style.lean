/-! # Styled text

A `Style` is put around a text by the codes that terminals understand, unless output is to be
plain. -/

namespace HttpScript.Report

/-- How a text is shown. -/
inductive Style
  | bold | boldRed | boldGreen | boldBlue | yellow | cyan | dim
  deriving DecidableEq, Repr, Inhabited

/-- The code that ends every style. -/
def resetCode : String := "\x1b[0m"

/-- The codes that begin a style. -/
def Style.codes : Style → String
  | bold => "\x1b[1m"
  | boldRed => "\x1b[1m\x1b[31m"
  | boldGreen => "\x1b[1m\x1b[32m"
  | boldBlue => "\x1b[1m\x1b[34m"
  | yellow => "\x1b[33m"
  | cyan => "\x1b[36m"
  | dim => "\x1b[90m"

/-- A text in a style, if colours are wanted. -/
def paint (style : Style) (colored : Bool) (text : String) : String :=
  if colored then style.codes ++ text ++ resetCode else text

end HttpScript.Report
