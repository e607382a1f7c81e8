import HttpScript.Text.Property

/-! # Characters made visible

A character quoted in a message is written so that it can be seen: the quotes and the backslash
behind a backslash, the usual controls by their letter, and characters that have no glyph of their
own, or that would be drawn onto the quote before them, by their code point. -/

namespace HttpScript.Text

/-- The code point of `c` in braces, in lower-case hexadecimal digits. -/
def codePoint (c : Char) : List Char :=
  ['\\', 'u', '\x7b'] ++ Nat.toDigits 16 c.toNat ++ ['\x7d']

/-- The visible form of a character. -/
def visible (c : Char) : List Char :=
  if c = '\x00' then ['\\', '0']
  else if c = '\t' then ['\\', 't']
  else if c = '\r' then ['\\', 'r']
  else if c = '\n' then ['\\', 'n']
  else if c = '"' ∨ c = '\'' ∨ c = '\\' then ['\\', c]
  else if extendsGrapheme c || isHidden c then codePoint c
  else [c]

end HttpScript.Text
