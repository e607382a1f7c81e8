import HttpScript.Bytes.Utf8

/-! # Media types

The form of a media type: two words with a slash between them, and parameters behind semicolons
whose values are words or quoted. `isMediaType` says whether a text has it. -/

namespace HttpScript.Http

/-- A character of the words that the protocol is made of. -/
def isTokenChar (c : Char) : Bool :=
  c.isAlphanum ||
    ['!', '#', '$', '%', '&', '\'', '*', '+', '-', '.', '^', '_', '\x60', '|', '~'].contains c

/-- A character of a quoted value. Characters beyond ASCII are allowed. -/
def isQuotedChar (c : Char) : Bool := 31 < c.toNat && c.toNat != 127

/-- The rest behind a quoted value: the next parameter, or nothing. -/
def afterQuoted? : List Char → Option (List Char)
  | [] => some []
  | ' ' :: l => afterQuoted? l
  | ';' :: l => some l
  | _ => none

/-- The rest behind a value. A quotation mark does not end an empty quoted value. -/
def afterValue? : List Char → Option (List Char)
  | '"' :: c :: l =>
    if isQuotedChar c then
      match l.dropWhile fun c => isQuotedChar c && c != '"' with
      | '"' :: l => afterQuoted? l
      | _ => none
    else none
  | l =>
    let word := l.takeWhile isTokenChar
    match l.dropWhile isTokenChar with
    | [] => some []
    | ';' :: r => if word.isEmpty then none else some r
    | _ => none

/-- Whether a text is a list of parameters. -/
def areParameters (l : List Char) : Bool :=
  match l.dropWhile (· == ' ') with
  | [] => true
  | c :: t =>
    if !isTokenChar c then false
    else
      match (c :: t).dropWhile isTokenChar with
      | '=' :: r =>
        match afterValue? r with
        | some rest => if rest.length < l.length then areParameters rest else false
        | none => false
      | _ => false
termination_by l.length

/-- **Whether a text is a media type.** -/
def isMediaType (s : String) : Bool :=
  s == "*/*" ||
    (let l := s.toList
     match l.takeWhile isTokenChar, l.dropWhile isTokenChar with
     | _ :: _, '/' :: r =>
       match r.takeWhile isTokenChar, r.dropWhile isTokenChar with
       | _, [] => true
       | _ :: _, ';' :: parameters => areParameters parameters
       | _, _ => false
     | _, _ => false)

end HttpScript.Http
