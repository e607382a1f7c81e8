import HttpScript.Url.Basic

/-! # Reading URLs

`Url.read?` reads an absolute URL and `Url.join?` a reference that is relative to one. A reading
goes through the parts in order: the scheme; the user, host and port; the path, in which the
segments `.` and `..` are carried out; the query and the fragment. In a URL with a special scheme a
backslash counts as a slash. -/

namespace HttpScript.Url

/-- What is cut off at either end of a URL. -/
def isMargin (c : Char) : Bool := c.toNat ≤ 0x20

/-- A text without margins, tabs and line breaks. -/
def clean (s : String) : List Char :=
  let l := ((s.toList.dropWhile isMargin).reverse.dropWhile isMargin).reverse
  l.filter fun c => !(c == '\t' || c == '\n' || c == '\r')

/-- The scheme at the start of a text, in small letters, and what follows its colon. -/
def scheme? (l : List Char) : Option (String × List Char) :=
  let name := l.takeWhile fun c => c.isAlphanum || c == '+' || c == '-' || c == '.'
  match name, l.drop name.length with
  | c :: _, ':' :: rest => if c.isAlpha then some (.ofList (name.map Char.toLower), rest) else none
  | _, _ => none

/-- Whether a character counts as a slash. -/
def isSlash (special : Bool) (c : Char) : Bool := c == '/' || (special && c == '\\')

/-- Whether a character ends an authority. -/
def endsAuthority (special : Bool) (c : Char) : Bool := isSlash special c || c == '?' || c == '#'

/-- Cuts a text at the first of some characters, which stays with the second part. -/
def cutAt (p : Char → Bool) (l : List Char) : List Char × List Char :=
  (l.takeWhile fun c => !p c, l.dropWhile fun c => !p c)

/-- Cuts a text at the last `@`. -/
def cutUser (l : List Char) : Option (List Char × List Char) :=
  match cutAt (· == '@') l.reverse with
  | (_, []) => none
  | (host, _ :: user) => some (user.reverse, host.reverse)

/-- Cuts a host and a port at the first colon outside brackets. -/
def cutPort (bracket : Bool) : List Char → List Char × Option (List Char)
  | [] => ([], none)
  | c :: l =>
    if c == ':' && !bracket then ([], some l)
    else
      let bracket := if c == '[' then true else if c == ']' then false else bracket
      let (host, port) := cutPort bracket l
      (c :: host, port)

/-- Reads a port; the one that the scheme stands for is left out. -/
def port? (scheme : String) : Option (List Char) → Option (Option Nat)
  | none | some [] => some none
  | some l =>
    if l.all Char.isDigit then
      let n := l.foldl (fun n c => 10 * n + (c.toNat - 48)) 0
      if 65535 < n then none
      else some (if defaultPort scheme = some n then none else some n)
    else none

/-! ### Paths -/

/-- Whether a segment stands for its own directory. -/
def isDot (l : List Char) : Bool := [".", "%2e"].contains (String.ofList (l.map Char.toLower))

/-- Whether a segment stands for the directory above. -/
def isDoubleDot (l : List Char) : Bool :=
  ["..", ".%2e", "%2e.", "%2e%2e"].contains (String.ofList (l.map Char.toLower))

/-- Carries out segments; `reversed` holds those that are in force, the last one first. -/
def walk : List String → List (List Char) → List String
  | reversed, [] => reversed.reverse
  | reversed, s :: l =>
    let stay := fun (r : List String) => walk (if l.isEmpty then "" :: r else r) l
    if isDoubleDot s then stay reversed.tail
    else if isDot s then stay reversed
    else walk (.ofList (percentEncode inPath s) :: reversed) l

/-- Cuts a text into the pieces between slashes. -/
def pieces (special : Bool) (l : List Char) : List (List Char) := l.splitOnP (isSlash special)

/-- Reads a path whose first slash has been passed, behind the segments of a directory. -/
def pathIn (special : Bool) (directory : List String) (l : List Char) : Path :=
  .segments (walk directory.reverse (pieces special l))

/-! ### The end of a URL -/

/-- Reads a fragment. -/
def fragment? : List Char → Option String
  | '#' :: l => some (.ofList (percentEncode inFragment l))
  | _ => none

/-- Reads a query and a fragment into a URL. -/
def tail (u : Url) (l : List Char) : Url :=
  match l with
  | '?' :: l =>
    let (query, l) := cutAt (· == '#') l
    let set := if isSpecial u.scheme then inSpecialQuery else inQuery
    { u with query := some (.ofList (percentEncode set query)), fragment := fragment? l }
  | l => { u with query := none, fragment := fragment? l }

/-- Reads a path that may be missing, a query and a fragment into a URL with an authority. -/
def pathAndTail (u : Url) (l : List Char) : Url :=
  let special := isSpecial u.scheme
  let (p, l) := cutAt (fun c => c == '?' || c == '#') l
  match p with
  | [] => tail { u with path := .segments (if special then [""] else []) } l
  | c :: rest =>
    tail { u with path := pathIn special [] (if isSlash special c then rest else p) } l

/-- Reads what follows the two slashes before an authority. -/
def authority? (scheme : String) (l : List Char) : Option Url := do
  let special := isSpecial scheme
  let (authority, l) := cutAt (endsAuthority special) l
  let (user, address) := match cutUser authority with
    | some (user, address) => (some user, address)
    | none => (none, authority)
  let (name, password) := cutAt (· == ':') (user.getD [])
  let (host, port) := cutPort false address
  if host.isEmpty ∧ (special ∨ user.isSome ∨ port.isSome) then none
  let host ← if special then Host.read? host else Host.readOpaque? host
  let port ← port? scheme port
  let username := String.ofList (percentEncode inUser name)
  let password := String.ofList (percentEncode inUser (password.drop 1))
  return pathAndTail ⟨scheme, username, password, some host, port, .segments [], none, none⟩ l

/-- Reads what follows the scheme of a file. -/
def file? (l : List Char) : Option Url := do
  let read := fun (host : Host) (l : List Char) =>
    pathAndTail ⟨"file", "", "", some host, none, .segments [], none, none⟩ l
  match l with
  | a :: b :: l =>
    if isSlash true a ∧ isSlash true b then
      let (host, l) := cutAt (endsAuthority true) l
      if host.isEmpty then return read (.domain "") l
      let host ← Host.read? host
      return read (if host = .domain "localhost" then .domain "" else host) l
    else return read (.domain "") (a :: b :: l)
  | l => return read (.domain "") l

/-- Reads what follows a scheme. -/
def afterScheme? (scheme : String) (l : List Char) : Option Url :=
  if scheme = "file" then file? l
  else if isSpecial scheme then authority? scheme (l.dropWhile (isSlash true))
  else
    let plain : Url := ⟨scheme, "", "", none, none, .segments [], none, none⟩
    match l with
    | '/' :: '/' :: l => authority? scheme l
    | '/' :: _ => some (pathAndTail plain l)
    | l =>
      let (p, l) := cutAt (fun c => c == '?' || c == '#') l
      some (tail { plain with path := .whole (.ofList (percentEncode isControl p)) } l)

/-! ### Absolute and relative URLs -/

/-- **Reads an absolute URL.** -/
def read? (s : String) : Option Url := do
  let (scheme, l) ← scheme? (clean s)
  afterScheme? scheme l

/-- Reads a reference without a scheme. -/
def relative? (base : Url) (l : List Char) : Option Url :=
  let special := isSpecial base.scheme
  match base.path, l with
  | _, [] => some { base with fragment := none }
  | _, '#' :: _ => some { base with fragment := fragment? l }
  | .whole _, _ => none
  | .segments directory, c :: rest =>
    if c == '?' then some (tail base l)
    else if isSlash special c then
      match rest with
      | d :: after =>
        if isSlash special d then
          if base.scheme = "file" then file? l
          else authority? base.scheme (if special then after.dropWhile (isSlash true) else after)
        else some (pathAndTail base l)
      | [] => some (pathAndTail base l)
    else
      let (p, l) := cutAt (fun c => c == '?' || c == '#') l
      some (tail { base with path := pathIn special directory.dropLast p } l)

/-- **Reads a reference** that is relative to a URL, unless it has a scheme of its own. -/
def join? (base : Url) (s : String) : Option Url :=
  let l := clean s
  match scheme? l with
  | none => relative? base l
  | some (scheme, l) =>
    if scheme = base.scheme ∧ isSpecial scheme ∧ (l.takeWhile (isSlash true)).length < 2 then
      if scheme = "file" ∧ l.head?.any (isSlash true) then file? l else relative? base l
    else afterScheme? scheme l

end HttpScript.Url
