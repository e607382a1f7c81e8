import HttpScript.Bytes.Utf8

/-! # Files

`Files` is what reading a path gives. `Files.ofList` holds a tree of files in memory, under the
directory in which paths begin. `Path.join` leads from a directory to a path inside it. -/

namespace HttpScript

namespace Path

/-- The path of `name` seen from the directory `root`. An absolute name stays as it is. -/
def join (root name : String) : String :=
  if name.toList.head? = some '/' ∨ root = "" then name
  else if root.toList.getLast? = some '/' then root ++ name
  else root ++ "/" ++ name

/-- The names in a path that lead somewhere else. -/
def names (path : String) : List String :=
  ((path.toList.splitOn '/').map String.ofList).filter fun n => n != "" && n != "."

/-- Whether a path can only name a directory. -/
def endsInDirectory (path : String) : Bool :=
  match (path.toList.splitOn '/').getLast? with
  | some l => l.isEmpty || l == ['.']
  | none => false

end Path

/-- Why a file cannot be read or written. -/
inductive FileFault
  | missing
  | denied
  | notDirectory
  | directory
  | longName
  /-- There is a character in a path that no path can hold. -/
  | nul
  /-- The file holds no text. -/
  | notText
  | other (reason : String)
  deriving DecidableEq, Repr

/-- The wording of a fault. -/
def FileFault.message : FileFault → String
  | missing => "No such file or directory (os error 2)"
  | denied => "Permission denied (os error 13)"
  | notDirectory => "Not a directory (os error 20)"
  | directory => "Is a directory (os error 21)"
  | longName => "File name too long (os error 36)"
  | nul => "file name contained an unexpected NUL byte"
  | notText => "stream did not contain valid UTF-8"
  | other reason => reason

/-- What reading a path gives. -/
structure Files where
  read : String → Except FileFault (List UInt8)

namespace Files

/-- The text in a file. -/
def readText (f : Files) (path : String) : Except FileFault String := do
  match Bytes.Utf8.decode? (← f.read path) with
  | some s => .ok s
  | none => .error .notText

/-- A tree of files: the names that lead to each. -/
abbrev Tree := List (List String × List UInt8)

/-- What is at a place in a tree. -/
inductive Entry
  | file (content : List UInt8)
  | directory
  deriving DecidableEq, Repr

namespace Tree

/-- What is at a place, if anything is. -/
def entry? (t : Tree) (place : List String) : Option Entry :=
  match t.lookup place with
  | some content => some (.file content)
  | none => if place.isEmpty || t.any (fun f => place.isPrefixOf f.1) then some .directory else none

/-- Follows names from a directory. -/
def follow (t : Tree) (place : List String) : List String → Except FileFault (List String)
  | [] => .ok place
  | n :: l =>
    if 255 < n.utf8ByteSize then .error .longName
    else if n = ".." then follow t place.dropLast l
    else
      match t.entry? (place ++ [n]) with
      | none => .error .missing
      | some .directory => follow t (place ++ [n]) l
      | some (.file _) => if l.isEmpty then .ok (place ++ [n]) else .error .notDirectory

/-- What reading a path in a tree gives. Nothing is known of what lies outside. -/
def read (t : Tree) (path : String) : Except FileFault (List UInt8) := do
  if path.toList.contains '\x00' then throw .nul
  if path = "" then throw .missing
  if path.toList.head? = some '/' then
    throw (if (Path.names path).isEmpty then .directory else .missing)
  let place ← t.follow [] (Path.names path)
  match t.entry? place with
  | some (.file content) =>
    if Path.endsInDirectory path then throw .notDirectory else return content
  | _ => throw .directory

/-- The tree behind writing a file. The directory of the file has to be there. -/
def write (t : Tree) (path : String) (content : List UInt8) : Except FileFault Tree := do
  if path.toList.contains '\x00' then throw .nul
  if path = "" then throw .missing
  if path.toList.head? = some '/' then throw .missing
  let names := Path.names path
  let directory ← t.follow [] names.dropLast
  match names.getLast? with
  | none | some ".." => throw .directory
  | some name =>
    if 255 < name.utf8ByteSize then throw .longName
    let place := directory ++ [name]
    match t.entry? directory, t.entry? place with
    | some (.file _), _ => throw .notDirectory
    | _, some .directory => throw .directory
    | _, some (.file _) =>
      if Path.endsInDirectory path then throw .notDirectory
      else return t.map fun f => if f.1 = place then (place, content) else f
    | _, none =>
      if Path.endsInDirectory path then throw .directory else return t ++ [(place, content)]

end Tree

/-- The tree with files at paths. -/
def Tree.ofList (l : List (String × List UInt8)) : Tree :=
  l.map fun (path, content) => (Path.names path, content)

/-- A tree of files in memory, given by paths. -/
def ofList (l : List (String × List UInt8)) : Files := ⟨(Tree.ofList l).read⟩

end Files

end HttpScript
