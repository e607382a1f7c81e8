import HttpScript.CommandLine.Argument
import HttpScript.Files
import HttpScript.Http.Hop
import HttpScript.Properties
import HttpScript.Value.Variables

/-! # Options

What the command line asks for. `Options.read` reads it; the variables that scripts begin with come
from a property file and from definitions, which count more. -/

namespace HttpScript.CommandLine

/-- What the command line asks for. -/
structure Options where
  files : List String
  verbose : Bool
  client : Http.ClientOptions
  /-- Definitions of variables, as they were given. -/
  definitions : List String
  variablesFile : Option String
  fileRoot : Option String
  /-- Whether the head of a response is written too. -/
  includeHead : Bool
  toEntry : Option Nat
  output : Option String
  test : Bool
  json : Option String
  /-- Whether output is to be coloured, if that was said. -/
  color : Option Bool
  deriving DecidableEq, Repr, Inhabited

namespace Given

/-- The value of a setting. -/
def value? (g : Given) (s : Setting) : Option String := g.settings.lookup s

/-- All values of a setting. -/
def values (g : Given) (s : Setting) : List String :=
  (g.settings.filter (·.1 = s)).map (·.2)

/-- The value of a setting as a number. -/
def number? (g : Given) (s : Setting) : Option Nat :=
  (g.value? s).bind fun v => Decimal.nat64? v.toList

/-- Whether a switch was given. -/
def has (g : Given) (s : Switch) : Bool := g.switches.contains s

end Given

/-- A path in which `~` at the start stands for a directory. -/
def expand (home : Option String) (path : String) : String :=
  match path.toList, home with
  | ['~'], some h => h
  | '~' :: '/' :: l, some h => h ++ "/" ++ .ofList l
  | _, _ => path

namespace Options

/-- The options that were given. -/
def ofGiven (home : Option String) (g : Given) : Options where
  files := g.files
  verbose := g.has .verbose
  client :=
    { proxy := g.value? .proxy
      insecure := g.has .insecure
      followLocation := g.has .location
      user := g.value? .user
      connectTimeout := (g.number? .connectTimeout).getD Settings.connectTimeout
      maxTime := g.number? .maxTime
      compressed := g.has .compressed }
  definitions := g.values .variableValue
  variablesFile := (g.value? .variablesFile).map (expand home)
  fileRoot := (g.value? .fileRoot).map (expand home)
  includeHead := g.has .head
  toEntry := g.number? .toEntry
  output := (g.value? .output).map (expand home)
  test := g.has .test
  json := (g.value? .json).map (expand home)
  color := if g.has .color then some true else if g.has .noColor then some false else none

/-- **Reads a command line**, given the directory that `~` stands for. -/
def read (home : Option String) (l : List String) : Except Refusal Options :=
  (CommandLine.read l).map (ofGiven home)

end Options

/-! ### Variables -/

/-- Why there are no variables to begin with. -/
inductive VariablesFault
  | unreadable (path : String) (fault : FileFault)
  | malformed (path : String) (fault : Properties.Fault)
  | noValue (definition : String)
  | noName (definition : String)
  deriving DecidableEq, Repr

namespace VariablesFault

/-- What failed. -/
def summary : VariablesFault → String
  | unreadable path _ | malformed path _ => "Failed to read variables file " ++ path
  | noValue definition => "Invalid variable '" ++ definition ++ "', expected NAME=VALUE"
  | noName definition => "Invalid variable '" ++ definition ++ "', name is empty"

/-- What failed and why. -/
def message (e : VariablesFault) : String :=
  match e with
  | unreadable _ fault => e.summary ++ ": " ++ fault.message
  | malformed _ fault => e.summary ++ ": " ++ fault.message
  | _ => e.summary

end VariablesFault

/-- The names and values in a property file. -/
def readProperties (path : String) (content : Except FileFault (List UInt8)) :
    Except VariablesFault (List (String × String)) := do
  let bytes ← content.mapError (.unreadable path)
  match Bytes.Utf8.decode? bytes with
  | some s => (Properties.read s).mapError (.malformed path)
  | none => throw (.unreadable path .notText)

/-- The name and value of a definition. -/
def readDefinition (s : String) : Except VariablesFault (String × String) :=
  match Text.splitOnce '=' s.toList with
  | none => .error (.noValue s)
  | some ([], _) => .error (.noName s)
  | some (name, value) => .ok (.ofList name, .ofList value)

/-- **The variables that scripts begin with**, given what reading the property file gave, where one
was named. -/
def Options.initialVariables (o : Options) (content : String → Except FileFault (List UInt8)) :
    Except VariablesFault Variables := do
  let properties ← match o.variablesFile with
    | some path => readProperties path (content path)
    | none => .ok []
  return .ofStrings (properties ++ (← o.definitions.mapM readDefinition))

/-! ### Files of a script -/

/-- The names in a path, without those at its end that lead nowhere. -/
def trimPath (rooted : Bool) : List (List Char) → List (List Char)
  | [] => []
  | n :: l =>
    if n.isEmpty || (n == ['.'] && (rooted || !l.isEmpty)) then trimPath rooted l else n :: l

/-- The directory that a file is in. -/
def directoryOf (path : String) : String :=
  let (root, body) := match path.toList with
    | '/' :: l => ("/", l)
    | l => ("", l)
  let rooted := !root.isEmpty
  match trimPath rooted (body.splitOn '/').reverse with
  | [] => "."
  | _ :: l =>
    let directory := root ++ .ofList (['/'].intercalate (trimPath rooted l).reverse)
    if directory.isEmpty then "." else directory

/-- The directory in which files of a script are: the one that was given, or that of the script. -/
def Options.rootFor (o : Options) (script : String) : String :=
  o.fileRoot.getD (directoryOf script)

end HttpScript.CommandLine
