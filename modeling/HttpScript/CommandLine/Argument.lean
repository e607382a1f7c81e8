import HttpScript.Decimal.Integer
import HttpScript.Text.Split

/-! # Arguments

The words of a command line are read one by one. A `Switch` stands by itself and may be given once;
a `Setting` has a value, behind `=` or in the next word, and only `variable` may be given more than
once. All other words name files, and so do all words behind `--`. Colours are switched on and off
by two switches of which the last counts.

A setting whose value has not come yet waits in `Given.waiting` until the next word; its value is
looked at only when the setting is settled, which is when the next switch or setting comes. -/

namespace HttpScript.CommandLine

/-- An argument without a value. -/
inductive Switch
  | verbose | location | insecure | head | compressed | test | color | noColor | help | version
  deriving DecidableEq, Repr, Inhabited

/-- An argument with a value. -/
inductive Setting
  | proxy | variableValue | variablesFile | fileRoot | toEntry | output | user | connectTimeout
  | maxTime | json
  deriving DecidableEq, Repr, Inhabited

/-- What a name on the command line stands for. -/
abbrev Name := Switch ⊕ Setting

/-- The long names. -/
def longNames : List (String × Name) :=
  [("verbose", .inl .verbose), ("location", .inl .location), ("insecure", .inl .insecure),
    ("proxy", .inr .proxy), ("variable", .inr .variableValue),
    ("variables-file", .inr .variablesFile), ("file-root", .inr .fileRoot),
    ("include", .inl .head), ("to-entry", .inr .toEntry), ("compressed", .inl .compressed),
    ("output", .inr .output), ("user", .inr .user), ("connect-timeout", .inr .connectTimeout),
    ("max-time", .inr .maxTime), ("test", .inl .test), ("json", .inr .json),
    ("color", .inl .color), ("no-color", .inl .noColor), ("help", .inl .help),
    ("version", .inl .version)]

/-- The names of one letter. -/
def shortNames : List (Char × Name) :=
  [('v', .inl .verbose), ('L', .inl .location), ('k', .inl .insecure), ('x', .inr .proxy),
    ('i', .inl .head), ('o', .inr .output), ('u', .inr .user), ('m', .inr .maxTime),
    ('h', .inl .help), ('V', .inl .version)]

/-- Why a command line is not carried out. -/
inductive Refusal
  | unknown (word : String)
  | missingValue (s : Setting)
  | badValue (s : Setting) (value : String)
  | repeated (o : Name)
  | unneededValue (s : Switch)
  | help
  | version
  deriving DecidableEq, Repr

/-- What has been given so far. -/
structure Given where
  switches : List Switch
  settings : List (Setting × String)
  files : List String
  /-- The last setting, with its value if that has come, while it is not settled. -/
  waiting : Option (Setting × Option String)
  deriving Repr, Inhabited

namespace Given

/-- Nothing. -/
def nothing : Given := ⟨[], [], [], none⟩

/-- Whether a setting takes a value. -/
def accepts (s : Setting) (value : String) : Bool :=
  match s with
  | .toEntry | .connectTimeout | .maxTime => (Decimal.nat64? value.toList).isSome
  | _ => true

/-- Adds a setting. -/
def set (g : Given) (s : Setting) (value : String) : Except Refusal Given :=
  if s ≠ .variableValue ∧ g.settings.any (·.1 = s) then .error (.repeated (.inr s))
  else if !accepts s value then .error (.badValue s value)
  else .ok { g with settings := g.settings ++ [(s, value)] }

/-- Settles the setting that waits. -/
def settle (g : Given) : Except Refusal Given :=
  match g.waiting with
  | none => .ok g
  | some (s, none) => .error (.missingValue s)
  | some (s, some value) => { g with waiting := none }.set s value

/-- The switch that another one takes back. -/
def opposite? : Switch → Option Switch
  | .color => some .noColor
  | .noColor => some .color
  | _ => none

/-- Adds a switch. -/
def switch (g : Given) (s : Switch) : Except Refusal Given := do
  let g ← g.settle
  if s = .help then throw .help
  if s = .version then throw .version
  if g.switches.contains s then throw (.repeated (.inl s))
  return { g with switches := g.switches.filter (fun t => some t != opposite? s) ++ [s] }

/-- Adds a setting whose value may be still to come. -/
def begin (g : Given) (s : Setting) (value : Option String) : Except Refusal Given := do
  let g ← g.settle
  match value with
  | some v => g.set s v
  | none => return { g with waiting := some (s, none) }

/-- Adds a file. -/
def file (g : Given) (name : String) : Except Refusal Given := do
  let g ← g.settle
  return { g with files := g.files ++ [name] }

/-- Reads a long name and what stands behind it. -/
def long (g : Given) (name : String) (value : Option String) : Except Refusal Given :=
  match longNames.lookup name with
  | none => .error (.unknown ("--" ++ name))
  | some (.inr s) => g.begin s value
  | some (.inl s) => if value.isSome then .error (.unneededValue s) else g.switch s

/-- The value written behind a name of one letter. -/
def attached : List Char → Option String
  | [] => none
  | '=' :: l => some (.ofList l)
  | l => some (.ofList l)

/-- Reads names of one letter. What stands behind a setting is its value. -/
def short (g : Given) : List Char → Except Refusal Given
  | [] => .ok g
  | c :: l =>
    match shortNames.lookup c with
    | none => .error (.unknown ("-" ++ .singleton c))
    | some (.inr s) => g.begin s (attached l)
    | some (.inl s) => do short (← g.switch s) l

/-- Reads a word that is no name: the value that a setting waits for, or a file. -/
def plain (g : Given) (word : String) : Except Refusal Given :=
  match g.waiting with
  | some (s, none) => .ok { g with waiting := some (s, some word) }
  | _ => g.file word

/-- Reads a word. -/
def word (g : Given) (w : String) : Except Refusal Given :=
  match w.toList with
  | '-' :: '-' :: l =>
    match Text.splitOnce '=' l with
    | some (name, value) => g.long (.ofList name) (some (.ofList value))
    | none => g.long (.ofList l) none
  | '-' :: c :: l => g.short (c :: l)
  | _ => g.plain w

/-- Reads words. Behind `--` all of them are files. -/
def words (g : Given) : List String → Except Refusal Given
  | [] => g.settle
  | "--" :: l => do (← l.foldlM file g).settle
  | w :: l => do words (← g.word w) l

end Given

/-- **Reads the words of a command line**, without the name of the program. -/
def read (l : List String) : Except Refusal Given := Given.nothing.words l

end HttpScript.CommandLine
