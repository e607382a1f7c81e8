import HttpScript.CommandLine.Options
import HttpScript.Http.Client
import HttpScript.Report.Document
import HttpScript.Report.Located
import HttpScript.Report.Progress
import HttpScript.Run.Script
import HttpScript.Script.Read

/-! # The program

`App.run` runs the scripts that a command line names, each with a client of its own and the same
variables to begin with, and reports what went wrong. What it needs of its surroundings is a
`World` over a monad `m`. -/

namespace HttpScript.App

open CommandLine (Options)

/-- What the program needs of its surroundings. -/
structure World (m : Type → Type) where
  read : String → m (Except FileFault (List UInt8))
  write : String → List UInt8 → m (Except FileFault Unit)
  /-- What is left of standard input. -/
  input : m (Except FileFault (List UInt8))
  print : List UInt8 → m Unit
  /-- Writes a line to standard error. -/
  printError : String → m Unit
  /-- The time in milliseconds. -/
  time : m Nat

/-- Why the program gives up. -/
inductive Fault
  | client (fault : Http.Fault)
  | body (fault : Http.Fault)
  | output (path : String) (fault : FileFault)
  | report (path : String) (fault : FileFault)
  /-- The date of a cookie cannot be counted in words. -/
  | overflow
  deriving DecidableEq, Repr

/-- The wording of a fault. -/
def Fault.message : Fault → String
  | client e => "Failed to create HTTP client: " ++ e.message
  | body e => "Failed to decode response body: " ++ e.message
  | output path e => "Failed to write output to " ++ path ++ ": " ++ e.message
  | report path e => "Failed to write JSON report to " ++ path ++ ": " ++ e.message
  | overflow => "attempt to count a date with overflow"

/-- The name of the script that is read from standard input. -/
def inputName : String := "-"

/-- Why a script cannot be read. -/
def unreadable (file : String) (e : FileFault) : String :=
  "Failed to read script " ++ (if file = inputName then "from standard input" else file) ++ ": " ++
    e.message

/-! ### What a script names -/

/-- The file that a content is read from. -/
def fileOf? : Script.Content → Option String
  | .file name _ => some name
  | _ => none

/-- The file that a part of a form is read from. -/
def fileOfPart? : Script.Part → Option String
  | .file p => some p.filename
  | .text _ => none

/-- The files that an entry names. -/
def filesOf (e : Script.Entry) : List String :=
  (e.request.body.bind fun b => fileOf? b.content).toList ++
    e.request.multipart.filterMap fileOfPart? ++
    ((e.response.bind (·.body)).bind fun b => fileOf? b.content).toList

/-- The files that paths lead to, as they were read. -/
def loaded (l : List (String × Except FileFault (List UInt8))) : Files :=
  ⟨fun path => (l.lookup path).getD (.error .missing)⟩

/-! ### Output -/

/-- The head of a response, as it is written before the body. -/
def head (r : Http.Response) : String :=
  r.version.name ++ " " ++ toString r.status.toNat ++ "\n" ++
    .join (r.headers.map fun (name, value) => name ++ ": " ++ value ++ "\n") ++ "\n"

/-- What is written of a response. -/
def outputOf (o : Options) (r : Http.Response) : Except Fault (List UInt8) := do
  let body ← if o.client.compressed then r.content.mapError .body else .ok r.body
  return (if o.includeHead then Bytes.Utf8.encode (head r) else []) ++ body

/-! ### Running -/

/-- What becomes of a script: how it ended, and if it was run its results and how many milliseconds
that took. -/
abbrev Outcome := Run.Status × Option (Run.Result × Nat)

variable {m : Type → Type} {σ : Type} [Monad m]

/-- An error without a place, in colours if they are wanted. -/
def plainError (colored : Bool) (message : String) : String :=
  Report.paint .boldRed colored "error:" ++ " " ++ message

/-- Writes what is to be written of a response. -/
def writeOutput (w : World m) (o : Options) (r : Http.Response) : m (Except Fault Unit) :=
  match outputOf o r with
  | .error e => return .error e
  | .ok bytes =>
    match o.output with
    | some path => do return (← w.write path bytes).mapError (.output path)
    | none => do
      w.print bytes
      return .ok ()

/-- The client of a script: it keeps cookies and sends hops over a network. There is nothing left of
either once the date of a cookie could not be counted. -/
def client (n : Http.Network σ) (o : Http.ClientOptions) : Run.Client (Option (CookieStore × σ)) where
  execute r
    | none => (.error (.client Fault.overflow.message), none)
    | some (cookies, w) =>
      match Http.Client.execute n o r cookies w with
      | (.ok response, cookies, w) => (.ok response, some (cookies, w))
      | (.error (.fault e), cookies, w) => (.error e, some (cookies, w))
      | (.error .overflow, _, _) => (.error (.client Fault.overflow.message), none)
  addCookie c := Option.map fun (cookies, w) => (cookies.add (n.now w) c, w)
  clearCookies := Option.map fun (_, w) => (.empty, w)
  isCancelled := Option.isNone

/-- Runs a script that was read. -/
def runScript (w : World m) (n : Http.Network σ) (start : σ) (o : Options) (colored : Bool)
    (vars : Variables) (file source : String) (script : Script) : m (Except Fault Outcome) :=
  match Http.Client.check o.client with
  | .error e => return .error (.client e)
  | .ok _ => do
    let root := o.rootFor file
    let paths := (script.entries.flatMap filesOf).map (Path.join root)
    let files ← paths.mapM fun path => do return (path, ← w.read path)
    let begun ← w.time
    let (result, _, left) :=
      script.run (client n o.client) ⟨loaded files, root⟩ o.toEntry vars (some (.empty, start))
    if left.isNone then
      return .error .overflow
    let ended ← w.time
    for failure in Report.failures file source result colored do
      w.printError (failure ++ "\n")
    let status := Run.Status.ofResult result
    let outcome : Outcome := (status, some (result, ended - begun))
    if o.test then
      w.printError (Report.finished file (status == .success) (ended - begun) colored)
      return .ok outcome
    else
      match (if result.hasErrors then none else result.lastResponse?) with
      | none => return .ok outcome
      | some response => return (← writeOutput w o response).map fun _ => outcome

/-- Reads the text of a script. -/
def readScript (w : World m) (file : String) : m (Except FileFault String) := do
  let bytes ← if file = inputName then w.input else w.read file
  return do
    match Bytes.Utf8.decode? (← bytes) with
    | some s => .ok s
    | none => .error .notText

/-- Reads and runs a script. -/
def runFile (w : World m) (n : Http.Network σ) (start : σ) (o : Options) (colored : Bool)
    (vars : Variables) (file : String) : m (Except Fault Outcome) := do
  if o.test then w.printError (Report.running file colored)
  match ← readScript w file with
  | .error e =>
    w.printError (plainError colored (unreadable file e))
    return .ok (.badOptions, none)
  | .ok source =>
    match Script.read? source with
    | .error e =>
      w.printError (Report.parseError file source e colored)
      return .ok (.badScript, none)
    | .ok script => runScript w n start o colored vars file source script

/-- What is known once some scripts were run: how the last that failed ended, how many failed, and
the results of the last that was run. -/
structure Tally where
  status : Run.Status
  failed : Nat
  last : Option (Run.Result × Nat)

/-- Counts a script. -/
def Tally.add (t : Tally) (x : Outcome) : Tally :=
  { status := if x.1 = .success then t.status else x.1
    failed := if x.1 = .success then t.failed else t.failed + 1
    last := x.2 <|> t.last }

/-- Runs scripts until the program has to give up. -/
def runFiles (w : World m) (n : Http.Network σ) (start : σ) (o : Options) (colored : Bool)
    (vars : Variables) : Tally → List String → m (Except Fault Tally)
  | t, [] => return .ok t
  | t, file :: l => do
    match ← runFile w n start o colored vars file with
    | .error e => return .error e
    | .ok x => runFiles w n start o colored vars (t.add x) l

/-- Writes the report of the last results, where one is wanted and there are any. -/
def writeReport (w : World m) (o : Options) (last : Option (Run.Result × Nat)) :
    m (Except Fault Unit) :=
  match o.json, last with
  | some path, some (result, milliseconds) => do
    let text := (Report.document result milliseconds).compact
    return (← w.write path (Bytes.Utf8.encode text)).mapError (.report path)
  | _, _ => return .ok ()

/-- The scripts that are named: standard input, if none is. -/
def scripts (o : Options) : List String := if o.files.isEmpty then [inputName] else o.files

/-- Reads the property file, if one is named. -/
def readVariables (w : World m) (o : Options) :
    m (Except CommandLine.VariablesFault Variables) := do
  match o.variablesFile with
  | none => return o.initialVariables fun _ => .error .missing
  | some path =>
    let content ← w.read path
    return o.initialVariables fun _ => content

/-- **Runs the program.** -/
def run (w : World m) (n : Http.Network σ) (start : σ) (o : Options) (colored : Bool) :
    m (Except Fault Run.Status) := do
  match ← readVariables w o with
  | .error e =>
    w.printError (plainError colored e.message)
    return .ok .badOptions
  | .ok vars =>
    let begun ← w.time
    match ← runFiles w n start o colored vars ⟨.success, 0, none⟩ (scripts o) with
    | .error e => return .error e
    | .ok t =>
      match ← writeReport w o t.last with
      | .error e => return .error e
      | .ok _ =>
        let ended ← w.time
        if o.test then
          w.printError (Report.summary (scripts o).length t.failed (ended - begun) colored)
        return .ok t.status

end HttpScript.App
