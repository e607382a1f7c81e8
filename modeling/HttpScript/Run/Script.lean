import HttpScript.Cookie.Command
import HttpScript.Run.Check

/-! # Running scripts

A run takes the entries in order. For each it carries out the commands among the comments, makes
the request, sends it, sets variables from the response and checks the response. An entry without
a response ends the run.

What requests are sent through is a `Client` with a state `σ`, which stands for all that answers
depend on; a run gives the state back. -/

namespace HttpScript

namespace Run

/-- What requests are sent through. -/
structure Client (σ : Type) where
  execute : Http.Request → σ → Except Http.Fault Http.Response × σ
  addCookie : Cookie → σ → σ
  clearCookies : σ → σ
  /-- Whether the run is to be given up. -/
  isCancelled : σ → Bool

variable {σ : Type}

/-- Carries out a command. -/
def Client.obey (c : Client σ) (s : σ) : Cookie.Command → σ
  | .clear => c.clearCookies s
  | .set setting => c.addCookie (.ofSetting setting) s

/-- Carries out the commands among comments. -/
def Client.obeyAll (c : Client σ) (l : List Script.Comment) (s : σ) : σ :=
  (l.filterMap fun t => Cookie.Command.read? t.value).foldl c.obey s

/-! ### Captures -/

/-- What a capture gives. -/
def capture (x : Exchange) (c : Script.Capture) : Except Error Captured :=
  match c.query.eval x with
  | .ok v => .ok ⟨c.name, v, c.position⟩
  | .error (.placeholder e) => .error (.placeholder e)
  | .error fault => .error (.capture c.name fault c.position)

/-- The variables behind a capture. -/
def afterCapture (s : Variables) : Except Error Captured → Variables
  | .ok c => s.insertValue c.name c.value
  | .error _ => s

/-- What captures give, each seeing the variables that the ones before it set, and the variables
behind them. -/
def captureAll (r : Http.Response) :
    Variables → List Script.Capture → List (Except Error Captured) × Variables
  | s, [] => ([], s)
  | s, c :: l =>
    let outcome := capture ⟨r, s⟩ c
    let (rest, t) := captureAll r (afterCapture s outcome) l
    (outcome :: rest, t)

/-! ### Entries -/

/-- The values among outcomes. -/
def values {α : Type} (l : List (Except Error α)) : List α := l.filterMap Except.toOption

/-- The errors among outcomes. -/
def errors {α : Type} (l : List (Except Error α)) : List Error :=
  l.filterMap fun
    | .error e => some e
    | .ok _ => none

/-- The result of an entry that got a response, and the variables behind it. Checks see all
captures. -/
def conclude (m : Material) (e : Script.Entry) (request : Http.Request) (r : Http.Response)
    (s : Variables) : EntryResult × Variables :=
  let (captures, t) := captureAll r s e.captures
  let checks := checks e ⟨r, t⟩ m
  (⟨some request, some r, values captures, values checks, errors captures ++ errors checks⟩, t)

/-- Runs an entry, given the variables and the state of the client. -/
def runEntry (c : Client σ) (m : Material) (e : Script.Entry) (s : Variables) (w : σ) :
    EntryResult × Variables × σ :=
  let w := c.obeyAll e.request.comments w
  match e.request.fill m s with
  | .error error => (⟨none, none, [], [], [error]⟩, s, w)
  | .ok request =>
    match c.execute request w with
    | (.error fault, w) =>
      (⟨some request, none, [], [], [.exchange fault e.request.position]⟩, s, w)
    | (.ok r, w) =>
      let (result, s) := conclude m e request r s
      (result, s, w)

/-! ### Scripts -/

/-- Whether a run ends behind an entry: it has no response, or it is the last one asked for. -/
def endsBehind (toEntry : Option Nat) (number : Nat) (r : EntryResult) : Bool :=
  r.response.isNone || toEntry == some number

/-- Runs entries, the first of which has the number `number`. -/
def runEntries (c : Client σ) (m : Material) (toEntry : Option Nat) :
    Nat → List Script.Entry → Variables → σ → List EntryResult × Variables × σ
  | _, [], s, w => ([], s, w)
  | number, e :: l, s, w =>
    if c.isCancelled w then ([], s, w)
    else
      let (r, s, w) := runEntry c m e s w
      if endsBehind toEntry number r then ([r], s, w)
      else
        let (rest, s, w) := runEntries c m toEntry (number + 1) l s w
        (r :: rest, s, w)

end Run

open Run in
/-- **Runs a script**, up to the entry with the number `toEntry` if one is given: the results, the
variables behind it and the state of the client. -/
def Script.run {σ : Type} (script : Script) (c : Client σ) (m : Material) (toEntry : Option Nat)
    (s : Variables) (w : σ) : Result × Variables × σ :=
  let (entries, s, w) := runEntries c m toEntry 1 script.entries s w
  (⟨entries⟩, s, w)

end HttpScript
