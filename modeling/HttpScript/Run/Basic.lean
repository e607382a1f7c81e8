import HttpScript.Files
import HttpScript.Http.Message
import HttpScript.Query.Eval

/-! # Results of a run

Running a script gives an `EntryResult` for each entry that was reached. An entry without a
response is the last one. A `Status` sums a run up. -/

namespace HttpScript.Run

/-- Why a part of an entry could not be carried out. -/
inductive Error
  | placeholder (e : Template.InvalidVariable)
  | file (path : String) (fault : FileFault) (position : Position)
  | exchange (fault : Http.Fault) (position : Position)
  /-- The body to compare with cannot be decoded. -/
  | body (fault : Http.Fault) (position : Position)
  | capture (name : String) (fault : Query.Fault) (position : Position)

namespace Error

/-- Where the script asks for what failed. -/
def position : Error → Position
  | placeholder e => e.position
  | file _ _ p | exchange _ p | body _ p | capture _ _ p => p

/-- The wording of an error. -/
def message : Error → String
  | placeholder e => e.message
  | file path fault _ => "file " ++ path ++ " can not be read: " ++ fault.message
  | exchange fault _ | body fault _ => fault.message
  | capture name fault _ => "capture " ++ name ++ " failed, " ++ fault.message

end Error

/-- The outcome of a check. -/
structure Verdict where
  succeeded : Bool
  message : String
  position : Position
  deriving DecidableEq, Repr, Inhabited

/-- The outcome of a capture. -/
structure Captured where
  name : String
  value : Value
  position : Position
  deriving Repr, Inhabited

/-- What running an entry gave. -/
structure EntryResult where
  /-- The request, if it could be made. -/
  request : Option Http.Request
  /-- The response, if there was one. -/
  response : Option Http.Response
  captures : List Captured
  asserts : List Verdict
  errors : List Error

namespace EntryResult

/-- Whether all went well. -/
def succeeded (r : EntryResult) : Bool := r.errors.isEmpty && r.asserts.all (·.succeeded)

/-- The checks that did not hold. -/
def failedAsserts (r : EntryResult) : List Verdict := r.asserts.filter fun a => !a.succeeded

end EntryResult

/-- What running a script gave. -/
structure Result where
  entries : List EntryResult

namespace Result

/-- Whether all entries went well. -/
def succeeded (r : Result) : Bool := r.entries.all (·.succeeded)

/-- Whether an entry has an error, and not only checks that did not hold. -/
def hasErrors (r : Result) : Bool := r.entries.any fun e => !e.errors.isEmpty

/-- The last response of a run. -/
def lastResponse? (r : Result) : Option Http.Response := r.entries.reverse.findSome? (·.response)

end Result

/-- How a run, or what should have been one, ended. -/
inductive Status
  | success
  /-- What to run was not given properly. -/
  | badOptions
  | badScript
  | error
  | failedAssert
  deriving DecidableEq, Repr, Inhabited

namespace Status

/-- The number that tells other programs how a run ended. -/
def code : Status → Nat
  | success => 0
  | badOptions => 1
  | badScript => 2
  | error => 3
  | failedAssert => 4

/-- How a run ended. An error counts more than a check that did not hold. -/
def ofResult (r : Result) : Status :=
  if r.hasErrors then error else if r.succeeded then success else failedAssert

end Status

end HttpScript.Run
