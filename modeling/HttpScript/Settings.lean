import HttpScript.Text.Class

/-! # Settings

What is taken where neither the command line nor a script says otherwise. -/

namespace HttpScript.Settings

/-- The name of the program. -/
def program : String := "hurlite"

/-- The version of the program. -/
def version : String := "0.1.0"

/-- The name by which requests are announced. -/
def userAgent : String := program ++ "/" ++ version

/-- The variable of the environment that says what is logged. -/
def logLevelVariable : String := "HURLITE_LOG_LEVEL"

/-- What is logged by default. -/
def defaultLogLevel : String := "warn"

/-- The seconds within which a connection has to be made. -/
def connectTimeout : Nat := 60

/-- What is logged, given the variable of the environment. A blank value counts as none. -/
def logLevel (value : Option String) : String :=
  match value with
  | some s => if (Text.trim s.toList).isEmpty then defaultLogLevel else s
  | none => defaultLogLevel

end HttpScript.Settings
