import HttpScript.CommandLine.Argument
import HttpScript.Settings

/-! # Help

What is said about the command line: the help, the version, and why a command line is refused. -/

namespace HttpScript.CommandLine

/-- What a switch does. -/
def Switch.purpose : Switch → String
  | verbose => "turn on verbose output"
  | location => "follow redirects"
  | insecure => "allow insecure SSL connections"
  | head => "include protocol and headers in the output"
  | compressed => "request a compressed response and decode it"
  | test => "activate test mode"
  | color => "colorize output"
  | noColor => "do not colorize output"
  | help => "print help"
  | version => "print version"

/-- What a setting does. -/
def Setting.purpose : Setting → String
  | proxy => "use proxy on given protocol/host/port"
  | variableValue => "define a variable"
  | variablesFile => "define variables from a properties file"
  | fileRoot => "set root directory for file bodies"
  | toEntry => "execute script up to this entry (1-based)"
  | output => "write the last response body to a file"
  | user => "server user and password"
  | connectTimeout => "maximum time allowed for connection"
  | maxTime => "maximum time allowed for the transfer"
  | json => "write a JSON report of the run"

/-- What the value of a setting is. -/
def Setting.placeholder : Setting → String
  | proxy => "[PROTOCOL://]HOST[:PORT]"
  | variableValue => "NAME=VALUE"
  | variablesFile | output | json => "FILE"
  | fileRoot => "DIR"
  | toEntry => "ENTRY"
  | user => "USER:PASSWORD"
  | connectTimeout | maxTime => "SECONDS"

/-- What is written behind a name. -/
def suffix : Name → String
  | .inl _ => ""
  | .inr s => " <" ++ s.placeholder ++ ">"

/-- What a name does. -/
def purpose : Name → String
  | .inl s => s.purpose
  | .inr s => s.purpose

/-- The long name, as it is written. -/
def nameText (n : Name) : String :=
  "--" ++ ((longNames.find? (·.2 = n)).map (·.1)).getD ""

/-- The name of one letter, where there is one. -/
def shortText (n : Name) : String :=
  match shortNames.find? (·.2 = n) with
  | some (c, _) => "-" ++ .singleton c ++ ", "
  | none => "    "

/-- The line of the help about a name. -/
def helpLine (n : Name) : String :=
  "  " ++ shortText n ++ nameText n ++ suffix n ++ "\n          " ++ purpose n ++ "\n"

/-- How the program is called. -/
def usage : String := "Usage: " ++ Settings.program ++ " [OPTIONS] [FILE]...\n"

/-- The help. -/
def help : String :=
  usage ++ "\nOptions:\n" ++ .join (longNames.map fun p => helpLine p.2)

/-- The name and version of the program. -/
def versionLine : String := Settings.program ++ " " ++ Settings.version ++ "\n"

/-- Why a command line is refused. -/
def Refusal.message : Refusal → String
  | unknown word => "unexpected argument '" ++ word ++ "' found"
  | missingValue s => "a value is required for '" ++ nameText (.inr s) ++ suffix (.inr s) ++
      "' but none was supplied"
  | badValue s value => "invalid value '" ++ value ++ "' for '" ++ nameText (.inr s) ++
      suffix (.inr s) ++ "'"
  | repeated n => "the argument '" ++ nameText n ++ suffix n ++ "' cannot be used multiple times"
  | unneededValue s => "unexpected value for '" ++ nameText (.inl s) ++ "' found"
  | help => CommandLine.help
  | version => versionLine

/-- Whether a refusal only asks to be told something. -/
def Refusal.isQuestion : Refusal → Bool
  | help | version => true
  | _ => false

end HttpScript.CommandLine
