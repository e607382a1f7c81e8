import HttpScript.App
import HttpScript.CommandLine.Help

/-! # The command line program

Reads the arguments and runs `App.run` on the files and streams of the system. There is no
connection to any server here: every hop stays without an answer. -/

open HttpScript

/-- What a failure of the system means for a file. -/
def fileFault : IO.Error → FileFault
  | .noFileOrDirectory .. => .missing
  | .permissionDenied .. => .denied
  | .inappropriateType .. => .directory
  | e => .other (toString e)

/-- Tries something with a file. -/
def tryFile {α : Type} (x : IO α) : IO (Except FileFault α) := do
  try
    return .ok (← x)
  catch e =>
    return .error (fileFault e)

/-- All bytes that are left in a stream. -/
partial def readAll (stream : IO.FS.Stream) (before : ByteArray) : IO ByteArray := do
  let more ← stream.read 65536
  if more.isEmpty then return before else readAll stream (before ++ more)

/-- The files and streams of the system. -/
def system : App.World IO where
  read path := tryFile do return (← IO.FS.readBinFile path).toList
  write path content := tryFile (IO.FS.writeBinFile path ⟨content.toArray⟩)
  input := tryFile do return (← readAll (← IO.getStdin) .empty).toList
  print content := do
    let out ← IO.getStdout
    out.write ⟨content.toArray⟩
    out.flush
  printError line := IO.eprintln line
  time := IO.monoMsNow

/-- Runs the program and gives the number that tells how it ended. -/
def main (arguments : List String) : IO UInt32 := do
  match CommandLine.Options.read (← IO.getEnv "HOME") arguments with
  | .error e =>
    if e.isQuestion then
      IO.print e.message
      return 0
    else
      IO.eprint ("error: " ++ e.message ++ "\n\n" ++ CommandLine.usage)
      return Run.Status.badOptions.code.toUInt32
  | .ok options =>
    let colored ← match options.color with
      | some b => pure b
      | none => (← IO.getStdout).isTty
    match ← App.run system (.unreachable 0) () options colored with
    | .ok status => return status.code.toUInt32
    | .error .overflow =>
      IO.eprintln App.Fault.overflow.message
      return 101
    | .error e =>
      IO.eprintln ("error: " ++ e.message)
      return Run.Status.error.code.toUInt32
