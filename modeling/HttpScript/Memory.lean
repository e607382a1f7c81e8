import HttpScript.App

/-! # Running in memory

A `Memory` holds all that the program reads and writes: files, standard input and both outputs. The
program run on it touches nothing else, and time stands still. -/

namespace HttpScript

/-- Files, what is left of standard input, and what was written to the outputs. -/
structure Memory where
  files : Files.Tree
  input : List UInt8
  output : List UInt8
  errors : String

namespace Memory

/-- A memory with files and standard input, before anything was written. -/
def holding (files : List (String × List UInt8)) (input : List UInt8) : Memory :=
  ⟨.ofList files, input, [], ""⟩

/-- Reads a file. -/
def read (path : String) (s : Memory) : Except FileFault (List UInt8) × Memory :=
  (s.files.read path, s)

/-- Writes a file. -/
def write (path : String) (content : List UInt8) (s : Memory) : Except FileFault Unit × Memory :=
  match s.files.write path content with
  | .ok files => (.ok (), { s with files := files })
  | .error e => (.error e, s)

/-- Reads what is left of standard input. -/
def takeInput (s : Memory) : Except FileFault (List UInt8) × Memory :=
  (.ok s.input, { s with input := [] })

/-- The surroundings that a memory is. -/
def world : App.World (StateM Memory) where
  read path := read path
  write path content := write path content
  input := takeInput
  print l := modify fun s => { s with output := s.output ++ l }
  printError line := modify fun s => { s with errors := s.errors ++ line ++ "\n" }
  time := return 0

/-- **Runs the program on a memory**: how it ended, and what the memory holds then. -/
def run {σ : Type} (s : Memory) (n : Http.Network σ) (start : σ) (o : CommandLine.Options)
    (colored : Bool) : Except App.Fault Run.Status × Memory :=
  StateT.run (m := Id) (App.run world n start o colored) s

end Memory

end HttpScript
