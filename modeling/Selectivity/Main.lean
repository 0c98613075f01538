import Selectivity.CommandLine.Run

/-!
# The program

Reads the files that the command line names, runs, and writes what the run has to say.
-/

namespace Selectivity.Program

open CommandLine

/-- The fault for an error in opening a file. -/
def faultOf : IO.Error → FileFault
  | .inappropriateType .. => .notAFolder
  | .resourceExhausted .. => .nameTooLong
  | .invalidArgument .. => .nullCharacter
  | _ => .notFound

def contentOf (path : String) : IO (Except FileFault String) := do
  try
    return .ok (← IO.FS.readFile path)
  catch error =>
    return .error (faultOf error)

/-- The paths of the files that a command line names, a catalogue also without the parts that do
not count. -/
def pathsOf (words : List String) : List String :=
  match Settings.ofWords words with
  | .ok settings =>
      settings.query :: settings.catalog.elim [] fun path =>
        [path, String.ofList (Text.normalPath path.toList)]
  | .error _ => []

/-- The content of the standard input, if the command line asks for it. -/
def standardInput (words : List String) : IO String := do
  if (pathsOf words).contains "-" then (← IO.getStdin).readToEnd else return ""

/-- The files and the standard input that a command line asks for. -/
def surroundings (words : List String) : IO Surroundings := do
  let files ← (pathsOf words).mapM fun path => do return (path, ← contentOf path)
  let input ← standardInput words
  return ⟨fun path => (Entries.get? files path).getD (.error .notFound), input⟩

/-- A line of the error output as text. -/
def errorText : ErrorLine → String
  | .logged entry => entry.render ++ "\n"
  | .plain text => text

/-- Writes what a run has to say. -/
def report (completion : Completion) : IO UInt32 := do
  for relation in completion.warnings do
    IO.eprintln (warningMessage relation)
  for line in completion.errors do
    IO.eprint (errorText line)
  IO.print completion.output
  return completion.exit.toUInt32

end Selectivity.Program

open Selectivity Selectivity.CommandLine in
def main (words : List String) : IO UInt32 := do
  match run (← Program.surroundings words) .initial words with
  | .ok completion => Program.report completion
  | .error breakdown =>
      for relation in breakdown.warnings do
        IO.eprintln (warningMessage relation)
      IO.eprintln (breakdown.fault.message?.getD "The catalog or the query cannot be read")
      return 1
