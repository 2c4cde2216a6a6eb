import EdmMapping.CommandLine.Run

/-!
# The program

Reads the model file that a command asks for, runs the command, and writes what it shows.
-/

set_option autoImplicit false

open EdmMapping EdmMapping.CommandLine

def readModel (path : String) : IO (Option ByteArray) := do
  try
    return some (← IO.FS.readBinFile path)
  catch _ =>
    return none

/-- Runs what the words ask for, and reads the file that it needs. -/
def outcomeOf (words : List String) : IO Outcome := do
  match Command.parse words with
  | .error halt => return halt.outcome
  | .ok command =>
    match command.modelPath? with
    | some path => return command.run (← readModel path)
    | none => return command.run none

/-- Runs the command on the command line. -/
def main (words : List String) : IO UInt32 := do
  let outcome ← outcomeOf words
  IO.print outcome.transcript.output
  IO.eprint outcome.transcript.errors
  return outcome.exitCode.toUInt32
