import ChipPower.CommandLine.Command

/-!
The program: it loads the files that a command may look at, carries out the
command on them, and writes back the texts that changed. No programs are run, so
that a command which needs the estimator fails as if it could not be started.
-/

namespace ChipPower.Program

/-- Loads what is at a place. -/
def loadNode (key : String) : IO (Option Node) := do
  try
    return some (.text (← IO.FS.readFile key))
  catch
    | .inappropriateType .. => return some .directory
    | _ => return none

/-- Loads what is at some places. What is below a file or a missing directory
is not there. -/
def load (keys : List String) : IO Files := do
  let mut files : Files := ∅
  for key in keys do
    match ← loadNode key with
    | some node => files := files.insert key node
    | none => pure ()
  return files

/-- Writes the texts that a command changed. -/
def store (before after : Files) : IO Unit := do
  for (key, node) in after.toList do
    match node with
    | .text content =>
      if before.get? key ≠ some node then IO.FS.writeFile key content
    | .directory => pure ()

end ChipPower.Program

open ChipPower

/-- Carries out a command line. -/
def main (words : List String) : IO UInt32 := do
  let files ← Program.load (Command.keys words)
  let libraryPath := (← IO.getEnv "LD_LIBRARY_PATH").getD ""
  let (outcome, after) := Command.invoke { libraryPath } words files
  Program.store files after
  IO.print outcome.output
  IO.eprint outcome.errors
  return UInt32.ofNat outcome.exitCode
