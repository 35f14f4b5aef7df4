import ChipPower.Run.Context
import ChipPower.Run.Files
import ChipPower.Stored.Stack
import ChipPower.Stored.Tree

/-!
Executing a run on files. The input of the estimator is written, the estimator
is run, its report is read and analyzed, and the component tree and the data of
the stack are written. Without an estimator an existing report is analyzed.
Whatever fails, the files stay as they are at that point.
-/

namespace ChipPower

/-! ## Programs -/

/-- A program with its arguments, and what is set in its environment. -/
structure Command where
  program : String
  arguments : List String
  environment : List (String × String) := []
  deriving DecidableEq, Repr

namespace Command

/-- Whether a text can be handed to a program, which takes a zero byte as its
end. -/
def isWord (text : String) : Bool := !text.contains '\x00'

/-- What stands in a command for a text: a text that is no word is not kept. -/
def word (text : String) : String :=
  if isWord text then text else "<string-with-nul>"

/-- Whether a command can be started with what is in it. -/
def isSound (command : Command) : Bool :=
  (command.program :: command.arguments ++ command.environment.map (·.2)).all isWord

end Command

/-- What running a program leaves. -/
structure ProgramRun where
  output : String
  /-- Of which only the last byte can be seen. -/
  exitCode : Nat
  files : Files

/-- What can be seen of the exit code. -/
def ProgramRun.status (result : ProgramRun) : Nat :=
  result.exitCode % 256

/-- The programs that can be run, by the keys of their places. A program sees the
files and may change them. -/
abbrev Programs := Dict String (Command → Files → ProgramRun)

/-- The programs on a machine; `libraryPath` is where libraries are looked for. -/
structure Machine where
  programs : Programs := ∅
  libraryPath : String := ""

/-- The program at a path. What is no program may not be run, and neither can a
program whose file has been emptied. -/
def Machine.findPath (machine : Machine) (files : Files) (path : String) :
    Except FileError (Command → Files → ProgramRun) := do
  let (place, node) ← files.locate path
  match machine.programs.get? (Path.key place) with
  | none => throw .denied
  | some program => if node = .text "" then throw .badFormat else return program

/-- Why a name without a slash is that of no program. It is not looked for among
the files but in the directories for programs, of which one dot and two dots are
directories too. -/
def FileError.ofName (name : String) : FileError :=
  if name = "." ∨ name = ".." then .denied
  else if maxNameSize < name.utf8ByteSize then .nameTooLong
  else .notFound

/-- The program of a name or path. -/
def Machine.find (machine : Machine) (files : Files) (name : String) :
    Except FileError (Command → Files → ProgramRun) :=
  if name.contains '/' then machine.findPath files name else .error (.ofName name)

/-- The program that a command starts. -/
def Machine.start (machine : Machine) (files : Files) (command : Command) :
    Except FileError (Command → Files → ProgramRun) :=
  if command.isSound then machine.find files command.program else .error .zeroInWord

/-! ## The estimator -/

/-- The estimator. -/
structure Estimator where
  program : String
  /-- Where its libraries are, if they are in a place of their own. -/
  libraries : Option String := none
  deriving DecidableEq, Repr

/-- The library path with another directory at its end. -/
def extendPath (path directory : String) : String :=
  if path = "" then directory else path ++ ":" ++ directory

/-- The command that estimates the power of an input. -/
def Estimator.command (estimator : Estimator) (libraryPath input : String) : Command where
  program := estimator.program
  arguments := ["-print_level", "5", "-opt_for_clk", "1", "-infile", input]
  environment :=
    match estimator.libraries with
    | none => []
    | some directory => [("LD_LIBRARY_PATH", extendPath libraryPath directory)]

/-! ## Paths of a run -/

/-- The path of the estimator's input. -/
def inputPath (base : String) : String := base ++ ".xml"

/-- The path of the estimator's report. -/
def reportPath (base : String) : String := base ++ ".txt"

/-- The path of the component tree. -/
def treePath (base : String) : String := base ++ ".json"

/-- The path of the data of the stack. -/
def stackPath (base : String) : String := base ++ ".stack.json"

/-! ## Steps on files -/

/-- A step on files, which keeps them also when it fails. -/
abbrev OnFiles := EStateM Failure Files

/-- A step that needs no files. -/
def pureStep {β : Type} : Except Failure β → OnFiles β
  | .ok b => pure b
  | .error failure => throw failure

/-- Names a step, should it fail. -/
def within {β : Type} (step : Step) (x : OnFiles β) : OnFiles β := fun files =>
  match x files with
  | .ok b files => .ok b files
  | .error failure files => .error (failure.within step) files

/-- Writes a text. If that fails, the file is taken to be left as it was, where the
program, which makes the file before it writes the text, may have emptied it. -/
def writeText (path content : String) : OnFiles Unit := do
  match (← get).write path content with
  | .ok files => set files
  | .error e => throw (.ofCause (.file e.message))

/-- Reads a text. -/
def readText (path : String) : OnFiles String := do
  match (← get).read path with
  | .ok content => return content
  | .error e => throw (.ofCause (.file e.message))

/-- Runs a command with its output going to a file. -/
def runInto (machine : Machine) (command : Command) (path : String) : OnFiles Nat := do
  let files ← get
  match machine.start files command with
  | .error e => throw ((Failure.ofCause (.file e.message)).within (.startEstimator command.program))
  | .ok program =>
    let result := program command files
    set result.files
    writeText path result.output
    return result.status

/-- Runs the estimator on an input, with its report going to a file. -/
def Estimator.run (estimator : Estimator) (machine : Machine) (input report : String) :
    OnFiles Unit := do
  within (.createReport report) (writeText report "")
  let code ← runInto machine (estimator.command machine.libraryPath input) report
  if code ≠ 0 then throw (.ofCause (.exitStatus code))

/-! ## Runs -/

/-- A run. -/
structure Run where
  options : Options Float
  /-- The estimator, unless an existing report is analyzed. -/
  estimator : Option Estimator
  /-- What the paths of the run start with. -/
  base : String

namespace Run

variable (run : Run)

/-- Writes the estimator's input and runs the estimator on it. -/
def estimate (machine : Machine) (context : RunContext Float) (estimator : Estimator) :
    OnFiles Unit := do
  let document ← pureStep (context.renderInput run.options)
  let input := inputPath run.base
  within (.createInput input) (writeText input (document.text ++ "\n"))
  within .runEstimator (estimator.run machine input (reportPath run.base))

/-- Writes what the analysis found. -/
def write (analysis : Analysis Float) : OnFiles Unit := do
  let tree := treePath run.base
  within .writeTree (within (.createFile tree) (writeText tree analysis.tree.store))
  let stack := stackPath run.base
  within .writeStack (within (.createFile stack) (writeText stack analysis.data.store))

/-- Executes a run over merged results. -/
def execute (machine : Machine) (merged : MergedResult Float) (overrides : Option String) :
    OnFiles (Analysis Float) := do
  let context ← pureStep (RunContext.ofMerged merged overrides run.options)
  match run.estimator with
  | some estimator => run.estimate machine context estimator
  | none => pure ()
  let report := reportPath run.base
  let text ← within (.readReport report) (readText report)
  let analysis ← pureStep (context.analyze text run.options)
  run.write analysis
  return analysis

end Run

end ChipPower
