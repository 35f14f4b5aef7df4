import ChipPower.CommandLine.Arguments
import ChipPower.Run.Execute
import ChipPower.Run.Fetch
import ChipPower.Stack.Summary

/-!
The command: it gathers the results of a directory, executes a run over them,
and prints the summary of the power stack.
-/

namespace ChipPower

/-- What a command leaves besides the files. -/
structure Outcome where
  exitCode : Nat
  output : String := ""
  errors : String := ""
  deriving DecidableEq, Repr

namespace Command

/-- Opens the log file. If that fails, the command goes on without one and says
so. -/
def openLog (arguments : Arguments) (files : Files) : Files × String :=
  match arguments.logFile with
  | none => (files, "")
  | some path =>
    let content := if arguments.logFileAppend then (files.read path).toOption.getD "" else ""
    match files.write path content with
    | .ok files => (files, "")
    | .error e =>
      (files, "Unable to open log file " ++ Text.quote path ++ ": " ++ e.message ++ "\n")

/-- The merged results of a directory, of which there have to be some. -/
def gatherResults (arguments : Arguments) (files : Files) :
    Except Failure (MergedResult Float) := do
  let gathered ←
    during .mergeResults (files.gather arguments.resultsDirectory arguments.markers)
  if 0 < gathered.merged.intervals then return gathered.merged
  else
    fail (.noResults arguments.resultsDirectory arguments.markers.first arguments.markers.last)

/-- The text of the configuration file, if one is given. -/
def readOverrides (arguments : Arguments) (files : Files) : Except Failure (Option String) :=
  match arguments.configFile with
  | none => .ok none
  | some path =>
    match files.read path with
    | .ok content => .ok (some content)
    | .error e => during .readConfigFile (fail (.file e.message))

/-- Carries out a command up to what it prints. -/
def carryOut (machine : Machine) (arguments : Arguments) : OnFiles String := do
  let options ← pureStep arguments.options
  let files ← get
  let merged ← pureStep (gatherResults arguments files)
  let overrides ← pureStep (readOverrides arguments files)
  let estimator :=
    if arguments.noEstimatorRun then none
    else some { program := arguments.estimator, libraries := arguments.libraries }
  let run : Run := { options, estimator, base := arguments.output }
  let analysis ← within .runAnalysis (run.execute machine merged overrides)
  return if arguments.noText then "" else analysis.stack.summary analysis.seconds

/-- The outcome of a command that failed. A failure that ends the program leaves
only its cause. -/
def failed (notice : String) (failure : Failure) : Outcome :=
  if failure.aborts then
    { exitCode := 101, errors := notice ++ failure.cause.message ++ "\n" }
  else { exitCode := 1, errors := notice ++ failure.display }

/-- Carries out a command. -/
def perform (machine : Machine) (arguments : Arguments) (files : Files) : Outcome × Files :=
  let (files, notice) := openLog arguments files
  match carryOut machine arguments files with
  | .ok output files => ({ exitCode := 0, output, errors := notice }, files)
  | .error failure files => (failed notice failure, files)

/-- The paths that a command may look at or write to. -/
def paths (arguments : Arguments) : List String :=
  let base := arguments.output
  arguments.logFile.toList ++ arguments.configFile.toList ++
    [inputPath base, reportPath base, treePath base, stackPath base] ++
    arguments.markers.indices.map (Marker.path arguments.resultsDirectory)

/-- The keys of the places that a command line may look at. -/
def keys (words : List String) : List String :=
  match Invocation.ofWords words with
  | .run arguments => (paths arguments).flatMap Path.keys
  | .help => []
  | .misuse => []

/-- What is printed when the command is used in a way it does not know. -/
def usage : String := "Usage: chippower [OPTIONS] <RESULTS_DIR>\n"

/-- Carries out a command line. -/
def invoke (machine : Machine) (words : List String) (files : Files) : Outcome × Files :=
  match Invocation.ofWords words with
  | .run arguments => perform machine arguments files
  | .help => ({ exitCode := 0, output := usage }, files)
  | .misuse => ({ exitCode := 2, errors := usage }, files)

end Command

end ChipPower
