import ChipPower.Numeric.Numeral
import ChipPower.Scope
import ChipPower.Text.Quoted

/-!
Failures: what went wrong, and what was being done at the time. A cause keeps
the values its text speaks of, so that a caller can tell causes apart without
reading texts. The text of a failure names what was being done, outermost
first, and then the cause. An overflow is not reported but ends the program.
-/

namespace ChipPower

/-- What went wrong. -/
inductive Cause
  -- Configurations
  | missingKey (key : String)
  | malformedKey (key value : String) (reason : NumeralError)
  | notBoolean (key value : String)
  | openSection (line : Nat)
  | noAssignment (line : Nat) (text : String)
  | emptyKey (line : Nat)
  | unknownField (name : String)
  | unknownDomain (domain key : String)
  -- Statistics
  | kindMismatch (left right : String)
  | missingStatistic (name : String)
  | scalarForList (name : String)
  | kindForScalar (name kind : String)
  | noElement (name : String) (index : Nat)
  | shortList (name : String) (length expected : Nat)
  -- Options and cache hierarchies
  | fractionAboveOne (fraction : String)
  | noSharingCores
  | noSlices
  | irregularSlices (locations : String)
  -- Metrics
  | unknownStatistic (name : String)
  | unknownTuple (name : String)
  | onlyPerCore
  | coreOutOfRange (core count : Nat)
  | noAlus
  | noCores
  /-- A product that does not fit in a 64-bit word. -/
  | overflow
  -- Templates
  | unknownTemplateField (name kind : String)
  | notFinite (value : String)
  | valueCount (placeholders values : Nat)
  -- Reports and power stacks
  | malformedNumber (reason : NumeralError)
  | repeatedAndUnique (label : String)
  | duplicateComponent (label : String)
  | emptyReport
  | noCoreReported
  | noProcessorReported
  | noMemoryReported
  | unknownLens (name : String)
  | badInterleaving
  -- Runs
  | exitStatus (code : Nat)
  | noResults (directory : String) (first last : Nat)
  /-- A document that is not of the expected form. -/
  | document (reason : String)
  /-- A file that cannot be read or written. -/
  | file (reason : String)
  /-- A cause that is known only by its text. -/
  | reported (text : String)
  deriving DecidableEq, Repr

/-- What was being done when something went wrong. -/
inductive Step
  | mergeStatistic (name : String)
  | fetchInterval (interval : String)
  | mergeInterval (interval : String)
  | mergeResults
  | openResultSet (path : String)
  | parseResultSet (path : String)
  | countL2Banks
  | countL3Banks
  | countSlices
  | coreCounters
  | evaluate (name : String) (scope : Scope)
  | renderLine (name : String) (scope : Scope)
  | parseMetric (line label : String)
  | parseNumber (text : String)
  | parseOverrides
  | deriveHierarchy
  | mapNuca
  | createCalculator
  | checkTemplate
  | renderTemplate
  | parseReport
  | computeMemoryPower
  | readMemoryConfig
  | aggregateStack
  | writeTree
  | writeStack
  | createFile (path : String)
  | createInput (path : String)
  | runEstimator
  | createReport (path : String)
  | startEstimator (program : String)
  | readReport (path : String)
  | readConfigFile
  | runAnalysis
  deriving DecidableEq, Repr

/-- A cause with what was being done, outermost first. -/
structure Failure where
  steps : List Step
  cause : Cause
  deriving DecidableEq, Repr

open Text

/-- The text of a cause. -/
def Cause.message : Cause → String
  | .missingKey key => "Missing configuration key " ++ quote key
  | .malformedKey key value reason =>
    "Unable to parse configuration key " ++ quote key ++ " (" ++ quote value ++ "): " ++
      reason.message
  | .notBoolean key value =>
    "Configuration key " ++ quote key ++ " is not a boolean: " ++ quote value
  | .openSection line => "Unterminated section header on line " ++ toString line
  | .noAssignment line text =>
    "Expected `key = value` on line " ++ toString line ++ ": " ++ quote text
  | .emptyKey line => "Empty key on line " ++ toString line
  | .unknownField name => "Unknown configuration field " ++ quote name
  | .unknownDomain domain key => "Unknown DVFS domain " ++ quote domain ++ " for " ++ quote key
  | .kindMismatch left right => "Cannot combine a " ++ left ++ " with a " ++ right
  | .missingStatistic name => "Missing statistic " ++ quote name
  | .scalarForList name => "Statistic " ++ quote name ++ " is a scalar, expected a list"
  | .kindForScalar name kind =>
    "Statistic " ++ quote name ++ " is a " ++ kind ++ ", expected a scalar"
  | .noElement name index => "Statistic " ++ quote name ++ " has no element " ++ toString index
  | .shortList name length expected =>
    "Statistic " ++ quote name ++ " has " ++ toString length ++ " elements, expected " ++
      toString expected
  | .fractionAboveOne fraction => "In-bank fraction must be at most 1, found " ++ fraction
  | .noSharingCores => "Number of shared cores must be positive"
  | .noSlices => "No NUCA slices found in topology"
  | .irregularSlices locations => "Unsupported tag directory locations " ++ quote locations
  | .unknownStatistic name => "Unknown statistic " ++ quote name
  | .unknownTuple name => "Unknown tuple " ++ quote name
  | .onlyPerCore => "Statistic is only defined per core"
  | .coreOutOfRange core count =>
    "Core " ++ toString core ++ " out of range (" ++ toString count ++ " cores)"
  | .noAlus => "Core has no ALUs"
  | .noCores => "System has no cores"
  | .overflow => "attempt to multiply with overflow"
  | .unknownTemplateField name kind =>
    "Unknown template field " ++ quote name ++ " (" ++ kind ++ ")"
  | .notFinite value => "Cannot format " ++ value ++ " as an integer"
  | .valueCount placeholders values =>
    "Line has " ++ toString placeholders ++ " placeholders, but " ++ toString values ++
      " values were given"
  | .malformedNumber reason => reason.message
  | .repeatedAndUnique label => "Component " ++ quote label ++ " is both repeated and unique"
  | .duplicateComponent label => "Duplicate component " ++ quote label
  | .emptyReport => "No valid output from estimator"
  | .noCoreReported => "Report has no core"
  | .noProcessorReported => "Report has no processor"
  | .noMemoryReported => "Report has no DRAM"
  | .unknownLens name => "Unknown power type " ++ quote name
  | .badInterleaving => "DRAM controller interleaving must be positive"
  | .exitStatus code => "Estimator exited with exit status: " ++ toString code
  | .noResults directory first last =>
    "No results found in " ++ quote directory ++ " between markers " ++ toString first ++
      " and " ++ toString last
  | .document reason => reason
  | .file reason => reason
  | .reported text => text

/-- The text of what was being done. -/
def Step.message : Step → String
  | .mergeStatistic name => "Unable to merge statistic " ++ quote name
  | .fetchInterval interval => "Unable to fetch results of interval " ++ interval
  | .mergeInterval interval => "Unable to merge results of interval " ++ interval
  | .mergeResults => "Unable to merge results"
  | .openResultSet path => "Unable to open result set " ++ quote path
  | .parseResultSet path => "Unable to parse result set " ++ quote path
  | .countL2Banks => "Unable to get number of L2 banks"
  | .countL3Banks => "Unable to get number of L3 banks"
  | .countSlices => "Unable to get number of NUCA slices"
  | .coreCounters => "Unable to compute per-core counters"
  | .evaluate name scope => "Unable to evaluate " ++ quote name ++ " for " ++ scope.label
  | .renderLine name scope => "Unable to render " ++ quote name ++ " for " ++ scope.label
  | .parseMetric line label =>
    "Unable to parse metric " ++ quote line ++ " of component " ++ quote label
  | .parseNumber text => "Invalid number " ++ quote text
  | .parseOverrides => "Unable to parse override configuration"
  | .deriveHierarchy => "Unable to derive cache hierarchy"
  | .mapNuca => "Unable to map NUCA onto its cache level"
  | .createCalculator => "Unable to create metric calculator"
  | .checkTemplate => "Template uses unknown fields"
  | .renderTemplate => "Unable to render template"
  | .parseReport => "Unable to parse report"
  | .computeMemoryPower => "Unable to compute DRAM power"
  | .readMemoryConfig => "Unable to read DRAM configuration"
  | .aggregateStack => "Unable to aggregate power stack"
  | .writeTree => "Unable to write component tree"
  | .writeStack => "Unable to write stack data"
  | .createFile path => "Unable to create " ++ quote path
  | .createInput path => "Unable to create estimator input " ++ quote path
  | .runEstimator => "Unable to run estimator"
  | .createReport path => "Unable to create report file " ++ quote path
  | .startEstimator program => "Unable to run estimator " ++ quote program
  | .readReport path => "Unable to read report " ++ quote path
  | .readConfigFile => "Unable to read config file"
  | .runAnalysis => "Unable to run analysis"

namespace Failure

/-- A failure of which only the cause is known. -/
def ofCause (cause : Cause) : Failure := ⟨[], cause⟩

/-- The failure within a larger activity. -/
def within (step : Step) (failure : Failure) : Failure :=
  { failure with steps := step :: failure.steps }

/-- Whether a failure ends the program where it happens, so that nothing reports it. -/
def aborts (failure : Failure) : Bool :=
  match failure.cause with
  | .overflow => true
  | _ => false

/-- The texts of a failure, outermost first. -/
def texts (failure : Failure) : List String :=
  failure.steps.map Step.message ++ [failure.cause.message]

/-- The texts of a failure in one line. -/
def message (failure : Failure) : String :=
  String.intercalate ": " failure.texts

/-- A failure as a command reports it: the outermost text, and below it what it
was caused by, numbered if there are several. -/
def display (failure : Failure) : String :=
  match failure.texts with
  | [] => ""
  | [text] => "Error: " ++ text ++ "\n"
  | [text, cause] => "Error: " ++ text ++ "\n\nCaused by:\n    " ++ cause ++ "\n"
  | text :: causes =>
    "Error: " ++ text ++ "\n\nCaused by:" ++
      String.join (causes.zipIdx.map fun (cause, n) =>
        "\n    " ++ toString n ++ ": " ++ cause) ++ "\n"

end Failure

/-- Fails with a cause. -/
def fail {α : Type} (cause : Cause) : Except Failure α :=
  .error (.ofCause cause)

/-- Notes what was being done, should the result be a failure. -/
def during {α : Type} (step : Step) : Except Failure α → Except Failure α
  | .ok a => .ok a
  | .error failure => .error (failure.within step)

@[simp] theorem during_ok {α : Type} (step : Step) (a : α) :
    during step (.ok a) = .ok a := rfl

theorem during_eq_ok_iff {α : Type} {step : Step} {r : Except Failure α} {a : α} :
    during step r = .ok a ↔ r = .ok a := by
  cases r <;> simp [during]

theorem during_eq_error_iff {α : Type} {step : Step} {r : Except Failure α} {failure : Failure} :
    during step r = .error failure ↔ ∃ inner, r = .error inner ∧ inner.within step = failure := by
  cases r <;> simp [during]

theorem bind_eq_ok_iff {ε α β : Type} {r : Except ε α} {f : α → Except ε β} {b : β} :
    (r >>= f) = .ok b ↔ ∃ a, r = .ok a ∧ f a = .ok b := by
  cases r <;> simp [bind, Except.bind]

theorem map_eq_ok_iff {α β : Type} {r : Except Failure α} {f : α → β} {b : β} :
    r.map f = .ok b ↔ ∃ a, r = .ok a ∧ f a = b := by
  cases r <;> simp [Except.map]

theorem pure_eq_ok_iff {ε α : Type} {a b : α} : (pure a : Except ε α) = .ok b ↔ a = b := by
  simp [pure, Except.pure]

theorem isOk_iff {α : Type} {r : Except Failure α} : r.isOk = true ↔ ∃ a, r = .ok a := by
  cases r <;> simp [Except.isOk, Except.toBool]

theorem length_of_mapM_eq_ok {β γ : Type} {f : β → Except Failure γ} {bs : List β}
    {cs : List γ} (mapped : bs.mapM f = .ok cs) : cs.length = bs.length := by
  induction bs generalizing cs with
  | nil =>
    cases mapped
    rfl
  | cons b bs ih =>
    rw [List.mapM_cons] at mapped
    obtain ⟨c, -, onward⟩ := bind_eq_ok_iff.1 mapped
    obtain ⟨rest, tail, same⟩ := bind_eq_ok_iff.1 onward
    cases same
    rw [List.length_cons, List.length_cons, ih tail]

/-- Each result of a list is that of the element at its place. -/
theorem getElem?_of_mapM_eq_ok {β γ : Type} {f : β → Except Failure γ} {bs : List β}
    {cs : List γ} (mapped : bs.mapM f = .ok cs) {i : Nat} {b : β} (listed : bs[i]? = some b) :
    ∃ c, cs[i]? = some c ∧ f b = .ok c := by
  induction bs generalizing cs i with
  | nil => cases listed
  | cons first bs ih =>
    rw [List.mapM_cons] at mapped
    obtain ⟨c, one, onward⟩ := bind_eq_ok_iff.1 mapped
    obtain ⟨rest, tail, same⟩ := bind_eq_ok_iff.1 onward
    cases same
    cases i with
    | zero =>
      cases listed
      exact ⟨c, rfl, one⟩
    | succ i => exact ih tail listed

end ChipPower
