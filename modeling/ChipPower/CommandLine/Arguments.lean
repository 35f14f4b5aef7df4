import ChipPower.Options

/-!
The arguments of the command line. Options have a long name, and some a letter.
A value follows its option, in the next argument or attached to it; flags take
no value and their letters may be joined. Nothing may be given twice, and what
is not understood is refused as a whole, unless help was asked for before.
-/

namespace ChipPower

namespace CommandLine

/-- An option that takes a value. -/
inductive ValueOption
  | logFile
  | config
  | output
  | lens
  | bankMapPolicy
  | fraction
  | firstMarker
  | lastMarker
  | estimator
  | libraries
  deriving DecidableEq, Repr

/-- An option that takes none. -/
inductive Flag
  | logFileAppend
  | implicitAccesses
  | noEstimatorRun
  | noText
  | noCollapse
  | help
  deriving DecidableEq, Repr

/-- An option. -/
inductive Switch
  | value (option : ValueOption)
  | flag (flag : Flag)
  deriving DecidableEq, Repr

/-- The options by their long names. -/
def longNames : List (String × Switch) := [
  ("log-file", .value .logFile),
  ("log-file-append", .flag .logFileAppend),
  ("config", .value .config),
  ("output", .value .output),
  ("power-type", .value .lens),
  ("bank-map-policy", .value .bankMapPolicy),
  ("in-cache-frac", .value .fraction),
  ("implicit-accesses", .flag .implicitAccesses),
  ("first-marker", .value .firstMarker),
  ("last-marker", .value .lastMarker),
  ("estimator", .value .estimator),
  ("estimator-lib-dir", .value .libraries),
  ("no-estimator-run", .flag .noEstimatorRun),
  ("no-text", .flag .noText),
  ("no-collapse", .flag .noCollapse),
  ("help", .flag .help)]

/-- The options by their letters. -/
def letters : List (Char × Switch) := [
  ('o', .value .output),
  ('t', .value .lens),
  ('p', .value .bankMapPolicy),
  ('i', .flag .implicitAccesses),
  ('h', .flag .help)]

/-! ## Values -/

/-- A path, which may not be empty. -/
def readPath (value : String) : Option String :=
  if value = "" then none else some value

/-- The number of a marker. -/
def readMarker (value : String) : Option Nat :=
  (Numeral.word value.toList).toOption

/-- A fraction. -/
def readFraction (value : String) : Option Float :=
  (Scalar.read? value.toList).toOption

/-- Whether a text is a value that an option takes. -/
def ValueOption.takes (value : String) : ValueOption → Bool
  | .logFile | .config | .output | .estimator | .libraries => (readPath value).isSome
  | .lens => (Lens.ofName? value).isSome
  | .bankMapPolicy => (BankMapPolicy.ofName? value).isSome
  | .fraction => (readFraction value).isSome
  | .firstMarker | .lastMarker => (readMarker value).isSome

/-! ## Reading the words -/

/-- What was found on a command line. -/
structure Found where
  values : List (ValueOption × String) := []
  flags : List Flag := []
  /-- The argument that belongs to no option. -/
  positional : Option String := none

namespace Found

/-- Adds a value that the option takes, unless it has one. -/
def addValue (found : Found) (option : ValueOption) (value : String) : Option Found :=
  if (found.values.lookup option).isSome || !option.takes value then none
  else some { found with values := found.values ++ [(option, value)] }

/-- Adds a flag, unless it is set. -/
def addFlag (found : Found) (flag : Flag) : Option Found :=
  if flag ∈ found.flags then none else some { found with flags := found.flags ++ [flag] }

/-- Adds the argument that belongs to no option, a path, unless there is one. -/
def addPositional (found : Found) (value : String) : Option Found :=
  match found.positional with
  | some _ => none
  | none => (readPath value).map fun path => { found with positional := some path }

/-- The value that has been given for an option. -/
def value? (found : Found) (option : ValueOption) : Option String :=
  found.values.lookup option

/-- Whether help is asked for. -/
def asksHelp (found : Found) : Bool :=
  Flag.help ∈ found.flags

end Found

/-- Whether characters after a minus make a negative number: digits with a point
after the first of them, and an exponent that is not empty. -/
def isNumber (first : Bool) (seenPoint seenExponent : Bool) : List Char → Bool
  | [] => true
  | c :: rest =>
    if c.isDigit then isNumber false seenPoint seenExponent rest
    else if c = '.' ∧ !first ∧ !seenPoint ∧ !seenExponent then
      isNumber false true seenExponent rest
    else if (c = 'e' ∨ c = 'E') ∧ !first ∧ !seenExponent then
      !rest.isEmpty && isNumber false seenPoint true rest
    else false

/-- Whether an argument may be the value of an option that stands before it.
What starts with a minus is an option of its own; only the fraction takes
negative numbers. -/
def mayBeValue (option : ValueOption) (word : List Char) : Bool :=
  match word with
  | '-' :: c :: rest =>
    option = .fraction && c != '-' && isNumber true false false (c :: rest)
  | _ => true

/-- What is attached to a letter: a value, possibly after an equals sign. -/
def attached : List Char → List Char
  | '=' :: value => value
  | value => value

/-- What an argument asks for. -/
inductive Request
  /-- All of it is dealt with. -/
  | done (found : Found)
  /-- The next argument is the value of an option. -/
  | pending (found : Found) (option : ValueOption)

/-- Reads letters that are joined in one argument, up to the one for help. -/
def readLetters (found : Found) : List Char → Option Request
  | [] => some (.done found)
  | c :: rest =>
    match letters.lookup c with
    | none => none
    | some (.flag flag) => do
      let found ← found.addFlag flag
      if found.asksHelp then return .done found else readLetters found rest
    | some (.value option) =>
      if rest.isEmpty then some (.pending found option)
      else (found.addValue option (String.ofList (attached rest))).map .done

/-- Reads a long option, with its value if one is attached. -/
def readLong (found : Found) (text : List Char) : Option Request :=
  let name := text.takeWhile (· != '=')
  let value? := if text.contains '=' then some (text.drop (name.length + 1)) else none
  match longNames.lookup (String.ofList name), value? with
  | some (.flag flag), none => (found.addFlag flag).map .done
  | some (.value option), none => some (.pending found option)
  | some (.value option), some value =>
    (found.addValue option (String.ofList value)).map .done
  | _, _ => none

/-- Reads an argument that is not the value of an option. -/
def readWord (found : Found) (word : List Char) : Option Request :=
  match word with
  | '-' :: '-' :: name => readLong found name
  | '-' :: c :: rest => readLetters found (c :: rest)
  | _ => (found.addPositional (String.ofList word)).map .done

/-- Reads arguments, up to one that asks for help. After two dashes none of them
is an option. -/
def readWords (found : Found) : List String → Option Found
  | [] => some found
  | word :: rest =>
    if found.asksHelp then some found
    else if word = "--" then rest.foldlM Found.addPositional found
    else
      match readWord found word.toList with
      | none => none
      | some (.done found) => readWords found rest
      | some (.pending found option) =>
        match rest with
        | [] => none
        | value :: rest =>
          if mayBeValue option value.toList then
            match found.addValue option value with
            | none => none
            | some found => readWords found rest
          else none

end CommandLine

/-! ## Arguments -/

/-- The arguments of a run. -/
structure Arguments where
  logFile : Option String
  logFileAppend : Bool
  resultsDirectory : String
  configFile : Option String
  output : String
  lens : Lens
  bankMapPolicy : BankMapPolicy
  fraction : Option Float
  implicitAccesses : Bool
  markers : Markers
  estimator : String
  libraries : Option String
  noEstimatorRun : Bool
  noText : Bool
  noCollapse : Bool

namespace Arguments

open CommandLine

/-- The value of an option, or `default` without one. -/
def valueOr {β : Type} (found : Found) (option : ValueOption) (default : β)
    (read : String → Option β) : β :=
  ((found.value? option).bind read).getD default

/-- The value of an option, if it is given. -/
def value? {β : Type} (found : Found) (option : ValueOption) (read : String → Option β) :
    Option β :=
  (found.value? option).bind read

/-- The arguments that were found, where `directory` has the results. -/
def ofFound (found : Found) (directory : String) : Arguments where
  logFile := value? found .logFile readPath
  logFileAppend := Flag.logFileAppend ∈ found.flags
  resultsDirectory := directory
  configFile := value? found .config readPath
  output := valueOr found .output "power" readPath
  lens := valueOr found .lens .total Lens.ofName?
  bankMapPolicy := valueOr found .bankMapPolicy .allWays BankMapPolicy.ofName?
  fraction := value? found .fraction readFraction
  implicitAccesses := Flag.implicitAccesses ∈ found.flags
  markers := {
    first := valueOr found .firstMarker 64 readMarker
    last := valueOr found .lastMarker 5000 readMarker }
  estimator := valueOr found .estimator "mcpat" readPath
  libraries := value? found .libraries readPath
  noEstimatorRun := Flag.noEstimatorRun ∈ found.flags
  noText := Flag.noText ∈ found.flags
  noCollapse := Flag.noCollapse ∈ found.flags

/-- The options that the arguments set. -/
def options (arguments : Arguments) : Except Failure (Options Float) := do
  return {
    lens := arguments.lens
    bankMapPolicy := arguments.bankMapPolicy
    inBankFraction := ← Options.fractionOf arguments.fraction
    implicitAccesses := arguments.implicitAccesses
    keepSmall := arguments.noCollapse
    markers := arguments.markers }

end Arguments

/-- What a command line asks for. -/
inductive Invocation
  | run (arguments : Arguments)
  | help
  | misuse

/-- Reads a command line. -/
def Invocation.ofWords (words : List String) : Invocation :=
  match CommandLine.readWords {} words with
  | none => .misuse
  | some found =>
    if found.asksHelp then .help
    else
      match found.positional with
      | some directory => .run (Arguments.ofFound found directory)
      | none => .misuse

end ChipPower
