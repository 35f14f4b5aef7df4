import ChipPower.Report.Nesting
import ChipPower.Stack.Lens
import ChipPower.Text.Lines

/-!
Blocks of a report. A block describes one component: its label, and indented
lines of which those with an equals sign are metrics and the others open the
structures that the metrics belong to.
-/

namespace ChipPower

/-- A component as a block describes it. -/
structure Block (α : Type) where
  label : String
  record : Metrics α

namespace Block

/-! ## Metric lines -/

/-- The characters of numbers. -/
def isNumberChar (c : Char) : Bool :=
  c.isDigit || c == '-' || c == '+' || c == '.' || c == 'e'

/-- Whether a character is a plain space. -/
def isSpace (c : Char) : Bool :=
  c == ' '

/-- The value at the start of a text, if there is one. A number that runs into
`nan` is undefined in the report and counts as zero: structures without area
report their gated leakage so. -/
def readValue {α : Type} [Scalar α] (text : List Char) : Except Failure (Option α) :=
  let number := text.takeWhile isNumberChar
  let suffix := text.dropWhile isNumberChar
  if number.isEmpty then .ok none
  else if "nan".toList.isPrefixOf suffix then .ok (some 0.0)
  else
    match Scalar.read? number with
    | .ok x => .ok (some x)
    | .error reason =>
      during (.parseNumber (String.ofList number)) (fail (.malformedNumber reason))

/-- Reads a line as the name and the value of a metric, if it is one. -/
def readMetric {α : Type} [Scalar α] (line : List Char) :
    Except Failure (Option (List Char × α)) :=
  match Text.splitFirst '=' (Text.trimStart isSpace line) with
  | none => .ok none
  | some ([], _) => .ok none
  | some (name, rest) =>
    match readValue (Text.trimStart isSpace rest) with
    | .error failure => .error failure
    | .ok value => .ok (value.map fun x => (name, x))

/-! ## Structure lines -/

/-- How far a line is indented. -/
def indentOf (line : List Char) : Nat :=
  (line.takeWhile isSpace).length

/-- The name of the structure that a line opens, up to a colon or a bracket. -/
def structureName (line : List Char) : List Char :=
  (line.dropWhile isSpace).takeWhile fun c => c != ':' && c != '('

/-! ## Blocks -/

/-- The record of a block's lines, where `record` holds the metrics before
them. -/
def readLines {α : Type} [Scalar α] (label : String) (nesting : Nesting) (record : Metrics α) :
    List (List Char) → Except Failure (Metrics α)
  | [] => .ok record
  | line :: rest =>
    if line.all Text.isBlank then readLines label nesting record rest
    else if line.contains '=' then
      match during (.parseMetric (String.ofList line) label) (readMetric line) with
      | .error failure => .error failure
      | .ok none => readLines label nesting record rest
      | .ok (some (name, x)) =>
        readLines label nesting (record.insert (String.ofList (nesting.path name)) x) rest
    else readLines label (nesting.enter (indentOf line) (structureName line)) record rest

/-- The label in the first line of a block. -/
def labelOf (line : List Char) : String :=
  String.ofList (Text.trimBoth (· == ':') (Text.trim line))

/-- Reads a block. -/
def read {α : Type} [Scalar α] (text : List Char) : Except Failure (Block α) :=
  match Text.lines (Text.trim text) with
  | [] => .ok { label := "", record := ∅ }
  | first :: rest => do
    let label := labelOf first
    return { label, record := ← readLines label [] ∅ rest }

end Block

end ChipPower
