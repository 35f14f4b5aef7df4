import ChipPower.Proofs.Text.Lines
import ChipPower.Report.Block

/-!
# Printed blocks

How a block of a report is written: the label, the metrics of the component, and
its structures, each with its metrics and then the structures inside it. Names,
metrics and blocks carry what makes them printable, so that every `PrintedBlock`
has a text.

* `PrintedStructures.script` lists the lines of structures one after the other, as
  `PrintedLine`s, and `PrintedLine.text` writes one line. Structures that belong
  together stand at one indentation, and the structures inside of them further in by
  at least one.
* `PrintedStructures.entries` says, without the lines, which metrics there are: each
  one under the names of the structures around it.
-/

namespace ChipPower

open Text

/-! ## Names and metrics -/

/-- A name that can be printed: it does not begin or end with a blank, and it has none
of the characters that would end it. -/
structure PrintedName where
  chars : List Char
  tight : Tight isBlank chars
  plain : ∀ c ∈ chars, c ≠ '\n' ∧ c ≠ '=' ∧ c ≠ ':' ∧ c ≠ '('

/-- The path of a metric: the names around it and its own, joined by slashes. -/
def PrintedName.path (parents : List PrintedName) (name : PrintedName) : String :=
  String.ofList (List.intercalate ['/'] ((parents ++ [name]).map (·.chars)))

/-- A metric that can be printed: its number is written in the characters of numbers
and stands for its value, and its unit stays on the line. -/
structure PrintedMetric (α : Type) [Scalar α] where
  indent : Nat
  name : PrintedName
  number : List Char
  unit : List Char
  value : α
  digits : ∀ c ∈ number, Block.isNumberChar c = true
  reads : Scalar.read? number = .ok value
  oneLine : '\n' ∉ unit

/-! ## Lines -/

section Lines

variable {α : Type} [Scalar α]

/-- A line of a block after the label. -/
inductive PrintedLine (α : Type) [Scalar α]
  /-- The head of a structure, which may say how many of them there are. -/
  | header (indent : Nat) (name : PrintedName) (count : Option Nat)
  | metric (line : PrintedMetric α)

def PrintedLine.countHead : List Char := " (Count: ".toList

/-- The count behind the name of a structure. -/
def PrintedLine.countText : Option Nat → List Char
  | none => []
  | some count => countHead ++ Nat.toDigits 10 count ++ [')']

def PrintedLine.text : PrintedLine α → List Char
  | .header indent name count =>
    List.replicate indent ' ' ++ name.chars ++ countText count ++ [':']
  | .metric line =>
    List.replicate line.indent ' ' ++ line.name.chars ++ [' ', '=', ' '] ++ line.number ++
      ' ' :: line.unit

/-- An entry of a record for a metric within structures. -/
def PrintedMetric.entry (parents : List PrintedName) (metric : PrintedMetric α) : String × α :=
  (metric.name.path parents, metric.value)

end Lines

/-! ## Structures -/

/-- Structures at one indentation. The first one comes with its metrics and with the
structures inside of it, which are indented by `deeper + 1` more; `next` are the others. -/
inductive PrintedStructures (α : Type) [Scalar α]
  | none
  | cons (name : PrintedName) (count : Option Nat) (metrics : List (PrintedMetric α))
    (deeper : Nat) (inner : PrintedStructures α) (next : PrintedStructures α)

namespace PrintedStructures

variable {α : Type} [Scalar α]

/-- The lines of structures that stand at an indentation. -/
def script (indent : Nat) : PrintedStructures α → List (PrintedLine α)
  | none => []
  | cons name count metrics deeper inner next =>
    .header indent name count :: metrics.map .metric ++
      inner.script (indent + deeper + 1) ++ next.script indent

/-- The metrics of structures, within the structures around them. -/
def entries (parents : List PrintedName) : PrintedStructures α → List (String × α)
  | none => []
  | cons name _ metrics _ inner next =>
    metrics.map (·.entry (parents ++ [name])) ++ inner.entries (parents ++ [name]) ++
      next.entries parents

end PrintedStructures

/-! ## Blocks -/

/-- A block that can be printed. Its label does not begin or end with a blank or a
colon, and `colons` of them follow it. -/
structure PrintedBlock (α : Type) [Scalar α] where
  label : List Char
  colons : Nat
  metrics : List (PrintedMetric α)
  indent : Nat
  structures : PrintedStructures α
  noBlank : Tight isBlank label
  noColon : Tight (· == ':') label
  oneLine : '\n' ∉ label

namespace PrintedBlock

variable {α : Type} [Scalar α]

def script (block : PrintedBlock α) : List (PrintedLine α) :=
  block.metrics.map .metric ++ block.structures.script block.indent

def firstLine (block : PrintedBlock α) : List Char :=
  block.label ++ List.replicate block.colons ':'

def text (block : PrintedBlock α) : List Char :=
  unlines (block.firstLine :: block.script.map PrintedLine.text)

/-- All metrics of a block, in the order in which they are printed. -/
def entries (block : PrintedBlock α) : List (String × α) :=
  block.metrics.map (·.entry []) ++ block.structures.entries []

end PrintedBlock

end ChipPower
