import ChipPower.Hierarchy.Basic
import ChipPower.Memory
import ChipPower.Report.Block

/-!
Reports of the estimator as component trees. A report is a sequence of blocks
between lines of asterisks. Components that a chip has several of are kept as
the list of their records in the order of the report; all others must be unique.
-/

namespace ChipPower

/-- A component of the chip. -/
inductive Component (α : Type)
  | single (record : Metrics α)
  /-- One record for each core or bank, in the order of the report. -/
  | instances (records : List (Metrics α))

/-- The components of a chip, by label. -/
abbrev Tree (α : Type) := Dict String (Component α)

namespace Tree

/-- The labels of the components that a chip has several of. -/
def repeatedLabels : List String := ["Core", "L2", "L3"]

/-- The label of the cache level that stands for NUCA. -/
def nucaLabel : String := "NUCA"

/-- The label of the main memory. -/
def memoryLabel : String := "DRAM"

section Queries

variable {α : Type} (tree : Tree α)

/-- The record of a component that is unique. -/
def single? (label : String) : Option (Metrics α) :=
  match tree.get? label with
  | some (.single record) => some record
  | _ => none

/-- The records of a component that a chip has several of, none without it. -/
def instances (label : String) : List (Metrics α) :=
  match tree.get? label with
  | some (.instances records) => records
  | _ => []

/-- Adds a record to a component that a chip has several of. -/
def addInstance (label : String) (record : Metrics α) : Except Failure (Tree α) :=
  match tree.get? label with
  | none => .ok (tree.insert label (.instances [record]))
  | some (.instances records) => .ok (tree.insert label (.instances (records ++ [record])))
  | some (.single _) => fail (.repeatedAndUnique label)

/-- Adds a component that is unique. -/
def addSingle (label : String) (record : Metrics α) : Except Failure (Tree α) :=
  match tree.get? label with
  | none => .ok (tree.insert label (.single record))
  | some _ => fail (.duplicateComponent label)

/-- The label under which a component is kept: the level that stands for NUCA
is kept as such. -/
def labelFor (nucaLevel : Option CacheLevel) (label : String) : String :=
  if nucaLevel.map CacheLevel.label = some label then nucaLabel else label

/-- Adds the component of a block. -/
def addBlock (nucaLevel : Option CacheLevel) (block : Block α) : Except Failure (Tree α) :=
  if block.label ∈ repeatedLabels then
    tree.addInstance (labelFor nucaLevel block.label) block.record
  else tree.addSingle block.label block.record

end Queries

section Reports

variable {α : Type} [Scalar α]

/-- The line between the blocks of a report. -/
def separator : List Char := List.replicate 89 '*'

/-- The blocks of a report. What comes before the second separator is a banner
and a summary of the technology, and what follows the last is no block. -/
def blockTexts (report : List Char) : List (List Char) :=
  ((Text.splitOn separator report).drop 2).dropLast

/-- Adds the components of blocks, up to the first that cannot be read or
added. -/
def addBlocks (nucaLevel : Option CacheLevel) (tree : Tree α) :
    List (List Char) → Except Failure (Tree α)
  | [] => .ok tree
  | text :: rest =>
    match Block.read text with
    | .error failure => .error failure
    | .ok block =>
      match tree.addBlock nucaLevel block with
      | .error failure => .error failure
      | .ok tree => addBlocks nucaLevel tree rest

/-- The components of a report, of which there has to be one. -/
def ofReport (nucaLevel : Option CacheLevel) (report : String) : Except Failure (Tree α) := do
  let tree ← addBlocks nucaLevel ∅ (blockTexts report.toList)
  if tree.isEmpty then fail .emptyReport else return tree

/-- Adds the record of the main memory. -/
def insertMemory (tree : Tree α) (power : MemoryPower α) : Tree α :=
  tree.insert memoryLabel (.single power.record)

end Reports

end Tree

end ChipPower
