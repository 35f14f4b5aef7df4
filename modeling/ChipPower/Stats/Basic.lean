import ChipPower.Dict
import ChipPower.Stats.Value

/-!
Statistics: values by name, as a simulator counts them. The accessors demand a
statistic of a certain form and say what is wrong with it otherwise.
-/

namespace ChipPower

/-- Statistics, as values by name. -/
abbrev Stats (α : Type) := Dict String (Value α)

namespace Stats

variable {α : Type} (stats : Stats α)

/-- A statistic that has to be there. -/
def require (name : String) : Except Failure (Value α) :=
  match stats.get? name with
  | some value => .ok value
  | none => fail (.missingStatistic name)

/-- The elements of a statistic that has to be a list. -/
def list (name : String) : Except Failure (List α) := do
  match ← stats.require name with
  | .list xs => return xs
  | .scalar _ => fail (.scalarForList name)

/-- The number of a statistic that has to be one number. -/
def scalar (name : String) : Except Failure α := do
  let value ← stats.require name
  match value.single? with
  | some x => return x
  | none => fail (.kindForScalar name value.kind)

/-- An element of a statistic that has to have it. -/
def element (name : String) (index : Nat) : Except Failure α := do
  let value ← stats.require name
  match value.get? index with
  | some x => return x
  | none => fail (.noElement name index)

/-- An element of a statistic that may be missing; then it counts as zero. -/
def elementOrZero [Scalar α] (name : String) (index : Nat) : Except Failure α :=
  if stats.contains name then stats.element name index else .ok 0.0

/-- The first elements of a list, one for each of `count` cores. -/
def coreList (name : String) (count : Nat) : Except Failure (List α) := do
  let xs ← stats.list name
  if count ≤ xs.length then return xs.take count
  else fail (.shortList name xs.length count)

/-! ## Sums over ranges -/

/-- Adds to a total as many elements of a statistic as `count` says, from the one
at `index` on. The first element that is missing ends the sum. -/
def sumFrom [Scalar α] (name : String) (total : α) (index : Nat) : Nat → Except Failure α
  | 0 => .ok total
  | count + 1 =>
    match stats.element name index with
    | .error failure => .error failure
    | .ok x => sumFrom name (total + x) (index + 1) count

/-- The sum of the elements of a statistic from the start of a range up to its
end. -/
def sumOver [Scalar α] (name : String) (range : Nat × Nat) : Except Failure α :=
  stats.sumFrom name Scalar.emptySum range.1 (range.2 - range.1)

/-- The sum of the elements of a statistic that may be missing; then it counts
as zero. -/
def sumOverOrZero [Scalar α] (name : String) (range : Nat × Nat) : Except Failure α :=
  if stats.contains name then stats.sumOver name range else .ok 0.0

/-- A sum is the fold over the indices of its range, in ascending order. -/
theorem sumFrom_eq_foldlM [Scalar α] (name : String) (total : α) (index count : Nat) :
    stats.sumFrom name total index count =
      (List.range' index count).foldlM (fun total i => (total + ·) <$> stats.element name i)
        total := by
  induction count generalizing total index with
  | zero => rfl
  | succ count ih =>
    rw [sumFrom, List.range'_succ, List.foldlM_cons]
    cases stats.element name index with
    | error failure => rfl
    | ok x => exact ih (total + x) (index + 1)

end Stats

end ChipPower
