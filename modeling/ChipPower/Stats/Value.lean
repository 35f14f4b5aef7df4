import ChipPower.Failure
import ChipPower.Numeric.Scalar

/-!
Values of statistics: a single number, or a list with one number for each core.
Two values of the same kind combine element by element, as far as the shorter
list goes; values of different kinds do not combine.
-/

namespace ChipPower

/-- The value of a statistic. -/
inductive Value (α : Type)
  | scalar (x : α)
  | list (xs : List α)
  deriving DecidableEq, Repr

namespace Value

variable {α β : Type}

/-- The name of a value's kind. -/
def kind : Value α → String
  | .scalar _ => "scalar"
  | .list _ => "list"

/-- An element of a list. A single number has none. -/
def get? : Value α → Nat → Option α
  | .scalar _, _ => none
  | .list xs, index => xs[index]?

/-- The value as one number, also if it is a list of one. -/
def single? : Value α → Option α
  | .scalar x => some x
  | .list [x] => some x
  | .list _ => none

/-- The sum of the elements. -/
def sum [Scalar α] : Value α → α
  | .scalar x => x
  | .list xs => Scalar.sum xs

/-- Changes every element. -/
def map (f : α → β) : Value α → Value β
  | .scalar x => .scalar (f x)
  | .list xs => .list (xs.map f)

/-- Combines the elements of two values of the same kind. -/
def zipWith (f : α → α → α) : Value α → Value α → Except Failure (Value α)
  | .scalar x, .scalar y => .ok (.scalar (f x y))
  | .list xs, .list ys => .ok (.list (List.zipWith f xs ys))
  | x, y => fail (.kindMismatch x.kind y.kind)

/-- The sum of two values of the same kind. -/
def add [Add α] (x y : Value α) : Except Failure (Value α) :=
  x.zipWith (· + ·) y

theorem zipWith_eq_ok_iff {f : α → α → α} {x y : Value α} :
    (∃ z, x.zipWith f y = .ok z) ↔ x.kind = y.kind := by
  cases x <;> cases y <;> simp [zipWith, kind, fail]

end Value

end ChipPower
