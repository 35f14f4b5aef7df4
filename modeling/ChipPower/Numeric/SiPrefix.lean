import ChipPower.Numeric.Scalar

/-!
SI prefixes. A value is written with the largest prefix that leaves at least one
unit of it, or with the smallest prefix if none does.
-/

namespace ChipPower

/-- An SI prefix. -/
structure SiPrefix where
  exponent : Int
  symbol : String
  deriving DecidableEq, Repr

namespace SiPrefix

/-- The prefixes, from the largest to the smallest. -/
def all : List SiPrefix := [
  ⟨12, "T"⟩, ⟨9, "G"⟩, ⟨6, "M"⟩, ⟨3, "k"⟩, ⟨0, ""⟩, ⟨-3, "m"⟩, ⟨-6, "u"⟩, ⟨-9, "n"⟩,
  ⟨-12, "p"⟩]

/-- The smallest prefix. -/
def smallest : SiPrefix := ⟨-12, "p"⟩

/-- No prefix. -/
def one : SiPrefix := ⟨0, ""⟩

/-- What a prefix multiplies by. -/
def factor {α : Type} [Scalar α] (p : SiPrefix) : α :=
  OfScientific.ofScientific 1 (p.exponent < 0) p.exponent.natAbs

/-- The prefix for a value that is neither zero nor infinite nor undefined. -/
def choose {α : Type} [Scalar α] (value : α) : SiPrefix :=
  (all.find? fun p => Scalar.atMost p.factor (Scalar.abs value)).getD smallest

end SiPrefix

/-- A value with an SI prefix. -/
structure Prefixed (α : Type) where
  mantissa : α
  unit : SiPrefix

namespace Prefixed

variable {α : Type} [Scalar α]

/-- Writes a value with a prefix. Zero, infinite and undefined values have
none. -/
def ofValue (value : α) : Prefixed α :=
  if Scalar.isZero value || !Scalar.isFinite value then { mantissa := value, unit := .one }
  else
    let unit := SiPrefix.choose value
    { mantissa := value / unit.factor, unit }

/-- The shortest text of a value and its prefix. -/
def text (p : Prefixed α) : String :=
  Scalar.text p.mantissa ++ " " ++ p.unit.symbol

/-- A value with a fixed number of places, and its prefix. -/
def fixed (places : Nat) (p : Prefixed α) : String :=
  Scalar.fixed places p.mantissa ++ " " ++ p.unit.symbol

end Prefixed

end ChipPower
