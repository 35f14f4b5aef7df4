import ChipPower.Dict

/-!
Rounding up to a power of two. A cache model takes only powers of two for some
sizes; other numbers are rounded up, and each number that was changed is noted
once.
-/

namespace ChipPower

/-- The numbers that had to be rounded. -/
abbrev Rounded := Dict Nat Unit

namespace PowerOfTwo

/-- The least power of two that is at least `n`. Zero stays zero, and so does a
number above the largest power of two among 64-bit words. -/
def roundUp (n : Nat) : Nat :=
  if n ≤ 1 ∨ Nat.pow 2 63 < n then n else Nat.pow 2 ((n - 1).log2 + 1)

/-- Notes a number if rounding changes it. -/
def note (rounded : Rounded) (n : Nat) : Rounded :=
  if roundUp n = n then rounded else rounded.insert n ()

/-- Rounds a number up, and notes it if that changes it. -/
def round (rounded : Rounded) (n : Nat) : Nat × Rounded :=
  (roundUp n, note rounded n)

/-- Rounds numbers up one after the other, each with the notes that the ones before it left. -/
def roundAll (rounded : Rounded) : List Nat → List Nat × Rounded
  | [] => ([], rounded)
  | n :: rest =>
    let (first, noted) := round rounded n
    let (others, noted) := roundAll noted rest
    (first :: others, noted)

end PowerOfTwo

end ChipPower
