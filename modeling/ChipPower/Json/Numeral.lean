import ChipPower.Numeric.Scalar

/-!
Numbers of JSON documents. A number is kept as it was written: what it stands for
depends on whether an integer or a binary64 number is wanted. Binary64 numbers are
computed from the leading digits that fit a 64-bit word and one power of ten, so
the last bit of a long number is not always the nearest.
-/

namespace ChipPower.Json

/-- A number as it was written. -/
structure Numeral where
  negative : Bool := false
  /-- The digits before the point, by their values. -/
  whole : List Nat
  /-- The digits after the point, of which there is one at least if there is a
  point. -/
  fraction : List Nat := []
  exponent : Option Int := none
  deriving DecidableEq, Repr

namespace Numeral

/-- Reads digits onto `value` as long as a 64-bit word holds it, and gives back
the digits that are left. -/
def gather (value : Nat) : List Nat → Nat × List Nat
  | [] => (value, [])
  | d :: rest =>
    if 10 * value + d ≤ ChipPower.Numeral.maxWord then gather (10 * value + d) rest
    else (value, d :: rest)

/-- The value of the digits, if there is neither a point nor an exponent and a
word holds it. -/
def magnitude? (n : Numeral) : Option Nat :=
  if !n.fraction.isEmpty || n.exponent.isSome then none
  else
    match gather 0 n.whole with
    | (value, []) => some value
    | _ => none

/-- The least number that is read as an integer is the negation of this one. -/
def maxNegated : Nat := Nat.pow 2 63

/-- The integer that a number is written as, if 64 bits hold it. A zero with a
sign is no integer. -/
def integer? (n : Numeral) : Option Int :=
  match n.magnitude? with
  | none => none
  | some value =>
    if !n.negative then some value
    else if 0 < value ∧ value ≤ maxNegated then some (-value)
    else none

/-- The leading digits that fit a word, and the power of ten that they are to be
multiplied with. -/
def significand (n : Numeral) : Nat × Int :=
  let (value, left) := gather 0 n.whole
  let (value, unused) := gather value n.fraction
  (value, left.length - (n.fraction.length - unused.length : Nat) + n.exponent.getD 0)

/-- Divides by `10 ^ 308` as often as it takes to bring an exponent within
reach, and then by what is left of it. Two divisions bring any word to zero. -/
def scaleDown : Nat → Float → Nat → Float
  | 0, x, _ => x
  | fuel + 1, x, exponent =>
    if exponent ≤ 308 then x / Binary64.ofDecimal false 1 exponent
    else scaleDown fuel (x / 1e308) (exponent - 308)

/-- A word times a power of ten, if that is not too large. -/
def scale (value : Nat) (exponent : Int) : Option Float :=
  let x := Float.ofNat value
  if exponent < 0 then some (scaleDown 4 x exponent.natAbs)
  else if 308 < exponent then if value = 0 then some x else none
  else
    let y := x * Binary64.ofDecimal false 1 exponent
    if y.isFinite then some y else none

/-- The binary64 number, if it is not too large. -/
def float? (n : Numeral) : Option Float :=
  let (value, exponent) := n.significand
  (scale value exponent).map (Binary64.signed n.negative)

/-- What the number is in messages. -/
def kind (n : Numeral) : String :=
  match n.integer?, n.float? with
  | some value, _ => "integer `" ++ toString value ++ "`"
  | none, some x => "floating point `" ++ Decimal.Layout.stored.text x ++ "`"
  | none, none => "number"

/-- The digits, as they were written. -/
def digitText (digits : List Nat) : String :=
  String.ofList (digits.map Nat.digitChar)

/-- The number, as it was written. -/
def text (n : Numeral) : String :=
  (if n.negative then "-" else "") ++ digitText n.whole ++
    (if n.fraction.isEmpty then "" else "." ++ digitText n.fraction) ++
    n.exponent.elim "" fun exponent => "e" ++ toString exponent

end Numeral

end ChipPower.Json
