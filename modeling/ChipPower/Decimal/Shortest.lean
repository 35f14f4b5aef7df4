import ChipPower.Numeric.Binary64

/-!
The shortest decimal that reads back. A binary64 number stands for every real
that rounds to it; of the decimals among them one with the fewest digits is
taken, and of those the nearest. The search runs over the grids of 1, 2, ... 17
digits and looks on each at the two neighbours of the number. Two neighbours may
be equally near; which one is taken then is up to the format.
-/

namespace ChipPower.Decimal

/-- The decimal number `digits * 10 ^ exponent`. -/
structure Scaled where
  digits : Nat
  exponent : Int
  deriving DecidableEq, Repr

/-- Moves trailing zeros of the digits into the exponent. `fuel` bounds their
number. -/
def Scaled.stripFrom : Nat → Scaled → Scaled
  | 0, d => d
  | fuel + 1, d =>
    if d.digits ≠ 0 ∧ d.digits % 10 = 0 then
      Scaled.stripFrom fuel ⟨d.digits / 10, d.exponent + 1⟩
    else d

/-- The same number without trailing zeros. -/
def Scaled.strip (d : Scaled) : Scaled :=
  Scaled.stripFrom (Binary64.decimalLength d.digits) d

/-- A positive number with its rounding interval, in units of `1 / unit`: the
number is `value / unit`, and all from `value - below` to `value + above` round
to it, the ends only if `closed`. -/
structure Interval where
  unit : Nat
  value : Nat
  below : Nat
  above : Nat
  closed : Bool
  deriving Repr

/-- The interval of `mantissa * 2 ^ exponent`. Below the least mantissa the
numbers lie twice as dense, unless the exponent is the least one, too. -/
def Interval.ofBinary (mantissa : Nat) (exponent : Int) : Interval :=
  let scale := if exponent < 0 then 1 else Nat.pow 2 exponent.natAbs
  let unit := if exponent < 0 then Nat.pow 2 exponent.natAbs else 1
  { unit := 4 * unit
    value := 4 * mantissa * scale
    below := if mantissa = Nat.pow 2 52 ∧ -1074 < exponent then scale else 2 * scale
    above := 2 * scale
    closed := mantissa % 2 == 0 }

/-- Whether the distance `gap` lies within `limit`. -/
def Interval.within (i : Interval) (gap limit : Nat) : Bool :=
  if i.closed then gap ≤ limit else gap < limit

/-- The power of ten that bounds the number from above, or the next one. -/
def Interval.magnitude (i : Interval) : Int :=
  if i.unit ≤ i.value then Binary64.decimalLength (i.value / i.unit)
  else 1 - Binary64.decimalLength (i.unit / i.value)

/-- Which of two equally near decimals is taken. -/
inductive Tie
  | upper
  | even
  deriving DecidableEq, Repr

/-- Whether the upper neighbour is taken when the lower one ends in the digits
`low`. -/
def Tie.takesUpper (low : Nat) : Tie → Bool
  | .upper => true
  | .even => low % 2 == 1

/-- The multiple of `10 ^ exponent` in the interval that is nearest to the
number. -/
def Interval.onGrid? (i : Interval) (tie : Tie) (exponent : Int) : Option Scaled :=
  let grow := if exponent < 0 then Nat.pow 10 exponent.natAbs else 1
  let step := i.unit * if exponent < 0 then 1 else Nat.pow 10 exponent.natAbs
  let low := i.value * grow / step
  let gapLow := i.value * grow - low * step
  let gapHigh := step - gapLow
  let fitsLow := i.within gapLow (i.below * grow) && low != 0
  let fitsHigh := i.within gapHigh (i.above * grow)
  let prefersLow := gapLow < gapHigh || (gapLow == gapHigh && !tie.takesUpper low)
  if fitsLow && (prefersLow || !fitsHigh) then some ⟨low, exponent⟩
  else if fitsHigh then some ⟨low + 1, exponent⟩
  else none

/-- The shortest decimal that reads back as `mantissa * 2 ^ exponent`. -/
def shortest (tie : Tie) (mantissa : Nat) (exponent : Int) : Scaled :=
  if mantissa = 0 then ⟨0, 0⟩
  else
    let i := Interval.ofBinary mantissa exponent
    let found := (List.range 17).findSome? fun n : Nat => i.onGrid? tie (i.magnitude - (n + 1))
    (found.getD ⟨mantissa, 0⟩).strip

end ChipPower.Decimal
