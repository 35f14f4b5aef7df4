/-!
Binary64 numbers as exact values. A finite one is a sign, a natural mantissa
and a power of two; cutting it to a whole number, rounding it up and comparing
it with decimals are then questions about natural numbers.
-/

namespace ChipPower

/-- What a binary64 number stands for. -/
inductive Binary64
  | nan
  | infinite (negative : Bool)
  /-- The number `mantissa * 2 ^ exponent`, negated if `negative`. -/
  | finite (negative : Bool) (mantissa : Nat) (exponent : Int)
  deriving DecidableEq, Repr

namespace Binary64

/-- Takes a number apart along the fields of its bits. -/
def ofFloat (x : Float) : Binary64 :=
  let bits := x.toBits.toNat
  let negative := bits / Nat.pow 2 63 == 1
  let exponent := bits / Nat.pow 2 52 % Nat.pow 2 11
  let fraction := bits % Nat.pow 2 52
  if exponent = 2047 then
    if fraction = 0 then .infinite negative else .nan
  else if exponent = 0 then .finite negative fraction (-1074)
  else .finite negative (Nat.pow 2 52 + fraction) (Int.ofNat exponent - 1075)

/-- The whole part of `mantissa * 2 ^ exponent`. -/
def wholePart (mantissa : Nat) (exponent : Int) : Nat :=
  if exponent < 0 then mantissa / Nat.pow 2 exponent.natAbs
  else mantissa * Nat.pow 2 exponent.natAbs

/-- Whether `mantissa * 2 ^ exponent` is a whole number. -/
def isWhole (mantissa : Nat) (exponent : Int) : Bool :=
  0 ≤ exponent || mantissa % Nat.pow 2 exponent.natAbs == 0

/-- The number `mantissa * 2 ^ exponent` as a quotient of natural numbers. -/
def quotient (mantissa : Nat) (exponent : Int) : Nat × Nat :=
  if exponent < 0 then (mantissa, Nat.pow 2 exponent.natAbs)
  else (mantissa * Nat.pow 2 exponent.natAbs, 1)

/-- Gives a number the sign of a sign bit. -/
def signed (negative : Bool) (x : Float) : Float :=
  if negative then -x else x

/-- The infinity of a sign. -/
def infinity (negative : Bool) : Float :=
  signed negative (1.0 / 0.0)

/-- The number without its fraction. A zero keeps the sign. -/
def truncate (x : Float) : Float :=
  match ofFloat x with
  | .finite negative mantissa exponent =>
    if isWhole mantissa exponent then x
    else signed negative (Float.ofNat (wholePart mantissa exponent))
  | _ => x

/-- The least whole number that is not below `x`. -/
def roundUp (x : Float) : Float :=
  match ofFloat x with
  | .finite negative mantissa exponent =>
    if isWhole mantissa exponent then x
    else if negative then signed true (Float.ofNat (wholePart mantissa exponent))
    else Float.ofNat (wholePart mantissa exponent + 1)
  | _ => x

/-- The whole part of a finite number, and zero for all others. -/
def toInt (x : Float) : Int :=
  match ofFloat x with
  | .finite negative mantissa exponent =>
    let whole := wholePart mantissa exponent
    if negative then -whole else whole
  | _ => 0

/-- The number of decimal digits, at least one. -/
def decimalLength (n : Nat) : Nat :=
  (Nat.toDigits 10 n).length

/-- The nearest number to `mantissa * 10 ^ exponent`, a tie going to the even
neighbour. A value of `10 ^ 309` or more is infinite, one below `10 ^ (-324)`
rounds to zero; both are settled by the number of digits alone. -/
def ofDecimal (negative : Bool) (mantissa : Nat) (exponent : Int) : Float :=
  let above : Int := decimalLength mantissa + exponent
  signed negative <|
    if mantissa = 0 || above < -324 then 0.0
    else if 310 ≤ above then infinity false
    else Float.ofScientific mantissa (exponent < 0) exponent.natAbs

end Binary64

end ChipPower
