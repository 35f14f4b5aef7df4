import ChipPower.Decimal.Layout
import ChipPower.Decimal.Literal

/-!
The numbers of counters, metrics and powers. All formulas are written over a
scalar type, so that one text of a formula has two readings: in binary64, which
is what runs, and in exact rational arithmetic, in which its laws are stated.
-/

namespace ChipPower

/-- The operations that formulas use. -/
class Scalar (α : Type) extends Add α, Sub α, Mul α, Div α, OfScientific α where
  /-- Whether the first number is below the second. -/
  less : α → α → Bool
  /-- Whether the first number is at most the second. -/
  atMost : α → α → Bool
  /-- The number without its fraction. -/
  trunc : α → α
  /-- The least whole number that is not below the number. -/
  ceil : α → α
  /-- Whether the number is neither infinite nor undefined. -/
  isFinite : α → Bool
  /-- The sum of no numbers. -/
  emptySum : α
  ofNat : Nat → α
  /-- The whole part of a finite number. -/
  truncToInt : α → Int
  /-- The number that a decimal literal stands for, if there is one. -/
  ofLiteral? : Decimal.Literal → Option α
  /-- The shortest text, as messages write it. -/
  text : α → String
  /-- The text with a fixed number of places. -/
  fixed : Nat → α → String

namespace Scalar

variable {α : Type} [Scalar α]

/-- Whether a number is zero, of either sign. -/
def isZero (x : α) : Bool :=
  atMost x 0.0 && atMost 0.0 x

/-- The larger of two numbers. An undefined one is ignored, and of two equal
ones the first is taken. -/
def max (x y : α) : α :=
  if less x y then y else if atMost x x then x else y

/-- The smaller of two numbers. An undefined one is ignored, and of two equal
ones the first is taken. -/
def min (x y : α) : α :=
  if less y x then y else if atMost x x then x else y

/-- The number without its sign. -/
def abs (x : α) : α :=
  if less 0.0 x then x else 0.0 - x

/-- The sum of a list, added up from the left. -/
def sum (xs : List α) : α :=
  xs.foldl (· + ·) emptySum

/-- Reads a decimal literal as a number. -/
def read? (text : List Char) : Except NumeralError α :=
  match Decimal.literal text with
  | .error e => .error e
  | .ok literal => (ofLiteral? literal).elim (.error .invalidFloat) .ok

end Scalar

/-- The number that a decimal literal stands for in binary64. -/
def Binary64.ofLiteral : Decimal.Literal → Float
  | .nan => 0.0 / 0.0
  | .infinite negative => infinity negative
  | .finite negative mantissa exponent => ofDecimal negative mantissa exponent

/-- Binary64 arithmetic. The empty sum is the neutral element of addition,
which is the negative zero. -/
instance : Scalar Float where
  less x y := x < y
  atMost x y := x ≤ y
  trunc := Binary64.truncate
  ceil := Binary64.roundUp
  isFinite x := x.isFinite
  emptySum := -0.0
  ofNat := Float.ofNat
  truncToInt := Binary64.toInt
  ofLiteral? literal := some (Binary64.ofLiteral literal)
  text := Decimal.Layout.message.text
  fixed := Decimal.fixed

/-- The rational number `mantissa * 10 ^ exponent`. -/
def Decimal.toRat (mantissa : Nat) (exponent : Int) : Rat :=
  if exponent < 0 then mkRat mantissa (Nat.pow 10 exponent.natAbs)
  else (mantissa * Nat.pow 10 exponent.natAbs : Nat)

/-- Exact rational arithmetic. It has no infinite and no undefined numbers. -/
instance : Scalar Rat where
  less x y := x < y
  atMost x y := x ≤ y
  trunc x := (x.num.tdiv x.den : Int)
  ceil x := x.ceil
  isFinite _ := true
  emptySum := 0
  ofNat n := n
  truncToInt x := x.num.tdiv x.den
  ofLiteral?
    | .finite negative mantissa exponent =>
      some (if negative then -Decimal.toRat mantissa exponent else Decimal.toRat mantissa exponent)
    | _ => none
  text x := toString x
  fixed places x :=
    String.ofList (Decimal.signChars (x < 0) ++
      Decimal.fixedQuotient places x.num.natAbs x.den)

end ChipPower
