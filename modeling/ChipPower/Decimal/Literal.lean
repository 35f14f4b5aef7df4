import ChipPower.Numeric.Numeral

/-!
Decimal literals: a sign, digits with an optional point, an optional power of
ten, and the words for the values that are no numbers. A literal is read into
its exact value; what number stands for it is up to the number type.
-/

namespace ChipPower

/-- What a decimal text stands for. -/
inductive Decimal.Literal
  | nan
  | infinite (negative : Bool)
  /-- The number `mantissa * 10 ^ exponent`, negated if `negative`. -/
  | finite (negative : Bool) (mantissa : Nat) (exponent : Int)
  deriving DecidableEq, Repr

namespace Decimal

/-- A whole number of tens: the exponent after its mark, with an optional sign. -/
def exponent? : List Char → Option Int
  | '-' :: rest => if rest.isEmpty then none else (digitsValue? rest).map fun n => -Int.ofNat n
  | '+' :: rest => if rest.isEmpty then none else (digitsValue? rest).map Int.ofNat
  | rest => if rest.isEmpty then none else (digitsValue? rest).map Int.ofNat

/-- Reads the part after the sign: digits with at most one point among them and
at least one digit, then nothing or an exponent. -/
def unsigned? (negative : Bool) (text : List Char) : Option Literal :=
  let whole := text.takeWhile Char.isDigit
  let rest := text.dropWhile Char.isDigit
  let (fraction, rest) :=
    match rest with
    | '.' :: rest => (rest.takeWhile Char.isDigit, rest.dropWhile Char.isDigit)
    | rest => ([], rest)
  let digits := whole ++ fraction
  if digits.isEmpty then none
  else do
    let mantissa ← digitsValue? digits
    let scale ←
      match rest with
      | [] => some 0
      | c :: rest => if c = 'e' || c = 'E' then exponent? rest else none
    return .finite negative mantissa (scale - fraction.length)

/-- Reads a word for a value that is no number, in any mix of cases. -/
def word? (negative : Bool) (text : List Char) : Option Literal :=
  let word := String.ofList (text.map Char.toLower)
  if word = "nan" then some .nan
  else if word = "inf" || word = "infinity" then some (.infinite negative)
  else none

/-- Reads what follows the sign. -/
def magnitude? (negative : Bool) (text : List Char) : Option Literal :=
  (unsigned? negative text).orElse fun _ => word? negative text

/-- Reads a decimal literal. -/
def literal : List Char → Except NumeralError Literal
  | [] => .error .emptyFloat
  | '-' :: rest => (magnitude? true rest).elim (.error .invalidFloat) .ok
  | '+' :: rest => (magnitude? false rest).elim (.error .invalidFloat) .ok
  | text => (magnitude? false text).elim (.error .invalidFloat) .ok

end Decimal

end ChipPower
