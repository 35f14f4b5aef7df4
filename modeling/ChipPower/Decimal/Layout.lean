import ChipPower.Decimal.Shortest

/-!
Decimals as texts: positional or with an exponent, and with a fixed number of
places. The choices that formats make differently are one record each.
-/

namespace ChipPower.Decimal

/-- How a format writes a decimal. -/
structure Layout where
  /-- Whether the exponent of the leading digit is one of a positional text. -/
  positional : Int → Bool
  /-- What follows a positional text without a point. -/
  wholeSuffix : List Char
  /-- Which of two equally near shortest decimals is written. -/
  tie : Tie
  /-- The texts of the values that are no numbers; an infinity may have a sign. -/
  nan : String
  infinity : (negative : Bool) → String

/-- Messages write all numbers positionally, whole ones without a point; of two
equally near shortest decimals they take the upper one. -/
def Layout.message : Layout where
  positional _ := true
  wholeSuffix := []
  tie := .upper
  nan := "NaN"
  infinity negative := if negative then "-inf" else "inf"

/-- Stored documents write a leading digit from `10 ^ (-5)` up to `10 ^ 15`
positionally, keep a point in whole numbers, have no word for the values that
are no numbers, and take the even one of two equally near shortest decimals. -/
def Layout.stored : Layout where
  positional exponent := -5 ≤ exponent && exponent < 16
  wholeSuffix := ['.', '0']
  tie := .even
  nan := "null"
  infinity _ := "null"

/-- The decimal digits of a number. -/
def digitChars (n : Nat) : List Char :=
  Nat.toDigits 10 n

/-- A sign before a text, if there is one. -/
def signChars (negative : Bool) : List Char :=
  if negative then ['-'] else []

/-- Digits with a point before the last `places` of them, padded with zeros so
that a digit stands before the point. -/
def placePoint (digits : List Char) (places : Nat) : List Char :=
  let padded := List.replicate (places + 1 - digits.length) '0' ++ digits
  padded.take (padded.length - places) ++ '.' :: padded.drop (padded.length - places)

/-- A decimal in positional notation. -/
def Layout.positionalText (layout : Layout) (d : Scaled) : List Char :=
  let digits := digitChars d.digits
  if 0 ≤ d.exponent then
    digits ++ List.replicate d.exponent.natAbs '0' ++ layout.wholeSuffix
  else placePoint digits d.exponent.natAbs

/-- A decimal as one digit, its fraction, and the exponent with its sign. -/
def exponentText (d : Scaled) (leading : Int) : List Char :=
  let digits := digitChars d.digits
  let fraction := if digits.length ≤ 1 then [] else '.' :: digits.drop 1
  let sign := if leading < 0 then '-' else '+'
  digits.take 1 ++ fraction ++ 'e' :: sign :: digitChars leading.natAbs

/-- A decimal as the format writes it. -/
def Layout.scaledText (layout : Layout) (d : Scaled) : List Char :=
  let leading := d.exponent + Binary64.decimalLength d.digits - 1
  if d.digits = 0 ∨ layout.positional leading then layout.positionalText d
  else exponentText d leading

/-- The shortest text of a binary64 number. -/
def Layout.text (layout : Layout) (x : Float) : String :=
  match Binary64.ofFloat x with
  | .nan => layout.nan
  | .infinite negative => layout.infinity negative
  | .finite negative mantissa exponent =>
    String.ofList (signChars negative ++ layout.scaledText (shortest layout.tie mantissa exponent))

/-- The quotient of two natural numbers rounded to a whole number, a half going
to the even neighbour. -/
def roundHalfEven (num den : Nat) : Nat :=
  let low := num / den
  let rest := num % den
  if 2 * rest < den then low
  else if den < 2 * rest then low + 1
  else low + low % 2

/-- The quotient of two natural numbers with a fixed number of places. -/
def fixedQuotient (places num den : Nat) : List Char :=
  let digits := digitChars (roundHalfEven (num * Nat.pow 10 places) den)
  if places = 0 then digits else placePoint digits places

/-- A binary64 number with a fixed number of places. -/
def fixed (places : Nat) (x : Float) : String :=
  match Binary64.ofFloat x with
  | .nan => Layout.message.nan
  | .infinite negative => Layout.message.infinity negative
  | .finite negative mantissa exponent =>
    let (num, den) := Binary64.quotient mantissa exponent
    String.ofList (signChars negative ++ fixedQuotient places num den)

/-- Pads a text on the left to a width. -/
def padLeft (width : Nat) (text : String) : String :=
  String.ofList (List.replicate (width - text.length) ' ') ++ text

/-- Pads a text on the right to a width. -/
def padRight (width : Nat) (text : String) : String :=
  text ++ String.ofList (List.replicate (width - text.length) ' ')

end ChipPower.Decimal
