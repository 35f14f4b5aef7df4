/-!
Whole numbers as texts: an optional sign and decimal digits, read from the left
under a bound. Main statement: a numeral that is read lies within its bound.
-/

namespace ChipPower

/-- Why a text is not the number it should be. -/
inductive NumeralError
  | emptyInteger
  | invalidDigit
  | tooLarge
  | tooSmall
  | emptyFloat
  | invalidFloat
  deriving DecidableEq, Repr

/-- What is wrong with the text. -/
def NumeralError.message : NumeralError → String
  | .emptyInteger => "cannot parse integer from empty string"
  | .invalidDigit => "invalid digit found in string"
  | .tooLarge => "number too large to fit in target type"
  | .tooSmall => "number too small to fit in target type"
  | .emptyFloat => "cannot parse float from empty string"
  | .invalidFloat => "invalid float literal"

/-- The value of a decimal digit. -/
def digitValue? (c : Char) : Option Nat :=
  if c.isDigit then some (c.toNat - 48) else none

/-- The value of a run of digits, or nothing if another character is among
them. -/
def digitsValue? (digits : List Char) : Option Nat :=
  digits.foldl (fun value c => do return 10 * (← value) + (← digitValue? c)) (some 0)

namespace Numeral

/-- Reads digits onto `value`. The first digit that leads above `bound` or is
none decides the error. -/
def digitsFrom (bound : Nat) (overflow : NumeralError) (value : Nat) :
    List Char → Except NumeralError Nat
  | [] => .ok value
  | c :: rest =>
    match digitValue? c with
    | none => .error .invalidDigit
    | some d =>
      if 10 * value + d ≤ bound then digitsFrom bound overflow (10 * value + d) rest
      else .error overflow

/-- Reads digits, of which there has to be one. -/
def digits (bound : Nat) (overflow : NumeralError) (text : List Char) :
    Except NumeralError Nat :=
  if text.isEmpty then .error .invalidDigit else digitsFrom bound overflow 0 text

/-- Reads a natural number of at most `bound`. It may carry a plus sign. -/
def natural (bound : Nat) : List Char → Except NumeralError Nat
  | [] => .error .emptyInteger
  | '+' :: rest => digits bound .tooLarge rest
  | text => digits bound .tooLarge text

/-- Reads an integer between `-bound - 1` and `bound`. -/
def integer (bound : Nat) : List Char → Except NumeralError Int
  | [] => .error .emptyInteger
  | '+' :: rest => (digits bound .tooLarge rest).map Int.ofNat
  | '-' :: rest => (digits (bound + 1) .tooSmall rest).map fun n => -Int.ofNat n
  | text => (digits bound .tooLarge text).map Int.ofNat

/-- The largest 64-bit natural number. -/
def maxWord : Nat := Nat.pow 2 64 - 1

/-- The largest 32-bit natural number. -/
def maxHalfWord : Nat := Nat.pow 2 32 - 1

/-- Reads a 64-bit natural number. -/
def word (text : List Char) : Except NumeralError Nat :=
  natural maxWord text

/-- Reads a 32-bit natural number. -/
def halfWord (text : List Char) : Except NumeralError Nat :=
  natural maxHalfWord text

/-- Reads a signed 64-bit number. -/
def signedWord (text : List Char) : Except NumeralError Int :=
  integer (Nat.pow 2 63 - 1) text

/-! ## Bounds -/

theorem digitsFrom_le {bound : Nat} {overflow : NumeralError} {value n : Nat}
    {text : List Char} (hv : value ≤ bound)
    (h : digitsFrom bound overflow value text = .ok n) : n ≤ bound := by
  induction text generalizing value with
  | nil =>
    simp only [digitsFrom, Except.ok.injEq] at h
    omega
  | cons c rest ih =>
    simp only [digitsFrom] at h
    split at h
    · cases h
    · split at h
      · exact ih ‹_› h
      · cases h

theorem digits_le {bound : Nat} {overflow : NumeralError} {n : Nat} {text : List Char}
    (h : digits bound overflow text = .ok n) : n ≤ bound := by
  unfold digits at h
  split at h
  · cases h
  · exact digitsFrom_le (Nat.zero_le _) h

/-- A natural number that is read is at most the bound. -/
theorem natural_le {bound n : Nat} {text : List Char} (h : natural bound text = .ok n) :
    n ≤ bound := by
  unfold natural at h
  split at h
  · cases h
  · exact digits_le h
  · exact digits_le h

end Numeral

end ChipPower
