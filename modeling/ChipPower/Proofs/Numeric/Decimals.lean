import ChipPower.Numeric.Scalar
import ChipPower.Proofs.Text.Lines

/-!
# Written decimals

A decimal number is written with a sign, digits, digits behind a point, and a power of ten,
of which only the first digits have to be there. `Decimal.literal_chars` says that it is read
as what it stands for, exactly. A text that is read as a natural number is a decimal of the same
value (`Numeral.read?_of_natural`).
-/

namespace ChipPower

open Text

/-! ## Digits -/

/-- Digits are read as the number that they make. -/
theorem digitsValue?_eq {digits : List Char} (plain : ∀ c ∈ digits, c.isDigit = true) :
    digitsValue? digits = some (Nat.ofDigitChars 10 digits 0) := by
  unfold digitsValue? Nat.ofDigitChars
  generalize 0 = value
  induction digits generalizing value with
  | nil => rfl
  | cons c rest ih =>
    have digit : digitValue? c = some (c.toNat - '0'.toNat) := if_pos (plain c List.mem_cons_self)
    rw [List.foldl_cons, List.foldl_cons, digit]
    exact ih (fun d member => plain d (List.mem_cons_of_mem c member)) _

namespace Decimal

/-- A run of digits. -/
structure Digits where
  chars : List Char
  digits : ∀ c ∈ chars, c.isDigit = true
  nonempty : chars ≠ []

def Digits.value (digits : Digits) : Nat :=
  Nat.ofDigitChars 10 digits.chars 0

/-! ## Decimals -/

/-- The sign that a number may have in front. -/
inductive Sign
  | none
  | minus
  | plus
  deriving DecidableEq

def Sign.chars : Sign → List Char
  | .none => []
  | .minus => ['-']
  | .plus => ['+']

/-- A decimal number as it is written. -/
structure Written where
  sign : Sign
  whole : Digits
  /-- The digits behind a point. -/
  fraction : Option Digits
  /-- The power of ten, behind an `e`. -/
  exponent : Option (Sign × Digits)

namespace Written

variable (number : Written)

/-- The digits behind the point, if there is one. -/
def places : List Char :=
  (number.fraction.map (·.chars)).getD []

def fractionChars : List Char :=
  match number.fraction with
  | none => []
  | some digits => '.' :: digits.chars

def exponentChars : List Char :=
  match number.exponent with
  | none => []
  | some (sign, digits) => 'e' :: sign.chars ++ digits.chars

def chars : List Char :=
  number.sign.chars ++ (number.whole.chars ++ (number.fractionChars ++ number.exponentChars))

/-- The power of ten that the exponent stands for. -/
def scale : Int :=
  match number.exponent with
  | none => 0
  | some (sign, digits) =>
    if sign = .minus then -Int.ofNat digits.value else Int.ofNat digits.value

/-- What a written number stands for: all of its digits, with the point moved in front of the
fraction. -/
def literal : Literal :=
  .finite (number.sign = .minus) (Nat.ofDigitChars 10 (number.whole.chars ++ number.places) 0)
    (number.scale - number.places.length)

end Written

/-! ## Reading -/

theorem ne_of_isDigit {c d : Char} (digit : c.isDigit = true) (other : d.isDigit = false) :
    c ≠ d := by
  rintro rfl
  rw [digit] at other
  cases other

/-- The digits behind a point at the start of a text, and what follows them. -/
def cutFraction : List Char → List Char × List Char
  | '.' :: rest => (rest.takeWhile Char.isDigit, rest.dropWhile Char.isDigit)
  | rest => ([], rest)

/-- The power of ten that a text stands for, if it is empty or an exponent. -/
def scale? : List Char → Option Int
  | [] => some 0
  | c :: rest => if c = 'e' || c = 'E' then exponent? rest else none

/-- The part after the sign is read as its digits and its power of ten. -/
theorem unsigned?_eq {text whole fraction rest : List Char} (negative : Bool)
    (digits : text.takeWhile Char.isDigit = whole)
    (cut : cutFraction (text.dropWhile Char.isDigit) = (fraction, rest))
    (nonempty : whole ++ fraction ≠ []) :
    unsigned? negative text =
      (digitsValue? (whole ++ fraction)).bind fun mantissa =>
        (scale? rest).map fun scale => .finite negative mantissa (scale - fraction.length) := by
  have some_ : ¬ (whole ++ fraction).isEmpty = true := by
    rwa [List.isEmpty_iff]
  unfold unsigned?
  extract_lets first left
  split
  rename_i places after parts
  obtain ⟨rfl, rfl⟩ : places = fraction ∧ after = rest := Prod.mk.inj (parts.symm.trans cut)
  rw [show first = whole from digits, if_neg some_]
  cases digitsValue? (whole ++ places) with
  | none => rfl
  | some mantissa =>
    cases after with
    | nil => rfl
    | cons c rest =>
      rw [scale?, Option.bind_some]
      by_cases mark : (c = 'e' || c = 'E') = true
      · simp only [mark, if_true]
        cases exponent? rest <;> rfl
      · simp only [mark]
        rfl

/-- An exponent without a sign is positive. -/
theorem exponent?_of_digits (digits : Digits) :
    exponent? digits.chars = some (Int.ofNat digits.value) := by
  obtain ⟨c, rest, same⟩ := List.exists_cons_of_ne_nil digits.nonempty
  have digit : c.isDigit = true := digits.digits c (by rw [same]; exact List.mem_cons_self)
  rw [Digits.value, same, exponent?, List.isEmpty_cons, if_neg (by decide), ← same,
    digitsValue?_eq digits.digits]
  · rfl
  · exact fun _ h => ne_of_isDigit digit rfl (List.cons.inj h).1
  · exact fun _ h => ne_of_isDigit digit rfl (List.cons.inj h).1

/-- An exponent is read with its sign. -/
theorem exponent?_chars (sign : Sign) (digits : Digits) :
    exponent? (sign.chars ++ digits.chars) =
      some (if sign = .minus then -Int.ofNat digits.value else Int.ofNat digits.value) := by
  have some_ : ¬ digits.chars.isEmpty = true := by
    rw [List.isEmpty_iff]
    exact digits.nonempty
  cases sign with
  | none => exact exponent?_of_digits digits
  | minus =>
    rw [Sign.chars, List.singleton_append, exponent?, if_neg some_, digitsValue?_eq digits.digits]
    rfl
  | plus =>
    rw [Sign.chars, List.singleton_append, exponent?, if_neg some_, digitsValue?_eq digits.digits]
    rfl

namespace Written

variable (number : Written)

/-- All digits of a number, before and behind the point, are digits. -/
theorem digits_append_places :
    ∀ c ∈ number.whole.chars ++ number.places, c.isDigit = true := by
  intro c member
  rcases List.mem_append.1 member with member | member
  · exact number.whole.digits c member
  · rw [places] at member
    cases fraction : number.fraction with
    | none =>
      rw [fraction] at member
      cases member
    | some digits =>
      rw [fraction] at member
      exact digits.digits c member

theorem head_exponentChars : ∀ c ∈ number.exponentChars.head?, c.isDigit = false := by
  intro c member
  rw [exponentChars] at member
  split at member
  · cases member
  · cases member
    rfl

theorem head_fractionChars :
    ∀ c ∈ (number.fractionChars ++ number.exponentChars).head?, c.isDigit = false := by
  intro c member
  rw [fractionChars] at member
  split at member
  · exact number.head_exponentChars c member
  · cases member
    rfl

/-- The fraction of a number is cut off in front of the exponent. -/
theorem cutFraction_chars :
    cutFraction (number.fractionChars ++ number.exponentChars) =
      (number.places, number.exponentChars) := by
  rw [fractionChars, places]
  cases number.fraction with
  | none =>
    rw [List.nil_append, exponentChars]
    cases number.exponent <;> rfl
  | some digits =>
    rw [List.cons_append, cutFraction,
      takeWhile_append_of_head digits.digits number.head_exponentChars,
      dropWhile_append_of_head digits.digits number.head_exponentChars]
    rfl

/-- The exponent of a number is read as its power of ten. -/
theorem scale?_exponentChars : scale? number.exponentChars = some number.scale := by
  rw [exponentChars, scale]
  cases number.exponent with
  | none => rfl
  | some power => exact exponent?_chars power.1 power.2

/-- Behind the sign, a number is read as all of its digits and its power of ten. -/
theorem unsigned?_chars (negative : Bool) :
    unsigned? negative (number.whole.chars ++ (number.fractionChars ++ number.exponentChars)) =
      some (.finite negative (Nat.ofDigitChars 10 (number.whole.chars ++ number.places) 0)
        (number.scale - number.places.length)) := by
  have whole := takeWhile_append_of_head number.whole.digits number.head_fractionChars
  have rest := dropWhile_append_of_head number.whole.digits number.head_fractionChars
  have nonempty := List.append_ne_nil_of_left_ne_nil number.whole.nonempty number.places
  rw [unsigned?_eq negative whole (rest ▸ number.cutFraction_chars) nonempty,
    digitsValue?_eq number.digits_append_places, scale?_exponentChars]
  rfl

end Written

/-- A written decimal is read as what it stands for. -/
theorem literal_chars (number : Written) : literal number.chars = .ok number.literal := by
  have magnitude (negative : Bool) :
      magnitude? negative (number.whole.chars ++ (number.fractionChars ++ number.exponentChars)) =
        some (.finite negative (Nat.ofDigitChars 10 (number.whole.chars ++ number.places) 0)
          (number.scale - number.places.length)) := by
    rw [magnitude?, number.unsigned?_chars]
    rfl
  rw [Written.chars, Written.literal]
  cases number.sign with
  | none =>
    obtain ⟨c, rest, same⟩ := List.exists_cons_of_ne_nil number.whole.nonempty
    have digit : c.isDigit = true :=
      number.whole.digits c (by rw [same]; exact List.mem_cons_self)
    have unsigned : literal (number.whole.chars ++ (number.fractionChars ++ number.exponentChars)) =
        (magnitude? false (number.whole.chars ++
          (number.fractionChars ++ number.exponentChars))).elim (.error .invalidFloat) .ok := by
      rw [same, List.cons_append, literal]
      · exact fun h => nomatch h
      · exact fun _ h => ne_of_isDigit digit rfl (List.cons.inj h).1
      · exact fun _ h => ne_of_isDigit digit rfl (List.cons.inj h).1
    rw [Sign.chars, List.nil_append, unsigned, magnitude]
    rfl
  | minus =>
    rw [Sign.chars, List.singleton_append, literal, magnitude]
    rfl
  | plus =>
    rw [Sign.chars, List.singleton_append, literal, magnitude]
    rfl

end Decimal

/-- A written decimal is read as the scalar next to what it stands for. -/
theorem Scalar.read?_chars {α : Type} [Scalar α] (number : Decimal.Written) :
    (Scalar.read? number.chars : Except NumeralError α) =
      (Scalar.ofLiteral? number.literal).elim (.error .invalidFloat) .ok := by
  rw [Scalar.read?, Decimal.literal_chars]

/-! ## Natural numbers -/

namespace Numeral

variable {bound value n : Nat} {overflow : NumeralError} {text : List Char}

/-- A number that is read from digits, on from a value, is the one that the digits make behind
it. -/
theorem digitsFrom_eq_ok (read : digitsFrom bound overflow value text = .ok n) :
    (∀ c ∈ text, c.isDigit = true) ∧ Nat.ofDigitChars 10 text value = n := by
  induction text generalizing value with
  | nil => exact ⟨List.forall_mem_nil _, Except.ok.inj read⟩
  | cons c rest ih =>
    rw [digitsFrom] at read
    split at read
    · cases read
    · rename_i d found
      have digit : c.isDigit = true := by
        unfold digitValue? at found
        split at found
        · assumption
        · cases found
      obtain rfl : c.toNat - '0'.toNat = d := Option.some.inj ((if_pos digit).symm.trans found)
      split at read
      · obtain ⟨plain, same⟩ := ih read
        exact ⟨List.forall_mem_cons.2 ⟨digit, plain⟩, same⟩
      · cases read

/-- A number is read from a run of digits. -/
theorem digits_eq_ok (read : digits bound overflow text = .ok n) :
    ∃ run : Decimal.Digits, text = run.chars ∧ run.value = n := by
  unfold digits at read
  split at read
  · cases read
  · rename_i nonempty
    obtain ⟨plain, same⟩ := digitsFrom_eq_ok read
    exact ⟨⟨text, plain, fun empty => nonempty (List.isEmpty_iff.2 empty)⟩, rfl, same⟩

/-- A natural number is written as a run of digits that may carry a plus sign. -/
theorem natural_eq_ok (read : natural bound text = .ok n) :
    ∃ (sign : Decimal.Sign) (run : Decimal.Digits),
      sign ≠ .minus ∧ text = sign.chars ++ run.chars ∧ run.value = n := by
  unfold natural at read
  split at read
  · cases read
  · obtain ⟨run, rfl, same⟩ := digits_eq_ok read
    exact ⟨.plus, run, by decide, rfl, same⟩
  · obtain ⟨run, rfl, same⟩ := digits_eq_ok read
    exact ⟨.none, run, by decide, rfl, same⟩

/-- A text that is a natural number stands for the same number among the exact decimals. -/
theorem read?_of_natural (read : natural bound text = .ok n) :
    (Scalar.read? text : Except NumeralError Rat) = .ok n := by
  obtain ⟨sign, run, positive, rfl, rfl⟩ := natural_eq_ok read
  have written := Scalar.read?_chars (α := Rat) ⟨sign, run, none, none⟩
  simp only [Decimal.Written.chars, Decimal.Written.fractionChars, Decimal.Written.exponentChars,
    List.append_nil] at written
  rw [written]
  simp [Decimal.Written.literal, Decimal.Written.places, Decimal.Written.scale, positive,
    Scalar.ofLiteral?, Decimal.toRat, Decimal.Digits.value]

end Numeral

end ChipPower
