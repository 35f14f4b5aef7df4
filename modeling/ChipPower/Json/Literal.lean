import ChipPower.Json.Source

/-!
Reading the values that have no parts: words, numbers and strings. Each is read
byte by byte, and a fault is found at the byte that makes it. What is passed over
is read loosely: its numbers may be of any size, and its escapes may stand for
half of a surrogate pair.
-/

namespace ChipPower.Json.Reader

/-! ## Words -/

/-- Reads a word. -/
def word {β : Type} (value : β) : List Char → Reader β
  | [] => return value
  | c :: rest => do
    match ← take with
    | none => fail .openValue
    | some d => if d = c then word value rest else fail .expectedIdent

/-! ## Numbers -/

/-- The value of a digit. -/
def digitValue (c : Char) : Nat := c.toNat - 48

/-- Reads digits, if there are any. -/
def digits : Reader (List Nat) := do
  let found := (← get).bytes.takeWhile fun b => (Char.ofUInt8 b).isDigit
  skipWhile Char.isDigit
  return found.map fun b => digitValue (Char.ofUInt8 b)

/-- Reads the digits before the point. Only a lone zero starts with zero. -/
def wholeDigits (atEnd : Fault) : Reader (List Nat) := do
  match ← take with
  | none => fail atEnd
  | some c =>
    if !c.isDigit then fail .badNumber
    else if c = '0' then
      if ((← peek).map Char.isDigit).getD false then fail .badNumber else return [0]
    else return digitValue c :: (← digits)

/-- Reads the digits after a point, if there is one. -/
def fractionDigits (atEnd : Fault) : Reader (List Nat) := do
  if (← peek) = some '.' then
    advance
    match ← digits with
    | [] => if (← peek).isNone then fail atEnd else fail .badNumber
    | found => return found
  else return []

/-- The largest exponent. -/
def maxExponent : Nat := Nat.pow 2 31 - 1

/-- Reads the digits of an exponent after the first one. Where it is `bounded`, the
digit that makes it too large is a fault. -/
def exponentDigits (bounded : Bool) (first : Nat) : Reader Nat :=
  iterate (fun value => do
    match ← peek with
    | none => return .done value
    | some c =>
      if c.isDigit then
        advance
        let value := 10 * value + digitValue c
        if bounded && maxExponent < value then fail .numberTooLarge else return .more value
      else return .done value) first

/-- Reads an exponent, if there is one. A large exponent is a fault only if it makes
the number `significant` to it large too. -/
def exponent (atEnd : Fault) (significant : Bool) : Reader (Option Int) := do
  let mark ← peek
  if mark = some 'e' ∨ mark = some 'E' then
    advance
    let sign ← peek
    if sign = some '+' ∨ sign = some '-' then advance
    match ← take with
    | none => fail atEnd
    | some c =>
      if c.isDigit then
        let negative := sign = some '-'
        let value ← exponentDigits (significant && !negative) (digitValue c)
        return some (if negative then -(value : Int) else value)
      else fail .badNumber
  else return none

/-- Reads a number. -/
def numeral (strict : Bool) : Reader Numeral := do
  let atEnd := if strict then Fault.openValue else .badNumber
  let negative := (← peek) = some '-'
  if negative then advance
  let whole ← wholeDigits atEnd
  let fraction ← fractionDigits atEnd
  let n : Numeral := { negative, whole, fraction }
  let exponent ← exponent atEnd (strict && n.significand.1 != 0)
  return { n with exponent }

/-- Reads a number that binary64 numbers can come near to. -/
def number : Reader Numeral := do
  let n ← numeral true
  if n.float?.isSome then return n else fail .numberTooLarge

/-! ## Strings -/

/-- The value of a hexadecimal digit. -/
def hexValue? (c : Char) : Option Nat :=
  if c.isDigit then some (digitValue c)
  else if 'a' ≤ c ∧ c ≤ 'f' then some (c.toNat - 87)
  else if 'A' ≤ c ∧ c ≤ 'F' then some (c.toNat - 55)
  else none

/-- The value of hexadecimal digits. -/
def hexWord? (hex : List Char) : Option Nat :=
  hex.foldl (fun value c => do return 16 * (← value) + (← hexValue? c)) (some 0)

/-- The character of a short escape. -/
def shortEscape? (c : Char) : Option Char :=
  if c = '"' ∨ c = '\\' ∨ c = '/' then some c
  else if c = 'b' then some '\x08'
  else if c = 'f' then some '\x0c'
  else if c = 'n' then some '\n'
  else if c = 'r' then some '\r'
  else if c = 't' then some '\t'
  else none

/-- Whether a number is the first half of a surrogate pair. -/
def isHigh (n : Nat) : Bool := 0xd800 ≤ n && n < 0xdc00

/-- Whether a number is the second half of a surrogate pair. -/
def isLow (n : Nat) : Bool := 0xdc00 ≤ n && n < 0xe000

/-- The character of a surrogate pair. -/
def joinSurrogates (high low : Nat) : Char :=
  Char.ofNat (0x10000 + (high - 0xd800) * 0x400 + (low - 0xdc00))

/-- Where the reading of a string stands. -/
inductive Stage
  /-- At the next character. -/
  | plain
  /-- After a backslash. -/
  | escape
  /-- Within the digits of an escape, maybe one that follows a first half. -/
  | digits (high : Option Nat) (found : List Char)
  /-- After a first half. -/
  | half (high : Nat)
  /-- After a first half and a backslash. -/
  | halfEscape (high : Nat)
  deriving DecidableEq, Repr

namespace Stage

/-- What follows an escape with digits: the second half after a first one, and
otherwise the next character. -/
def afterUnit (high : Option Nat) (n : Nat) : Except Fault (Stage × List UInt8) :=
  match high with
  | some high =>
    if isLow n then .ok (plain, String.utf8EncodeChar (joinSurrogates high n))
    else .error .loneSurrogate
  | none =>
    if isLow n then .error .loneSurrogate
    else if isHigh n then .ok (half n, [])
    else .ok (plain, String.utf8EncodeChar (Char.ofNat n))

/-- Goes on with a byte, and gives the bytes that the text gets from it. Where the
reading is not `strict`, escapes with digits stand for nothing. -/
def next (strict : Bool) (b : UInt8) : Stage → Except Fault (Stage × List UInt8)
  | plain =>
    if Char.ofUInt8 b = '\\' then .ok (escape, [])
    else if b < 0x20 then .error .control
    else .ok (plain, [b])
  | escape =>
    let c := Char.ofUInt8 b
    if c = 'u' then .ok (digits none [], [])
    else
      match shortEscape? c with
      | some d => .ok (plain, String.utf8EncodeChar d)
      | none => .error .badEscape
  | digits high found =>
    let found := found ++ [Char.ofUInt8 b]
    if found.length < 4 then .ok (digits high found, [])
    else
      match hexWord? found with
      | none => .error .badEscape
      | some n => if strict then afterUnit high n else .ok (plain, [])
  | half high => if Char.ofUInt8 b = '\\' then .ok (halfEscape high, []) else .error .cutEscape
  | halfEscape high =>
    if Char.ofUInt8 b = 'u' then .ok (digits (some high) [], []) else .error .cutEscape

end Stage

/-- Reads a string with its quotes, and gives the bytes of its text. -/
def stringBytes (strict : Bool) : Reader (List UInt8) := do
  advance
  iterate (fun (stage, read) => do
    match ← takeByte with
    | none => fail .openString
    | some b =>
      if stage = .plain ∧ Char.ofUInt8 b = '"' then return .done read.reverse
      else
        match Stage.next strict b stage with
        | .ok (stage, found) => return .more (stage, found.reverse ++ read)
        | .error fault => fail fault) (Stage.plain, [])

/-- Reads a string. -/
def string : Reader String := do
  match String.fromUTF8? (.mk (← stringBytes true).toArray) with
  | some text => return text
  | none => fail .notUnicode

/-! ## Values without parts -/

/-- Whether a character is the first of a number. -/
def startsNumber (c : Char) : Bool := c = '-' || c.isDigit

/-- The reader of a word that a character is the first of. -/
def wordAt? (c : Char) : Option (Reader Json) :=
  if c = 'n' then some (word .null "null".toList)
  else if c = 't' then some (word (.bool true) "true".toList)
  else if c = 'f' then some (word (.bool false) "false".toList)
  else none

/-- The reader of a value without parts that a character is the first of. -/
def literalAt? (c : Char) : Option (Reader Json) :=
  if c = '"' then some (.string <$> string)
  else if startsNumber c then some (.number <$> number)
  else wordAt? c

/-- The reader that passes over a value without parts that a character is the first
of. -/
def passAt? (c : Char) : Option (Reader Unit) :=
  if c = '"' then some (discard (stringBytes false))
  else if startsNumber c then some (discard (numeral false))
  else (wordAt? c).map discard

end ChipPower.Json.Reader
