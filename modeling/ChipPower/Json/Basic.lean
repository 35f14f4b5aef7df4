import ChipPower.Json.Numeral
import ChipPower.Text.Quoted

/-!
JSON documents as trees, and what can be wrong with the text of one.
-/

namespace ChipPower

/-- A JSON document. -/
inductive Json
  | null
  | bool (value : Bool)
  | number (value : Json.Numeral)
  | string (value : String)
  | array (elements : List Json)
  | object (members : List (String × Json))
  deriving Inhabited

namespace Json

/-- What a value is in messages. -/
def kind : Json → String
  | .null => "null"
  | .bool value => "boolean `" ++ toString value ++ "`"
  | .number n => n.kind
  | .string text => "string " ++ Text.quote text
  | .array _ => "sequence"
  | .object _ => "map"

/-! ## Faults -/

/-- What is wrong with a document. -/
inductive Fault
  | openList
  | openObject
  | openString
  | openValue
  | expectedColon
  | expectedListEnd
  | expectedObjectEnd
  | expectedIdent
  | expectedValue
  | badEscape
  | badNumber
  | numberTooLarge
  | control
  | keyNotString
  | notUnicode
  | loneSurrogate
  | cutEscape
  | trailingComma
  | trailingText
  | tooDeep
  /-- A value of another kind than the one expected. -/
  | wrongKind (found expected : String)
  /-- A value that is not one of those expected. -/
  | wrongValue (found expected : String)
  | wrongLength (length : Nat) (expected : String)
  | missingField (name : String)
  | duplicateField (name : String)
  | unknownVariant (name expected : String)
  | noVariant (type : String)
  deriving DecidableEq, Repr

/-- A place in a document: a line, and the number of bytes read on it. -/
structure Position where
  line : Nat := 1
  column : Nat := 0
  deriving DecidableEq, Repr

/-- The text of a fault. -/
def Fault.message : Fault → String
  | .openList => "EOF while parsing a list"
  | .openObject => "EOF while parsing an object"
  | .openString => "EOF while parsing a string"
  | .openValue => "EOF while parsing a value"
  | .expectedColon => "expected `:`"
  | .expectedListEnd => "expected `,` or `]`"
  | .expectedObjectEnd => "expected `,` or `\x7d`"
  | .expectedIdent => "expected ident"
  | .expectedValue => "expected value"
  | .badEscape => "invalid escape"
  | .badNumber => "invalid number"
  | .numberTooLarge => "number out of range"
  | .control => "control character (\\u0000-\\u001F) found while parsing a string"
  | .keyNotString => "key must be a string"
  | .notUnicode => "invalid unicode code point"
  | .loneSurrogate => "lone leading surrogate in hex escape"
  | .cutEscape => "unexpected end of hex escape"
  | .trailingComma => "trailing comma"
  | .trailingText => "trailing characters"
  | .tooDeep => "recursion limit exceeded"
  | .wrongKind found expected => "invalid type: " ++ found ++ ", expected " ++ expected
  | .wrongValue found expected => "invalid value: " ++ found ++ ", expected " ++ expected
  | .wrongLength length expected =>
    "invalid length " ++ toString length ++ ", expected " ++ expected
  | .missingField name => "missing field `" ++ name ++ "`"
  | .duplicateField name => "duplicate field `" ++ name ++ "`"
  | .unknownVariant name expected =>
    "unknown variant `" ++ name ++ "`, expected " ++ expected
  | .noVariant type => "data did not match any variant of untagged enum " ++ type

/-- A fault, and where it was found. The place of a value that is not of the form
it should be is that of the value which it is a part of, so a reader of parts leaves
it open. -/
structure Error where
  fault : Fault
  position : Option Position := none
  deriving DecidableEq, Repr

/-- The error at a place, unless it has one already. -/
def Error.placedAt (e : Error) (p : Position) : Error :=
  { e with position := some (e.position.getD p) }

/-- The text of an error. -/
def Error.message (e : Error) : String :=
  e.fault.message ++ e.position.elim "" fun p =>
    " at line " ++ toString p.line ++ " column " ++ toString p.column

end Json

end ChipPower
