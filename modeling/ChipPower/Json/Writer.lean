import ChipPower.Json.Basic

/-!
Writing JSON documents, without any space between their parts.
-/

namespace ChipPower.Json

/-- What stands for one character between quotes: controls are escaped, all
other characters are written as they are. -/
def escapeChar (c : Char) : List Char :=
  if c = '"' then ['\\', '"']
  else if c = '\\' then ['\\', '\\']
  else if c = '\n' then ['\\', 'n']
  else if c = '\r' then ['\\', 'r']
  else if c = '\t' then ['\\', 't']
  else if c = '\x08' then ['\\', 'b']
  else if c = '\x0c' then ['\\', 'f']
  else if c.toNat < 0x20 then
    ['\\', 'u', '0', '0', Nat.digitChar (c.toNat / 16), Nat.digitChar (c.toNat % 16)]
  else [c]

/-- A text between quotes. -/
def writeString (text : String) : String :=
  String.ofList ('"' :: text.toList.flatMap escapeChar ++ ['"'])

/-- A binary64 number, or `null` for one that is infinite or undefined. -/
def writeFloat (x : Float) : String :=
  Decimal.Layout.stored.text x

/-- A list of written values. -/
def writeList (elements : List String) : String :=
  "[" ++ String.intercalate "," elements ++ "]"

/-- An object of written values. -/
def writeObject (members : List (String × String)) : String :=
  "\x7b" ++
    String.intercalate "," (members.map fun (key, value) => writeString key ++ ":" ++ value) ++
    "\x7d"

mutual

/-- The text of a document. -/
def text : Json → String
  | .null => "null"
  | .bool value => toString value
  | .number n => n.text
  | .string value => writeString value
  | .array elements => writeList (elementTexts elements)
  | .object members => writeObject (memberTexts members)

/-- The texts of elements. -/
def elementTexts : List Json → List String
  | [] => []
  | element :: rest => text element :: elementTexts rest

/-- The texts of members, with their keys. -/
def memberTexts : List (String × Json) → List (String × String)
  | [] => []
  | (key, value) :: rest => (key, text value) :: memberTexts rest

end

end ChipPower.Json
