import ChipPower.Json.Literal

/-!
Reading lists, objects and values of any form. The parts of lists and objects are
read by readers of their own, so that a document is decoded while it is read and
the first fault from the left counts, be it one of the text or one of its meaning.
-/

namespace ChipPower.Json

namespace Reader

/-! ## Between the parts -/

/-- Whether another element of a list follows. -/
def anotherElement (first : Bool) : Reader Bool := do
  match ← peekPart with
  | none => fail .openList
  | some ']' => return false
  | some c =>
    if first then return true
    else if c = ',' then
      advance
      match ← peekPart with
      | none => fail .openValue
      | some ']' => fail .trailingComma
      | some _ => return true
    else fail .expectedListEnd

/-- Whether another member of an object follows, whose key has to be a string. -/
def anotherMember (first : Bool) : Reader Bool := do
  match ← peekPart with
  | none => fail .openObject
  | some '\x7d' => return false
  | some c =>
    if first then if c = '"' then return true else fail .keyNotString
    else if c = ',' then
      advance
      match ← peekPart with
      | none => fail .openValue
      | some '"' => return true
      | some '\x7d' => fail .trailingComma
      | some _ => fail .keyNotString
    else fail .expectedObjectEnd

/-- Reads the colon after a key. -/
def colon : Reader Unit := do
  match ← peekPart with
  | none => fail .openObject
  | some ':' => advance
  | some _ => fail .expectedColon

/-- Reads the end of a list of which no element is left to read. -/
def listEnd : Reader Unit := do
  match ← peekPart with
  | none => fail .openList
  | some ']' => advance
  | some ',' =>
    advance
    if (← peekPart) = some ']' then fail .trailingComma else fail .trailingText
  | some _ => fail .trailingText

/-- Reads the end of an object of which no member is left to read. -/
def objectEnd : Reader Unit := do
  match ← peekPart with
  | none => fail .openObject
  | some '\x7d' => advance
  | some ',' => fail .trailingComma
  | some _ => fail .trailingText

/-! ## Lists and objects -/

/-- Reads what is between the brackets of a list. -/
def inList {β : Type} (body : Reader β) : Reader β := do
  advance
  enclosed body listEnd

/-- Reads what is between the brackets of an object. -/
def inObject {β : Type} (body : Reader β) : Reader β := do
  advance
  enclosed body objectEnd

/-- Reads the elements of a list. -/
def elements {β : Type} (element : Reader β) : Reader (List β) :=
  inList <| iterate (fun (first, read) => do
    if ← anotherElement first then return .more (false, (← element) :: read)
    else return .done read.reverse) (true, [])

/-- Reads members up to the end of an object. The reader of a member starts after
its key, at the colon, and carries a state on. -/
def memberStates {σ : Type} (member : σ → String → Reader σ) (start : σ) : Reader σ :=
  iterate (fun (first, state) => do
    if ← anotherMember first then return .more (false, ← member state (← string))
    else return .done state) (true, start)

/-- Reads the members of an object. -/
def members {σ : Type} (member : σ → String → Reader σ) (start : σ) : Reader σ :=
  inObject (memberStates member start)

/-! ## Any value -/

/-- Reads a value whose parts are read by `part`; without it the value may not have
parts. -/
def valueOf (part : Option (Reader Json)) : Reader Json := do
  match ← peekPart with
  | none => fail .openValue
  | some c =>
    match literalAt? c, part with
    | some read, _ => read
    | none, some part =>
      if c = '[' then return .array (← elements part)
      else if c = '\x7b' then
        let found ← members (fun found key => do
          colon
          return (key, ← part) :: found) []
        return .object found.reverse
      else fail .expectedValue
    | none, none => if c = '[' ∨ c = '\x7b' then fail .tooDeep else fail .expectedValue

/-- Reads a value in which lists and objects are nested at most `depth` deep. -/
def any : Nat → Reader Json
  | 0 => valueOf none
  | depth + 1 => valueOf (some (any depth))

/-- How deep lists and objects may be nested in a document. -/
def maxDepth : Nat := 127

/-! ## Passing over values -/

/-- What a value that is passed over is a part of. -/
inductive Enclosure
  | list
  | object
  deriving DecidableEq, Repr

namespace Enclosure

/-- What a character opens. -/
def ofOpening? (c : Char) : Option Enclosure :=
  if c = '[' then some list else if c = '\x7b' then some object else none

/-- The closing bracket. -/
def closing : Enclosure → Char
  | list => ']'
  | object => '\x7d'

/-- The fault of a part that is followed by something else than the end or a
comma. -/
def noEnd : Enclosure → Fault
  | list => .expectedListEnd
  | object => .expectedObjectEnd

/-- The fault of a document that ends before the closing bracket. -/
def leftOpen : Enclosure → Fault
  | list => .openList
  | object => .openObject

/-- Passes over what comes before the value of a part: a key and a colon, if it is
a member. -/
def passKey : Enclosure → Reader Unit
  | list => return
  | object => do
    match ← peekPart with
    | none => fail .openObject
    | some '"' =>
      discard (stringBytes false)
      colon
    | some _ => fail .keyNotString

/-- Passes over the end of an enclosure that has just been opened, if it has no
parts. -/
def passEmpty (enclosure : Enclosure) : Reader Bool := do
  match ← peekPart with
  | none => fail enclosure.leftOpen
  | some c =>
    if c = enclosure.closing then
      advance
      return true
    else return false

end Enclosure

/-- Passes over the brackets that close after a value, up to the comma before the
next part. Gives what that is a part of, innermost first. -/
def passEnds : List Enclosure → Reader (List Enclosure)
  | [] => return []
  | enclosure :: around => do
    match ← peekPart with
    | none => fail enclosure.leftOpen
    | some c =>
      if c = ',' then
        advance
        return enclosure :: around
      else if c = enclosure.closing then
        advance
        passEnds around
      else fail enclosure.noEnd

/-- Passes over a value without parts or an opening bracket, and on to the next
value, if one is left. Gives what that is a part of. -/
def passValue (around : List Enclosure) : Reader (List Enclosure) := do
  match ← peekPart with
  | none => fail .openValue
  | some c =>
    match passAt? c, Enclosure.ofOpening? c with
    | some pass, _ =>
      pass
      passEnds around
    | none, some enclosure =>
      advance
      if ← enclosure.passEmpty then passEnds around else return enclosure :: around
    | none, none => fail .expectedValue

/-- Passes over a value, however deep its parts are nested. -/
def passOver : Reader Unit :=
  iterate (fun around => do
    match ← passValue around with
    | [] => return .done ()
    | enclosure :: around =>
      enclosure.passKey
      return .more (enclosure :: around)) []

end Reader

/-- Reads a document of any form. -/
def parse (text : String) : Except Error Json :=
  Reader.run (Reader.any Reader.maxDepth) text

end ChipPower.Json
