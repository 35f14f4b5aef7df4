import ChipPower.Dict
import ChipPower.Json.Reader

/-!
Reading the parts of documents: texts, flags, numbers, lists, maps and records. A
record may be written as an object, whose unknown members do not count, or as the
list of its fields in order.
-/

namespace ChipPower.Json.Reader

/-! ## Values of one kind -/

/-- The kind of the value that starts with a character, which is read as far as it
takes to know. -/
def kindAt (c : Char) : Reader String := do
  match literalAt? c with
  | some read => return (← read).kind
  | none =>
    if c = '[' then return (Json.array []).kind
    else if c = '\x7b' then return (Json.object []).kind
    else fail .expectedValue

/-- Reads a value that is known by its first character. All others are not what was
`expected`. -/
def expecting {β : Type} (expected : String) (readAt? : Char → Option (Reader β)) :
    Reader β :=
  placed do
    match ← peekPart with
    | none => fail .openValue
    | some c =>
      match readAt? c with
      | some read => read
      | none => refuse (.wrongKind (← kindAt c) expected)

/-- Reads a text. -/
def text : Reader String :=
  expecting "a string" fun c => if c = '"' then some string else none

/-- Reads a flag. -/
def flag : Reader Bool :=
  expecting "a boolean" fun c =>
    if c = 't' then some (word true "true".toList)
    else if c = 'f' then some (word false "false".toList)
    else none

/-- Reads nothing. -/
def nothing : Reader Unit :=
  expecting "unit" fun c => if c = 'n' then some (word () "null".toList) else none

/-- Reads a number of a kind. -/
def numeric {β : Type} (expected : String) (ofNumeral : Numeral → Except Fault β) : Reader β :=
  expecting expected fun c =>
    if startsNumber c then some (do ofExcept (ofNumeral (← number))) else none

/-- Reads a 64-bit natural number. -/
def natural : Reader Nat :=
  numeric "usize" fun n =>
    match n.integer? with
    | some (.ofNat value) => .ok value
    | some (.negSucc _) => .error (.wrongValue n.kind "usize")
    | none => .error (.wrongKind n.kind "usize")

/-- Reads a binary64 number. -/
def float : Reader Float :=
  numeric "f64" fun n => (n.float?.map Except.ok).getD (.error .numberTooLarge)

/-- Reads a value that may be nothing. -/
def option {β : Type} (value : Reader β) : Reader (Option β) := do
  if (← peekPart) = some 'n' then word none "null".toList else return some (← value)

/-- Reads a list of values. -/
def list {β : Type} (element : Reader β) : Reader (List β) :=
  expecting "a sequence" fun c => if c = '[' then some (elements element) else none

/-- Reads a dictionary. Of members with the same key the last one counts. -/
def dictOf {κ β : Type} [Ord κ] [Std.TransOrd κ] (key : String → Except Fault κ)
    (value : Reader β) : Reader (Dict κ β) :=
  expecting "a map" fun c =>
    if c = '\x7b' then
      some (members (fun found name => do
        let k ← ofExcept (key name)
        colon
        return found.insert k (← value)) ∅)
    else none

/-- Reads a dictionary by texts. -/
def dict {β : Type} (value : Reader β) : Reader (Dict String β) :=
  dictOf .ok value

/-! ## Values with names -/

/-- Reads the name of a value that is one of several. -/
def name {β : Type} (ofName? : String → Option β) (expected : String) : Reader β :=
  expecting "variant identifier" fun c =>
    if c = '"' then
      some do
        let found ← string
        match ofName? found with
        | some value => return value
        | none => refuse (.unknownVariant found expected)
    else none

/-- Reads a value that is one of several with a name: the name, or an object with
the name as its only key and nothing as its value. -/
def variant {β : Type} (ofName? : String → Option β) (expected : String) : Reader β := do
  match ← peekPart with
  | none => fail .openValue
  | some '"' => name ofName? expected
  | some '\x7b' =>
    advance
    let value ← name ofName? expected
    colon
    nothing
    match ← peekPart with
    | none => fail .openObject
    | some '\x7d' =>
      advance
      return value
    | some _ => fail .expectedValue
  | some _ => fail .expectedValue

/-! ## Records -/

/-- A field of a record of type `ρ`. -/
structure Field (ρ : Type) where
  name : String
  /-- Whether the field has to be there. -/
  required : Bool
  /-- Reads the value of the field into a record. -/
  read : ρ → Reader ρ

/-- A field that has to be there. -/
def Field.needed {ρ β : Type} (name : String) (value : Reader β) (set : ρ → β → ρ) : Field ρ where
  name
  required := true
  read record := do return set record (← value)

/-- A field that may be missing. -/
def Field.optional {ρ β : Type} (name : String) (value : Reader β) (set : ρ → β → ρ) : Field ρ where
  name
  required := false
  read record := do return set record (← value)

/-- What a record is, in messages. -/
def recordName (type : String) : String := "struct " ++ type

/-- What a list of fields is, in messages. -/
def recordLength (type : String) (count : Nat) : String :=
  recordName type ++ " with " ++ toString count ++ " element" ++ if count = 1 then "" else "s"

/-- Reads fields in order, of which the list already has some. -/
def fieldsInOrder {ρ : Type} (expected : String) : Nat → List (Field ρ) → ρ → Reader ρ
  | _, [], record => return record
  | count, field :: rest, record => do
    if ← anotherElement (count = 0) then
      fieldsInOrder expected (count + 1) rest (← field.read record)
    else if field.required then refuse (.wrongLength count expected)
    else fieldsInOrder expected (count + 1) rest record

/-- Reads a member of a record. The names of the fields read so far are kept, as a
field may not be there twice. -/
def fieldOfMember {ρ : Type} (fields : List (Field ρ)) (state : ρ × List String)
    (key : String) : Reader (ρ × List String) := do
  let (record, found) := state
  match fields.find? fun field => field.name == key with
  | none =>
    colon
    passOver
    return state
  | some field =>
    if key ∈ found then refuse (.duplicateField key)
    else
      colon
      return (← field.read record, key :: found)

/-- The record that was read, if no field is missing. -/
def complete {ρ : Type} (fields : List (Field ρ)) (state : ρ × List String) :
    Except Fault ρ :=
  match fields.find? fun field => field.required && field.name ∉ state.2 with
  | none => .ok state.1
  | some field => .error (.missingField field.name)

/-- Reads the members of an object into a record. -/
def fieldsByName {ρ : Type} (fields : List (Field ρ)) (default : ρ) : Reader ρ :=
  inObject do
    let state ← memberStates (fieldOfMember fields) (default, [])
    ofExcept (complete fields state)

/-- Reads a record. The fields that are missing are as in `default`. -/
def record {ρ : Type} (type : String) (fields : List (Field ρ)) (default : ρ) : Reader ρ :=
  expecting (recordName type) fun c =>
    if c = '[' then
      some (inList (fieldsInOrder (recordLength type fields.length) 0 fields default))
    else if c = '\x7b' then some (fieldsByName fields default)
    else none

end ChipPower.Json.Reader
