import ChipPower.Json.Basic

/-!
Reading from the left. A reader takes the bytes of a document one by one and can
look one byte ahead of them, but never goes back. An error is found at the place
after the last byte that was looked at. A byte is seen as the character of its
code, as all that the form of a document depends on is ASCII.
-/

namespace ChipPower.Json

/-! ## What is left of a document -/

/-- What is left of a document. -/
structure Source where
  bytes : List UInt8
  /-- The place where they start. -/
  position : Position := {}
  /-- Whether the first of them has been looked at. -/
  peeked : Bool := false

/-- The place after a byte. -/
def Position.after (p : Position) (b : UInt8) : Position :=
  if Char.ofUInt8 b = '\n' then { line := p.line + 1, column := 0 }
  else { p with column := p.column + 1 }

namespace Source

/-- The place after the bytes that have been looked at. -/
def place (source : Source) : Position :=
  match source.bytes with
  | [] => source.position
  | b :: _ => if source.peeked then source.position.after b else source.position

/-- Skips the characters that satisfy `p`, and looks at the one after them. -/
def skipFrom (p : Char → Bool) (position : Position) : List UInt8 → Source
  | [] => { bytes := [], position, peeked := true }
  | b :: rest =>
    if p (Char.ofUInt8 b) then skipFrom p (position.after b) rest
    else { bytes := b :: rest, position, peeked := true }

end Source

/-! ## Readers -/

/-- A reader. It leaves the document where it stopped, also when it fails. -/
abbrev Reader := EStateM Error Source

namespace Reader

/-- Looks at the next character, if there is one. -/
def peek : Reader (Option Char) := fun source =>
  .ok (source.bytes.head?.map Char.ofUInt8) { source with peeked := true }

/-- Takes the next byte, if there is one. -/
def takeByte : Reader (Option UInt8) := fun source =>
  match source.bytes with
  | [] => .ok none source
  | b :: bytes => .ok (some b) { bytes, position := source.position.after b }

/-- Takes the next character, if there is one. -/
def take : Reader (Option Char) := do
  return (← takeByte).map Char.ofUInt8

/-- Takes the next character, which has been looked at. -/
def advance : Reader Unit := do
  let _ ← takeByte

/-- Skips the characters that satisfy `p`. -/
def skipWhile (p : Char → Bool) : Reader Unit := fun source =>
  .ok () (Source.skipFrom p source.position source.bytes)

/-- Whether a character may stand between the parts of a document. -/
def isSpace (c : Char) : Bool :=
  c == ' ' || c == '\n' || c == '\t' || c == '\r'

/-- Looks at the character with which the next part begins. -/
def peekPart : Reader (Option Char) := do
  skipWhile isSpace
  peek

/-- Fails at the place that has been reached. -/
def fail {β : Type} (fault : Fault) : Reader β := fun source =>
  .error { fault, position := source.place } source

/-- Fails at a place that is still open. -/
def refuse {β : Type} (fault : Fault) : Reader β :=
  throw { fault }

/-- The result of a step, whose failure has no place yet. -/
def ofExcept {β : Type} : Except Fault β → Reader β
  | .ok b => return b
  | .error fault => refuse fault

/-- Reads a value as a whole: an error that has no place yet is at the place that
has been reached. -/
def placed {β : Type} (read : Reader β) : Reader β := fun source =>
  match read source with
  | .ok b source => .ok b source
  | .error e source => .error (e.placedAt source.place) source

/-- Reads what is between brackets. The closing bracket is read also where the part
before it has an error, which then counts. -/
def enclosed {β : Type} (body : Reader β) (close : Reader Unit) : Reader β := fun source =>
  match body source with
  | .ok b source =>
    match close source with
    | .ok _ source => .ok b source
    | .error e source => .error e source
  | .error e source =>
    match close source with
    | .ok _ source => .error e source
    | .error _ source => .error e source

/-! ## Repetition -/

/-- What is known after a step of several. -/
inductive Progress (σ β : Type)
  | more (state : σ)
  | done (result : β)

/-- Repeats a step until it has a result, at most once more than there are
`bytes`. -/
def repeatFrom {σ β : Type} (step : σ → Reader (Progress σ β)) : List UInt8 → σ → Reader β
  | [], state => do
    match ← step state with
    | .more _ => fail .openValue
    | .done result => return result
  | _ :: bytes, state => do
    match ← step state with
    | .more state => repeatFrom step bytes state
    | .done result => return result

/-- Repeats a step until it has a result. A step that asks for another one has to
take a byte, so that there are no more of them than bytes are left. -/
def iterate {σ β : Type} (step : σ → Reader (Progress σ β)) (start : σ) : Reader β := do
  repeatFrom step (← get).bytes start

/-! ## Documents -/

/-- Reads a document. Nothing but space may follow its value. -/
def document {β : Type} (read : Reader β) : Reader β := do
  let b ← read
  match ← peekPart with
  | none => return b
  | some _ => fail .trailingText

/-- Reads the text of a document. -/
def run {β : Type} (read : Reader β) (text : String) : Except Error β :=
  match document read { bytes := text.toUTF8.toList } with
  | .ok b _ => .ok b
  | .error e _ => .error e

end Reader

end ChipPower.Json
