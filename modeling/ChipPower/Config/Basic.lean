import ChipPower.Dict
import ChipPower.Failure
import ChipPower.Numeric.Scalar
import ChipPower.Text.Blank

/-!
Configurations: texts by key. A key may be overridden for one core, and every
accessor looks first at the override and then at the plain key. The typed
accessors read the text that was found, without the blanks around it.
-/

namespace ChipPower

/-- A configuration, as texts by key. -/
abbrev Config := Dict String String

namespace Config

/-- The key under which `key` is overridden for a core. -/
def coreKey (key : String) (core : Nat) : String :=
  key ++ "[" ++ toString core ++ "]"

/-- The text for a key, of the core's override if there is one. -/
def find? (config : Config) (key : String) (core : Option Nat) : Option String :=
  (core.bind fun core => config.get? (coreKey key core)).orElse fun _ => config.get? key

/-- The text for a key that has to be there. -/
def require (config : Config) (key : String) (core : Option Nat) : Except Failure String :=
  match config.find? key core with
  | some value => .ok value
  | none => fail (.missingKey key)

/-- The text for a key, or `default` without one. -/
def textOr (config : Config) (key : String) (core : Option Nat) (default : String) : String :=
  (config.find? key core).getD default

/-! ## Numbers -/

/-- Reads the text of a key. -/
def parse {β : Type} (reader : List Char → Except NumeralError β) (key value : String) :
    Except Failure β :=
  match reader (Text.trim value.toList) with
  | .ok b => .ok b
  | .error reason => fail (.malformedKey key value reason)

/-- Reads the value of a key that has to be there. -/
def read {β : Type} (reader : List Char → Except NumeralError β) (config : Config)
    (key : String) (core : Option Nat) : Except Failure β :=
  config.require key core >>= parse reader key

/-- Reads the value of a key, or takes `default` without one. -/
def readOr {β : Type} (reader : List Char → Except NumeralError β) (config : Config)
    (key : String) (core : Option Nat) (default : β) : Except Failure β :=
  match config.find? key core with
  | some value => parse reader key value
  | none => .ok default

/-- A 64-bit natural number. -/
def word (config : Config) (key : String) (core : Option Nat) : Except Failure Nat :=
  read Numeral.word config key core

/-- A 64-bit natural number, or `default`. -/
def wordOr (config : Config) (key : String) (core : Option Nat) (default : Nat) :
    Except Failure Nat :=
  readOr Numeral.word config key core default

/-- A number. -/
def scalar {α : Type} [Scalar α] (config : Config) (key : String) (core : Option Nat) :
    Except Failure α :=
  read Scalar.read? config key core

/-- A number, or `default`. -/
def scalarOr {α : Type} [Scalar α] (config : Config) (key : String) (core : Option Nat)
    (default : α) : Except Failure α :=
  readOr Scalar.read? config key core default

/-! ## Flags -/

/-- Reads a flag: `true` and `1`, or `false` and `0`, in any mix of cases and
with blanks around it. -/
def flagOf? (text : String) : Option Bool :=
  let word := String.ofList ((Text.trim text.toList).map Char.toLower)
  if word = "true" ∨ word = "1" then some true
  else if word = "false" ∨ word = "0" then some false
  else none

/-- Reads the text of a key as a flag. -/
def parseFlag (key value : String) : Except Failure Bool :=
  match flagOf? value with
  | some flag => .ok flag
  | none => fail (.notBoolean key value)

/-- A flag that has to be there. -/
def flag (config : Config) (key : String) (core : Option Nat) : Except Failure Bool :=
  config.require key core >>= parseFlag key

/-- A flag, or `default`. -/
def flagOr (config : Config) (key : String) (core : Option Nat) (default : Bool) :
    Except Failure Bool :=
  match config.find? key core with
  | some value => parseFlag key value
  | none => .ok default

/-! ## What the accessors read -/

theorem find?_none (config : Config) (key : String) :
    config.find? key none = config.get? key := rfl

theorem find?_some (config : Config) (key : String) (core : Nat) :
    config.find? key (some core) =
      (config.get? (coreKey key core)).orElse fun _ => config.get? key := rfl

theorem require_eq_ok_iff {config : Config} {key value : String} {core : Option Nat} :
    config.require key core = .ok value ↔ config.find? key core = some value := by
  unfold require
  split <;> rename_i h <;> simp [h, fail]

theorem textOr_of_find? {config : Config} {key value : String} {core : Option Nat}
    (h : config.find? key core = some value) (default : String) :
    config.textOr key core default = value := by
  simp [textOr, h]

end Config

end ChipPower
