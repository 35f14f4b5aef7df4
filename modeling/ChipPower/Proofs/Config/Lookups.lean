import ChipPower.Proofs.Config.Overrides
import Mathlib.Logic.Nontrivial.Defs
import Mathlib.Tactic.ByContra

/-!
# What is looked up

The key of an override tells the key and the core it is for, even if the key has brackets of
its own. So a new override is found for its key and core, and beside these only by those who
ask for the very key it is written under (`Config.find?_insert_coreKey`).

All accessors read the text that is set (`Config.Sets`), which is the override of the core or,
without one, the text under the plain key. `Config.ReadsAs` is what they answer then, and
`Config.FallsBack` what they answer if nothing is set. So a default counts exactly if nothing
is set, and never stands in for a text that cannot be read.
-/

namespace ChipPower.Config

variable {config : Config} {key text : String} {core : Option Nat}

/-! ## Overrides that are set -/

/-- What is found once an override was set. Beside the core it is for, it is only found under
its own key, by those who have no override of that. -/
theorem find?_insert_coreKey (config : Config) (key : String) (core : Nat) (text queried : String)
    (asked : Option Nat) :
    find? (config.insert (coreKey key core) text) queried asked =
      if queried = key ∧ asked = some core then some text
      else if queried = coreKey key core then
        ((asked.bind fun unit => config.get? (coreKey queried unit)).or (some text))
      else config.find? queried asked := by
  have override (unit : Nat) :
      (config.insert (coreKey key core) text).get? (coreKey queried unit) =
        if queried = key ∧ unit = core then some text
        else config.get? (coreKey queried unit) := by
    rw [Dict.get?_insert]
    have same : coreKey queried unit = coreKey key core ↔ queried = key ∧ unit = core := by
      constructor
      · intro same
        exact ⟨key_eq_of_coreKey_eq same, core_eq_of_coreKey_eq same⟩
      · rintro ⟨rfl, rfl⟩
        rfl
    simp only [same]
  cases asked with
  | none =>
    rw [find?_none, find?_none, Dict.get?_insert]
    simp
  | some unit =>
    rw [find?_some, find?_some, override, Dict.get?_insert]
    simp only [Option.some.injEq]
    by_cases own : queried = key ∧ unit = core
    · rw [if_pos own, if_pos own]
      rfl
    · rw [if_neg own, if_neg own, Option.bind_some]
      cases config.get? (coreKey queried unit) with
      | none => rfl
      | some other => split <;> rfl

/-! ## Texts that are set -/

/-- `Sets config key core text`: the configuration has a text for a key and a core, as the
override of the core or, without one, under the plain key. -/
inductive Sets (config : Config) (key : String) : Option Nat → String → Prop
  | system {text : String} : config.get? key = some text → Sets config key none text
  | override {core : Nat} {text : String} :
    config.get? (coreKey key core) = some text → Sets config key (some core) text
  | plain {core : Nat} {text : String} :
    config.get? (coreKey key core) = none → config.get? key = some text →
    Sets config key (some core) text

/-- Neither the plain key nor an override for the core is there. -/
structure Unset (config : Config) (key : String) (core : Option Nat) : Prop where
  plain : config.get? key = none
  override : ∀ unit, core = some unit → config.get? (coreKey key unit) = none

/-- What is found is what is set. -/
theorem find?_eq_some_iff : config.find? key core = some text ↔ config.Sets key core text := by
  constructor
  · intro found
    cases core with
    | none => exact .system found
    | some unit =>
      rw [find?_some] at found
      cases own : config.get? (coreKey key unit) with
      | none => exact .plain own (by simpa [own] using found)
      | some other => exact .override (by simpa [own] using found)
  · intro sets
    cases sets with
    | system found => exact found
    | override own => rw [find?_some, own]; rfl
    | plain absent found => rw [find?_some, absent]; exact found

/-- Nothing is found if nothing is set. -/
theorem find?_eq_none_iff : config.find? key core = none ↔ config.Unset key core := by
  constructor
  · intro nothing
    cases core with
    | none => exact ⟨nothing, fun _ same => nomatch same⟩
    | some unit =>
      rw [find?_some] at nothing
      cases own : config.get? (coreKey key unit) with
      | none =>
        refine ⟨by simpa [own] using nothing, ?_⟩
        rintro _ ⟨⟩
        exact own
      | some other => simp [own] at nothing
  · rintro ⟨plain, override⟩
    cases core with
    | none => exact plain
    | some unit => rw [find?_some, override unit rfl]; exact plain

/-! ## What accessors answer -/

/-- All accessors answer from a text, whatever default they are given. If it is malformed,
those that want more than a text report it. -/
structure ReadsAs (config : Config) (key : String) (core : Option Nat) (text : String) : Prop where
  require : config.require key core = .ok text
  textOr : ∀ default, config.textOr key core default = text
  read : ∀ {β : Type} (reader : List Char → Except NumeralError β),
    read reader config key core = parse reader key text
  readOr : ∀ {β : Type} (reader : List Char → Except NumeralError β) (default : β),
    readOr reader config key core default = parse reader key text
  malformed : ∀ {β : Type} (reader : List Char → Except NumeralError β) (reason : NumeralError),
    reader (Text.trim text.toList) = .error reason →
      parse reader key text = fail (.malformedKey key text reason)
  flag : config.flag key core = parseFlag key text
  flagOr : ∀ default, config.flagOr key core default = parseFlag key text
  notBoolean : flagOf? text = none → parseFlag key text = fail (.notBoolean key text)

/-- All accessors that have a default answer with it, and the key is missing for the others. -/
structure FallsBack (config : Config) (key : String) (core : Option Nat) : Prop where
  require : config.require key core = fail (.missingKey key)
  textOr : ∀ default, config.textOr key core default = default
  read : ∀ {β : Type} (reader : List Char → Except NumeralError β),
    read reader config key core = fail (.missingKey key)
  readOr : ∀ {β : Type} (reader : List Char → Except NumeralError β) (default : β),
    readOr reader config key core default = .ok default
  flag : config.flag key core = fail (.missingKey key)
  flagOr : ∀ default, config.flagOr key core default = .ok default

/-- The accessors tell the text that is set, as `require` returns it. -/
theorem readsAs_iff : config.ReadsAs key core text ↔ config.Sets key core text := by
  constructor
  · intro reads
    exact find?_eq_some_iff.1 (require_eq_ok_iff.1 reads.require)
  · intro sets
    have found := find?_eq_some_iff.2 sets
    have required := require_eq_ok_iff.2 found
    refine ⟨required, textOr_of_find? found, fun reader => ?_, fun reader default => ?_,
      fun reader reason malformed => ?_, ?_, fun default => ?_, fun malformed => ?_⟩
    · rw [Config.read, required]
      rfl
    · rw [Config.readOr, found]
    · rw [parse, malformed]
    · rw [Config.flag, required]
      rfl
    · rw [Config.flagOr, found]
    · rw [parseFlag, malformed]

/-- The accessors tell that nothing is set, as the key is missing for `require`. -/
theorem fallsBack_iff : config.FallsBack key core ↔ config.Unset key core := by
  rw [← find?_eq_none_iff]
  constructor
  · intro falls
    have missing := falls.require
    unfold Config.require at missing
    split at missing
    · cases missing
    · assumption
  · intro nothing
    have missing : config.require key core = fail (.missingKey key) := by
      rw [Config.require, nothing]
    refine ⟨missing, fun default => ?_, fun reader => ?_, fun reader default => ?_, ?_,
      fun default => ?_⟩
    · rw [Config.textOr, nothing]
      rfl
    · rw [Config.read, missing]
      rfl
    · rw [Config.readOr, nothing]
    · rw [Config.flag, missing]
      rfl
    · rw [Config.flagOr, nothing]

/-- An answer that is the default only if nothing is set: a text that is set gives the same
answer for all defaults. -/
theorem default_iff {β γ : Type} [Nontrivial β] {answer ok : β → γ}
    (distinct : Function.Injective ok)
    (set : ∀ text, config.Sets key core text → ∃ own, ∀ default, answer default = own)
    (unset : config.Unset key core → ∀ default, answer default = ok default) :
    (∀ default, answer default = ok default) ↔ config.Unset key core := by
  refine ⟨fun returned => ?_, unset⟩
  cases found : config.find? key core with
  | none => exact find?_eq_none_iff.1 found
  | some text =>
    obtain ⟨own, same⟩ := set text (find?_eq_some_iff.1 found)
    obtain ⟨first, second, differ⟩ := exists_pair_ne β
    have equal : ok first = ok second := by rw [← returned, ← returned, same, same]
    exact (differ (distinct equal)).elim

/-- An override is found for its key and core, and changes nothing else but what is found under
its own key. For every key and core all accessors read the same text, if one is set, and report
it if it is malformed. Nothing is set exactly if those with a default return it, whichever it
is. -/
theorem lookups_agree (config : Config) :
    (∀ (key : String) (core : Nat) (text : String),
      find? (config.insert (coreKey key core) text) key (some core) = some text ∧
      ∀ (queried : String) (asked : Option Nat),
        find? (config.insert (coreKey key core) text) queried asked ≠ config.find? queried asked →
          queried = key ∧ asked = some core ∨ queried = coreKey key core) ∧
    ∀ (key : String) (core : Option Nat),
      (∀ text, config.ReadsAs key core text ↔ config.Sets key core text) ∧
      (config.FallsBack key core ↔ config.Unset key core) ∧
      ((∀ default, config.textOr key core default = default) ↔ config.Unset key core) ∧
      (∀ {β : Type} [Nontrivial β] (reader : List Char → Except NumeralError β),
        (∀ default, readOr reader config key core default = .ok default) ↔
          config.Unset key core) ∧
      ((∀ default, config.flagOr key core default = .ok default) ↔ config.Unset key core) := by
  refine ⟨fun key core text => ⟨?own, fun queried asked changed => ?frame⟩,
    fun key core => ⟨fun text => readsAs_iff, fallsBack_iff, ?text, fun reader => ?number, ?flag⟩⟩
  case own => rw [find?_insert_coreKey, if_pos ⟨rfl, rfl⟩]
  case frame =>
    by_contra apart
    rw [not_or] at apart
    rw [find?_insert_coreKey, if_neg apart.1, if_neg apart.2] at changed
    exact changed rfl
  case text =>
    have : Nontrivial String := ⟨"", "0", by decide⟩
    exact default_iff Function.injective_id (fun text sets => ⟨text, (readsAs_iff.2 sets).textOr⟩)
      fun unset => (fallsBack_iff.2 unset).textOr
  case number =>
    exact default_iff (fun _ _ => Except.ok.inj)
      (fun text sets => ⟨_, (readsAs_iff.2 sets).readOr reader⟩)
      fun unset => (fallsBack_iff.2 unset).readOr reader
  case flag =>
    exact default_iff (fun _ _ => Except.ok.inj)
      (fun text sets => ⟨_, (readsAs_iff.2 sets).flagOr⟩)
      fun unset => (fallsBack_iff.2 unset).flagOr

end ChipPower.Config
