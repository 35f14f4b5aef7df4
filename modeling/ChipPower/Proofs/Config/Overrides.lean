import ChipPower.Config.Field
import ChipPower.Proofs.Nuca.Assignments
import ChipPower.Proofs.Text.Digits

/-!
# Overrides of other cores

A setting is looked up under the override for one core and under the plain key. So two
configurations that have the same texts there (`Config.AgreeFor`) give the same answer,
whatever they override for other cores. Settings of the whole system need only the plain
keys (`Config.AgreePlain`), among them all that a hierarchy is derived from.

Both kinds of agreement outlast assignments (`AgreeFor.assign`), which is how a NUCA cache
gets its configuration.
-/

namespace ChipPower

namespace Config

/-! ## Keys -/

/-- A key that overrides nothing. -/
def IsPlain (key : String) : Prop :=
  key.toList.getLast? ≠ some ']'

instance : DecidablePred IsPlain := fun key =>
  inferInstanceAs (Decidable (key.toList.getLast? ≠ some ']'))

/-- The characters of a literal are at hand in this form. -/
theorem isPlain_ofList {text : List Char} (plain : text.getLast? ≠ some ']') :
    IsPlain (String.ofList text) := by
  rw [IsPlain, String.toList_ofList]
  exact plain

theorem isPlain_append (front : String) {text : List Char}
    (plain : text ≠ [] ∧ text.getLast? ≠ some ']') : IsPlain (front ++ String.ofList text) := by
  have last := List.getLast?_eq_some_getLast plain.1
  rw [IsPlain, String.toList_append, String.toList_ofList, List.getLast?_append, last,
    Option.some_or, ← last]
  exact plain.2

theorem toList_coreKey (key : String) (core : Nat) :
    (coreKey key core).toList = key.toList ++ '[' :: (toString core).toList ++ [']'] := by
  simp [coreKey]

/-- The key of an override ends in a bracket, which a plain key does not. -/
theorem not_isPlain_coreKey (key : String) (core : Nat) : ¬ IsPlain (coreKey key core) := by
  intro plain
  apply plain
  rw [toList_coreKey, List.getLast?_concat]

/-- A plain key is the key of no override. -/
theorem ne_coreKey_of_isPlain {key : String} (plain : IsPlain key) (base : String) (core : Nat) :
    key ≠ coreKey base core := by
  rintro rfl
  exact not_isPlain_coreKey base core plain

/-- The core of an override can be told from its key. -/
theorem core_eq_of_coreKey_eq {key other : String} {core unit : Nat}
    (same : coreKey key core = coreKey other unit) : core = unit := by
  -- the digits are what stands behind the last opening bracket
  have digits (key : String) (core : Nat) :
      (coreKey key core).toList.dropLast.reverse.takeWhile (· ≠ '[') =
        (toString core).toList.reverse := by
    have plain : ∀ c ∈ (toString core).toList.reverse, decide (c ≠ '[') = true := by
      intro c member
      rw [decide_eq_true_eq]
      rintro rfl
      exact Text.not_mem_toString (by decide) core (List.mem_reverse.1 member)
    rw [toList_coreKey, List.dropLast_concat, List.reverse_append, List.reverse_cons,
      List.append_assoc, List.takeWhile_append_of_pos plain]
    simp
  have reversed := digits key core
  rw [same, digits other unit] at reversed
  exact (Text.toString_inj.1 (String.toList_injective (List.reverse_inj.1 reversed))).symm

/-- And so can the key that it overrides. -/
theorem key_eq_of_coreKey_eq {key other : String} {core unit : Nat}
    (same : coreKey key core = coreKey other unit) : key = other := by
  cases core_eq_of_coreKey_eq same
  have listed := congrArg String.toList same
  rw [toList_coreKey, toList_coreKey, List.append_assoc, List.append_assoc] at listed
  exact String.toList_injective (List.append_cancel_right listed)

/-! ## Agreement -/

/-- Two configurations have the same texts under plain keys. -/
def AgreePlain (c d : Config) : Prop :=
  ∀ key, IsPlain key → c.get? key = d.get? key

/-- Two configurations have the same texts for a core: under plain keys and under the
core's overrides. -/
structure AgreeFor (core : Nat) (c d : Config) : Prop where
  plain : c.AgreePlain d
  own : ∀ key, c.get? (coreKey key core) = d.get? (coreKey key core)

/-- Settings of the whole system are looked up under plain keys only. -/
theorem AgreePlain.find? {c d : Config} (agree : c.AgreePlain d) (key : String)
    (plain : IsPlain key) : c.find? key none = d.find? key none :=
  agree key plain

/-- The same assignments keep what agrees under plain keys. -/
theorem AgreePlain.assign {c d : Config} (agree : c.AgreePlain d)
    (assignments : Assignments String) :
    AgreePlain (c.assign assignments).1 (d.assign assignments).1 :=
  fun key plain => Dict.get?_assign_congr (agree key plain) assignments

namespace AgreeFor

variable {core : Nat} {c d : Config} (agree : c.AgreeFor core d)

include agree

/-- A setting of a core is looked up under its override and its plain key. -/
theorem find? (key : String) (plain : IsPlain key) :
    c.find? key (some core) = d.find? key (some core) := by
  rw [find?_some, find?_some, agree.own, agree.plain key plain]

theorem assign (assignments : Assignments String) :
    AgreeFor core (c.assign assignments).1 (d.assign assignments).1 :=
  ⟨agree.plain.assign assignments, fun key => Dict.get?_assign_congr (agree.own key) assignments⟩

end AgreeFor

/-! ## What is read -/

section Read

variable {c d : Config} {key : String} {core : Option Nat}
  (same : c.find? key core = d.find? key core)

include same

/-- All accessors go by what is found. -/
theorem require_congr : c.require key core = d.require key core := by
  unfold require
  rw [same]

theorem textOr_congr (default : String) : c.textOr key core default = d.textOr key core default := by
  unfold textOr
  rw [same]

variable {β : Type} (reader : List Char → Except NumeralError β)

theorem read_congr : read reader c key core = read reader d key core := by
  unfold read
  rw [require_congr same]

theorem readOr_congr (default : β) :
    readOr reader c key core default = readOr reader d key core default := by
  unfold readOr
  rw [same]

end Read

section Domains

variable {α : Type} {c d : Config} {core : Option Nat}

/-- The clock depends on the frequency alone. -/
theorem clock_eq_of_find? [Scalar α]
    (frequency : c.find? "perf_model/core/frequency" core =
      d.find? "perf_model/core/frequency" core) :
    (c.clock core : Except Failure α) = d.clock core := by
  unfold clock scalar
  rw [read_congr frequency]

/-- The voltage depends on the supply alone. -/
theorem voltage_eq_of_find? [Scalar α]
    (supply : c.find? "power/vdd" core = d.find? "power/vdd" core) :
    (c.voltage core : Except Failure α) = d.voltage core :=
  readOr_congr supply _ _

/-- A value of the domain of a cache is looked up for a core or for the whole system. -/
theorem ofDomain_eq_of_find? {cache : String} {value : Config → Option Nat → Except Failure α}
    (domain : c.find? (cache ++ "/dvfs_domain") core = d.find? (cache ++ "/dvfs_domain") core)
    (own : value c core = value d core) (system : value c none = value d none) :
    c.ofDomain cache value core = d.ofDomain cache value core := by
  unfold ofDomain
  dsimp only
  rw [require_congr domain, own, system]

end Domains

/-- A text that cannot be read is reported. -/
theorem readOr_malformed {β : Type} {reader : List Char → Except NumeralError β} {config : Config}
    {key text : String} {core : Option Nat} {reason : NumeralError}
    (found : config.find? key core = some text)
    (malformed : reader (Text.trim text.toList) = .error reason) (default : β) :
    readOr reader config key core default = fail (.malformedKey key text reason) := by
  simp only [readOr, found, parse, malformed]

end Config
end ChipPower
