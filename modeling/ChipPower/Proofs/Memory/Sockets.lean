import ChipPower.Memory
import ChipPower.Proofs.Hierarchy.Derivation
import ChipPower.Proofs.Numeric.Decimals
import ChipPower.Proofs.Numeric.Exact
import Mathlib.Tactic.Positivity

/-!
# The sockets of the memory

There is a socket for each memory controller if their number is given and positive. Otherwise
there is one for as many cores as a distance says, which has to be positive and may be any
decimal, and the last socket may have fewer cores. The number of cores itself is not looked at:
it is read once as a whole number for the caches and once as a decimal for the memory, which
are the same (`Config.scalar_of_word`), and may be zero.

Power is divided by the number of sockets. `MemoryConfig.sockets_pos_iff` says that this number
is a natural one and when it is positive: if there are controllers, or if there are cores.
-/

namespace ChipPower

/-- A setting that is read as a natural number is the same number as a decimal. -/
theorem Config.scalar_of_word {config : Config} {key : String} {core : Option Nat} {n : Nat}
    (counted : config.word key core = .ok n) :
    (config.scalar key core : Except Failure Rat) = .ok n := by
  obtain ⟨text, required, parsed⟩ := bind_eq_ok_iff.1 counted
  refine bind_eq_ok_iff.2 ⟨text, required, ?_⟩
  unfold parse at parsed ⊢
  split at parsed
  · rename_i m read
    obtain rfl := Except.ok.inj parsed
    rw [Numeral.read?_of_natural read]
  · cases parsed

namespace MemoryConfig

/-- The configuration gives a positive number of memory controllers. -/
def HasControllers (config : Config) (controllers : Int) : Prop :=
  config.read Numeral.signedWord "perf_model/dram/num_controllers" none = .ok controllers ∧
    0 < controllers

/-- How many sockets there are for a number of cores. -/
inductive HasSockets (config : Config) (cores : Nat) : Nat → Prop
  | controllers {count : Nat} : HasControllers config count → HasSockets config cores count
  | interleaved {distance : Rat} :
    (∀ controllers, ¬ HasControllers config controllers) →
    config.scalar "perf_model/dram/controllers_interleaving" none = .ok distance →
    0 < distance → HasSockets config cores ⌈cores / distance⌉₊

variable {config : Config} {cores : Nat}

theorem interleavedSockets_eq_ok {sockets : Rat}
    (counted : config.word "general/total_cores" none = .ok cores)
    (shared : interleavedSockets config = .ok sockets) :
    ∃ distance : Rat,
      config.scalar "perf_model/dram/controllers_interleaving" none = .ok distance ∧
        0 < distance ∧ sockets = ⌈cores / distance⌉₊ := by
  simp only [interleavedSockets, Config.scalar_of_word counted, bind_eq_ok_iff,
    Except.ok.injEq, exists_eq_left'] at shared
  obtain ⟨distance, found, rounded⟩ := shared
  rw [Scalar.less_eq, Scalar.zero_eq] at rounded
  split at rounded
  · rename_i apart
    have positive : 0 < distance := of_decide_eq_true apart
    refine ⟨distance, found, positive, ?_⟩
    rw [← Except.ok.inj rounded, Scalar.ceil_eq, natCast_ceil_eq_intCast_ceil (by positivity)]
  · cases rounded

/-- The number of sockets is a natural number. -/
theorem sockets_of_ofConfig {memory : MemoryConfig Rat}
    (counted : config.word "general/total_cores" none = .ok cores)
    (built : ofConfig config = .ok memory) :
    ∃ count : Nat, memory.sockets = count ∧ HasSockets config cores count := by
  obtain ⟨controllers, found, chosen⟩ := bind_eq_ok_iff.1 built
  split at chosen <;> simp only [bind_eq_ok_iff, pure_eq_ok_iff] at chosen <;>
    obtain ⟨sockets, chosen, _, -, _, -, _, -, rfl⟩ := chosen
  case isTrue positive _ _ _ =>
    have given : HasControllers config controllers.toNat := by
      rw [HasControllers, Int.toNat_of_nonneg positive.le]
      exact ⟨found, positive⟩
    exact ⟨controllers.toNat, (Except.ok.inj chosen).symm, .controllers given⟩
  case isFalse none _ _ _ =>
    obtain ⟨distance, apart, positive, rfl⟩ := interleavedSockets_eq_ok counted chosen
    refine ⟨_, rfl, .interleaved ?_ apart positive⟩
    rintro other ⟨again, some⟩
    cases found.symm.trans again
    exact none some

theorem HasSockets.pos_iff {count : Nat} (sockets : HasSockets config cores count) :
    0 < count ↔ 0 < cores ∨ ∃ controllers, HasControllers config controllers := by
  cases sockets with
  | controllers given =>
    exact iff_of_true (Int.natCast_pos.1 given.2) (.inr ⟨_, given⟩)
  | interleaved none apart positive =>
    rw [Nat.ceil_pos, div_pos_iff_of_pos_right positive, Nat.cast_pos]
    exact (or_iff_left fun ⟨number, given⟩ => none number given).symm

/-- Wherever a chip has a hierarchy and a memory, the sockets of the memory can be counted, and
cores are shared out to them no more densely than their distance says. Power is divided by a
positive number exactly if the chip has cores or memory controllers. -/
theorem sockets_pos_iff {topology : List TopologyEntry} {h : Hierarchy}
    {memory : MemoryConfig Rat} (derived : Hierarchy.ofConfig config topology = .ok h)
    (built : ofConfig config = .ok memory) :
    ∃ count : Nat, memory.sockets = count ∧ HasSockets config h.cores count ∧
      (∀ distance, (∀ controllers, ¬ HasControllers config controllers) →
        config.scalar "perf_model/dram/controllers_interleaving" none = .ok distance →
        h.cores / distance ≤ memory.sockets) ∧
      (0 < memory.sockets ↔ 0 < h.cores ∨ ∃ controllers, HasControllers config controllers) := by
  obtain ⟨count, same, sockets⟩ := sockets_of_ofConfig (Hierarchy.cores_of_ofConfig derived) built
  refine ⟨count, same, sockets, ?least, ?positive⟩
  case least =>
    intro distance none apart
    cases sockets with
    | controllers given => exact (none _ given).elim
    | interleaved _ found _ =>
      cases found.symm.trans apart
      rw [same]
      exact Nat.le_ceil _
  case positive =>
    rw [same, Nat.cast_pos]
    exact sockets.pos_iff

/-- A chip of two cache levels, with a socket for every six cores if no controllers are
counted. -/
def sharedConfig (cores controllers : String) : Config :=
  .ofList [
    ("general/total_cores", cores),
    ("perf_model/cache/levels", "2"),
    ("perf_model/dram/controllers_interleaving", "6"),
    ("perf_model/dram/num_controllers", controllers)]

/-- Sixteen cores have three sockets, of which the last one has fewer cores. -/
theorem sockets_pos_iff_sixteen :
    ∃ (h : Hierarchy) (memory : MemoryConfig Rat),
      Hierarchy.ofConfig (sharedConfig "16" "-1") [] = .ok h ∧
      ofConfig (sharedConfig "16" "-1") = .ok memory ∧
      0 < h.cores ∧ (16 : Rat) / 6 ≤ memory.sockets ∧ 0 < memory.sockets := by
  have derived : Hierarchy.ofConfig (sharedConfig "16" "-1") [] =
      .ok ⟨16, 45, 0, true, 0, 0, 0, none⟩ := by
    decide +kernel
  have accepted : (ofConfig (sharedConfig "16" "-1") :
      Except Failure (MemoryConfig Rat)).isOk = true := by
    decide +kernel
  obtain ⟨memory, built⟩ := isOk_iff.1 accepted
  obtain ⟨count, -, -, least, positive⟩ := sockets_pos_iff derived built
  have none : ∀ controllers, ¬ HasControllers (sharedConfig "16" "-1") controllers := by
    rintro controllers ⟨found, some⟩
    have given : (sharedConfig "16" "-1").read Numeral.signedWord
        "perf_model/dram/num_controllers" none = .ok (-1) := by
      decide +kernel
    cases found.symm.trans given
    exact absurd some (by decide)
  exact ⟨_, memory, derived, built, by decide, least 6 none (by decide +kernel),
    positive.2 (.inl (by decide))⟩

/-- A chip without cores has a hierarchy and a memory like any other, and no sockets to divide
its power by. -/
theorem sockets_zero_without_cores :
    ∃ (h : Hierarchy) (memory : MemoryConfig Rat),
      Hierarchy.ofConfig (sharedConfig "0" "0") [] = .ok h ∧
      ofConfig (sharedConfig "0" "0") = .ok memory ∧ memory.sockets = 0 ∧
      ¬ ∃ count : Nat, 0 < count ∧ memory.sockets = count := by
  have derived : Hierarchy.ofConfig (sharedConfig "0" "0") [] =
      .ok ⟨0, 45, 0, true, 0, 0, 0, none⟩ := by
    decide +kernel
  have counted : (ofConfig (sharedConfig "0" "0") :
      Except Failure (MemoryConfig Rat)).map (·.sockets) = .ok 0 := by
    decide +kernel
  obtain ⟨memory, built, zero⟩ := map_eq_ok_iff.1 counted
  refine ⟨_, memory, derived, built, zero, ?_⟩
  rintro ⟨count, positive, same⟩
  rw [zero, eq_comm, Nat.cast_eq_zero] at same
  omega

end MemoryConfig

end ChipPower
