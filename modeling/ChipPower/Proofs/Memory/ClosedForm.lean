import ChipPower.Memory
import ChipPower.Proofs.Numeric.Exact
import Mathlib.Tactic.FieldSimp
import Mathlib.Tactic.Ring

/-!
# The power of the memory in closed form

The accesses are shared out to the sockets, and the power of one chip is taken for as many
chips as all sockets have. So in exact arithmetic the number of sockets cancels out of the
dynamic power, which is what the traffic takes on the chips of one socket, per clock cycle
(`MemoryPower.dynamic_ofTraffic`). It adds up over traffic and is inverse to time. The static
power is that of a chip at rest for every chip, whatever the traffic.
-/

namespace ChipPower.MemoryPower

/-- The clock cycles in a time at 266 MHz, or one if there are none. -/
def clockCycles (seconds : Rat) : Rat :=
  if 266000000 * seconds = 0 then 1 else 266000000 * seconds

theorem cycles_eq (seconds : Rat) : cycles seconds = clockCycles seconds := by
  have hertz : (seconds * 266.0 * 1e6 : Rat) = 266000000 * seconds := by
    norm_num
    ring
  unfold cycles clockCycles
  simp only [Scalar.isZero_eq, hertz, Scalar.one_eq, decide_eq_true_eq]

theorem clockCycles_ne_zero (seconds : Rat) : clockCycles seconds ≠ 0 := by
  unfold clockCycles
  split
  · exact one_ne_zero
  · assumption

/-- Twice the time has twice the clock cycles, unless there was none. -/
theorem clockCycles_mul {k seconds : Rat} (positive : 0 < k) (elapsed : seconds ≠ 0) :
    clockCycles (k * seconds) = k * clockCycles seconds := by
  have some : 266000000 * seconds ≠ 0 := mul_ne_zero (by norm_num) elapsed
  have more : 266000000 * (k * seconds) ≠ 0 :=
    mul_ne_zero (by norm_num) (mul_ne_zero positive.ne' elapsed)
  rw [clockCycles, clockCycles, if_neg some, if_neg more]
  ring

/-- The static power of one chip. -/
def chipStatic (stacked : Bool) : Rat :=
  standby + if stacked then stackedInterface else offChipInterface

variable {memory : MemoryConfig Rat}

/-- The number of sockets cancels out: the accesses are shared out to the sockets, and the power
is taken for the chips of all of them. -/
theorem dynamic_ofTraffic (socketed : memory.sockets ≠ 0) (reads writes seconds : Rat) :
    (ofTraffic reads writes seconds memory).dynamic =
      (reads * reading + writes * writing) * memory.chipsPerDimm * memory.dimmsPerSocket /
        clockCycles seconds := by
  have ticking := clockCycles_ne_zero seconds
  unfold ofTraffic MemoryConfig.chips
  simp only [cycles_eq]
  field_simp

/-- Each chip takes the same power at rest. -/
theorem static_ofTraffic (memory : MemoryConfig Rat) (reads writes seconds : Rat) :
    (ofTraffic reads writes seconds memory).static =
      memory.chips * chipStatic memory.stacked :=
  mul_comm _ _

/-- The laws of the power of a memory that has sockets. The dynamic power has a closed form in
which neither the number of sockets nor the kind of memory occurs. It adds up over traffic,
grows with it, and is divided by as much as a time is multiplied with. The static power is that
of all chips at rest. -/
theorem ofTraffic_closedForm (socketed : memory.sockets ≠ 0) :
    (∀ reads writes seconds, (ofTraffic reads writes seconds memory).dynamic =
      (reads * reading + writes * writing) * memory.chipsPerDimm * memory.dimmsPerSocket /
        clockCycles seconds) ∧
    (∀ sockets stacked, sockets ≠ 0 → ∀ reads writes seconds,
      (ofTraffic reads writes seconds { memory with sockets, stacked }).dynamic =
        (ofTraffic reads writes seconds memory).dynamic) ∧
    (∀ reads writes moreReads moreWrites seconds,
      (ofTraffic (reads + moreReads) (writes + moreWrites) seconds memory).dynamic =
        (ofTraffic reads writes seconds memory).dynamic +
          (ofTraffic moreReads moreWrites seconds memory).dynamic) ∧
    (∀ k reads writes seconds, (ofTraffic (k * reads) (k * writes) seconds memory).dynamic =
      k * (ofTraffic reads writes seconds memory).dynamic) ∧
    (∀ k reads writes seconds, 0 < k → seconds ≠ 0 →
      (ofTraffic reads writes (k * seconds) memory).dynamic =
        (ofTraffic reads writes seconds memory).dynamic / k) ∧
    ∀ reads writes seconds, (ofTraffic reads writes seconds memory).static =
      memory.chips * chipStatic memory.stacked := by
  have dynamic := dynamic_ofTraffic socketed
  refine ⟨dynamic, ?sockets, ?additive, ?homogeneous, ?inverse, static_ofTraffic memory⟩
  case sockets =>
    intro sockets stacked other reads writes seconds
    rw [dynamic, dynamic_ofTraffic other]
  case additive =>
    intro reads writes moreReads moreWrites seconds
    rw [dynamic, dynamic, dynamic]
    ring
  case homogeneous =>
    intro k reads writes seconds
    rw [dynamic, dynamic]
    ring
  case inverse =>
    intro k reads writes seconds positive elapsed
    rw [dynamic, dynamic, clockCycles_mul positive elapsed, mul_comm k, div_mul_eq_div_div]

/-- One socket of four modules with eight chips each. -/
def oneSocket : MemoryConfig Rat :=
  { sockets := 1, chipsPerDimm := 8, dimmsPerSocket := 4, stacked := false }

/-- A million reads and half a million writes in a millisecond, and twice of that in twice the
time. -/
theorem ofTraffic_closedForm_oneSocket :
    oneSocket.sockets ≠ 0 ∧
      (ofTraffic 1000000 500000 (1 / 1000) oneSocket).dynamic = 32 * 1090500 / 266000 ∧
      (ofTraffic (2 * 1000000) (2 * 500000) (2 * (1 / 1000)) oneSocket).dynamic =
        32 * 1090500 / 266000 ∧
      (ofTraffic 0 0 0 oneSocket).static = 4252 / 1000 := by
  have socketed : oneSocket.sockets ≠ 0 := by decide +kernel
  obtain ⟨dynamic, -, -, homogeneous, inverse, static⟩ := ofTraffic_closedForm socketed
  have single :
      (ofTraffic 1000000 500000 (1 / 1000) oneSocket).dynamic = 32 * 1090500 / 266000 := by
    rw [dynamic]
    decide +kernel
  refine ⟨socketed, single, ?_, ?_⟩
  · rw [inverse 2 _ _ _ (by norm_num) (by norm_num), homogeneous, single]
    norm_num
  · rw [static]
    decide +kernel

end ChipPower.MemoryPower
