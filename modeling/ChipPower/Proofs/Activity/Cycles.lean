import ChipPower.Proofs.Activity.DutyCycles
import ChipPower.Proofs.Activity.Isolation
import ChipPower.Proofs.Template.Lines

/-!
# The cycles of a core

The cycles of a core are those of its own time, and it counts as idle for what the run took
longer than that. So idle cycles are none of the core's cycles, and they are subtracted from
these all the same to get the busy ones. Nothing is left of a core that ran for half of the
run, and a core that ran for less has a negative number of busy cycles.

`Activity.idleCycles_le_iff` says so for every core of a run, down to the line of the
estimator input that shows the busy cycles.
-/

namespace ChipPower

/-! ## The line of the busy cycles -/

namespace Placeholder

/-- A text with one placeholder for a whole number has the whole part of a value there. -/
theorem substitute_whole {text front back : String}
    (split : SplitLine.ofText text.toList = ⟨front.toList, [(.whole, back.toList)]⟩) (x : Rat) :
    substitute text [x] = .ok (front ++ toString (clampWord (Scalar.truncToInt x)) ++ back) := by
  have shown : format x .whole = .ok (toString (clampWord (Scalar.truncToInt x))) := rfl
  have filled : SplitLine.fill ⟨front.toList, [(.whole, back.toList)]⟩ [x] =
      .ok (front ++ toString (clampWord (Scalar.truncToInt x)) ++ back).toList := by
    simp only [SplitLine.fill, SplitLine.fillTail, shown, List.length_cons, List.length_nil,
      if_true, String.toList_append]
    exact congrArg Except.ok (by simp)
  rw [substitute, split, filled]
  exact congrArg Except.ok String.ofList_toList

theorem clampWord_nonneg_iff (n : Int) : 0 ≤ clampWord n ↔ 0 ≤ n := by
  unfold clampWord
  have bound : (0 : Int) < Int.ofNat (Nat.pow 2 127) := by decide
  dsimp only
  omega

end Placeholder

namespace Template

/-- The line that shows the busy cycles of a core. -/
def busyLine (cycles : Int) : String :=
  "\t\t\t<stat name=\"busy_cycles\"  value=\"" ++ toString cycles ++ "\"/>"

/-- The text of the template that the busy cycles of a core are filled into. -/
def busyText : String := "\t\t\t<stat name=\"busy_cycles\"  value=\"%i\"/>"

/-- The line of the template for the busy cycles of a core. -/
def busyEntry (unit : Nat) : Entry :=
  ⟨busyText, some ⟨.statistic, "busy_cycles", .unit unit⟩⟩

theorem mem_ofHierarchy_of_mem_core {h : Hierarchy} {line : Line} (listed : line ∈ Layout.core)
    {unit : Nat} (inside : unit < h.cores) : line.entry (.unit unit) unit ∈ ofHierarchy h := by
  have placed : line.entry (.unit unit) unit ∈ Layout.units Layout.core h.cores :=
    List.mem_flatMap.2 ⟨unit, List.mem_range.2 inside, List.mem_map_of_mem listed⟩
  simp only [ofHierarchy, List.mem_append]
  tauto

theorem busyEntry_mem_ofHierarchy {h : Hierarchy} {unit : Nat} (inside : unit < h.cores) :
    busyEntry unit ∈ ofHierarchy h := by
  have listed : Line.statistic busyText "busy_cycles" ∈ Layout.core := by decide +kernel
  exact mem_ofHierarchy_of_mem_core listed inside

theorem split_busyText : SplitLine.ofText busyText.toList =
    ⟨"\t\t\t<stat name=\"busy_cycles\"  value=\"".toList, [(.whole, "\"/>".toList)]⟩ := by
  decide +kernel

/-- The line shows the whole part of the busy cycles. -/
theorem becomes_busyEntry {config : Config} {a : Activity Rat} {unit : Nat} {busy : Rat}
    (evaluated : a.stat "busy_cycles" (.unit unit) = .ok busy) :
    Becomes config a (busyEntry unit)
      (busyLine (Placeholder.clampWord (Scalar.truncToInt busy))) := by
  have values : (valuesUnder config a ⟨.statistic, "busy_cycles", .unit unit⟩ ∅).1 =
      .ok [busy] := by
    show (a.stat "busy_cycles" (.unit unit)).map ([·]) = _
    rw [evaluated]
    rfl
  exact .bound values (Placeholder.substitute_whole split_busyText busy)

end Template

/-! ## The cycles of a run -/

/-- `RanFor stats unit scale elapsed time`: a core with a cycle scale ran for its elapsed time
out of the time of the whole run. -/
structure Stats.RanFor (stats : Stats Rat) (unit : Nat) (scale elapsed time : Rat) : Prop where
  scale : stats.element "fs_to_cycles_cores" unit = .ok scale
  elapsed : stats.element "performance_model.elapsed_time" unit = .ok elapsed
  time : stats.scalar "global.time" = .ok time

theorem CoreCounters.ranFor_of_ofStats {stats : Stats Rat} {time : Rat} {unit : Nat}
    {core : CoreCounters Rat} (timed : stats.scalar "global.time" = .ok time)
    (computed : ofStats stats time unit = .ok core) :
    ∃ elapsed, stats.RanFor unit core.cyclesScale elapsed time ∧
      core.cycles = core.cyclesScale * elapsed ∧
      core.idleCycles = core.cyclesScale * max 0 (time - elapsed) := by
  simp only [ofStats, bind_eq_ok_iff, pure_eq_ok_iff] at computed
  obtain ⟨scale, foundScale, instructions, -, elapsed, foundElapsed, fpMulDiv, -, fpAddSub, -,
    branches, -, loads, -, stores, -, generic, -, rfl⟩ := computed
  refine ⟨elapsed, ⟨foundScale, foundElapsed, timed⟩, rfl, ?_⟩
  rw [Scalar.max_eq, Scalar.zero_eq]

/-- Idle cycles come to no more than the cycles of the core exactly if the core ran for half of
the time at least, or if its cycles have no length. -/
theorem mul_max_zero_sub_le_iff {scale elapsed time : Rat} (scaled : 0 ≤ scale)
    (ran : 0 ≤ elapsed) :
    scale * max 0 (time - elapsed) ≤ scale * elapsed ↔ scale = 0 ∨ time ≤ 2 * elapsed := by
  rcases scaled.eq_or_lt with rfl | positive
  · simp
  · rw [mul_le_mul_iff_right₀ positive, max_le_iff, sub_le_iff_le_add, ← two_mul]
    simp [ran, positive.ne']

namespace Activity

variable {stats : Stats Rat} {config : Config} {h : Hierarchy} {options : Options Rat}
  {a : Activity Rat} {unit : Nat}

/-- `HasCycles a unit total idle`: the statistics of a core's cycles. -/
structure HasCycles (a : Activity Rat) (unit : Nat) (total idle : Rat) : Prop where
  totalCycles : a.stat "total_cycles" (.unit unit) = .ok total
  idleCycles : a.stat "idle_cycles" (.unit unit) = .ok idle
  busyCycles : a.stat "busy_cycles" (.unit unit) = .ok (total - idle)

theorem hasCycles_of_counters {core : CoreCounters Rat}
    (found : a.counters (.unit unit) = .ok core) : a.HasCycles unit core.cycles core.idleCycles := by
  have counter (c : Counter) : (Formula.counter c).eval a (.unit unit) = .ok (core.get c) := by
    rw [Formula.eval, found]
    rfl
  refine ⟨counter .cycles, counter .idleCycles, ?_⟩
  show (Formula.sub (.counter .cycles) (.counter .idleCycles)).eval a (.unit unit) = _
  rw [Formula.eval, counter, counter]
  rfl

/-- The cycles of every core come to some numbers. A core is idle for no longer than it ran
exactly if it ran for half of the time of the run, or if its cycles have no length, and
otherwise its busy cycles are negative. The line of the core has their whole part, so that it
shows a negative number if the idle cycles are more by one at least. -/
theorem idleCycles_le_iff (created : ofRun stats config h options = .ok a)
    (counted : stats.NonNegative) (inside : unit < h.cores) :
    ∃ scale elapsed time total idle, stats.RanFor unit scale elapsed time ∧
      a.HasCycles unit total idle ∧ 0 ≤ total ∧ 0 ≤ idle ∧
      (idle ≤ total ↔ scale = 0 ∨ time ≤ 2 * elapsed) ∧
      (0 ≤ total - idle ↔ scale = 0 ∨ time ≤ 2 * elapsed) ∧
      Template.busyEntry unit ∈ Template.ofHierarchy h ∧
      ∃ shown, Template.Becomes config a (Template.busyEntry unit) (Template.busyLine shown) ∧
        (0 ≤ shown ↔ idle < total + 1) := by
  obtain ⟨time, core, timed, computed, found⟩ := counters_of_ofRun created inside
  obtain ⟨elapsed, ran, total, idle⟩ := CoreCounters.ranFor_of_ofStats timed computed
  have nonneg := CoreCounters.nonNegative_of_ofStats counted computed
  have cycles : a.HasCycles unit core.cycles core.idleCycles := hasCycles_of_counters found
  have bounded : core.idleCycles ≤ core.cycles ↔ core.cyclesScale = 0 ∨ time ≤ 2 * elapsed := by
    rw [total, idle]
    exact mul_max_zero_sub_le_iff nonneg.scale (counted.element ran.elapsed)
  refine ⟨core.cyclesScale, elapsed, time, core.cycles, core.idleCycles, ran, cycles,
    nonneg.counts .cycles, nonneg.counts .idleCycles, bounded, sub_nonneg.trans bounded,
    Template.busyEntry_mem_ofHierarchy inside, _,
    Template.becomes_busyEntry cycles.busyCycles, ?_⟩
  rw [Placeholder.clampWord_nonneg_iff, Scalar.truncToInt_nonneg_iff, neg_lt_sub_iff_lt_add,
    add_comm]

/-- Two cores, the second of which ran for a part of the time. -/
def partRun (elapsed : Rat) : Stats Rat :=
  .ofList [
    ("fs_to_cycles_cores", .list [1, 1]),
    ("global.time", .scalar 1000),
    ("performance_model.elapsed_time", .list [1000, elapsed]),
    ("performance_model.instruction_count", .list [1000, 100])]

theorem partRun_nonNegative {elapsed : Rat} (some : 0 ≤ elapsed) :
    (partRun elapsed).NonNegative := by
  refine Stats.nonNegative_ofList ?_
  simpa [Value.NonNegative] using some

/-- The cycles of the second core after more than half of the time, and after less. -/
theorem partRun_cycles :
    (∃ a, ofRun (partRun 600) ∅ busChip {} = .ok a ∧ a.HasCycles 1 600 400) ∧
      ∃ a, ofRun (partRun 400) ∅ busChip {} = .ok a ∧ a.HasCycles 1 400 600 := by
  have cycles {elapsed total idle : Rat}
      (shown : (do
        let a ← ofRun (partRun elapsed) ∅ busChip {}
        let total ← a.stat "total_cycles" (.unit 1)
        let idle ← a.stat "idle_cycles" (.unit 1)
        let busy ← a.stat "busy_cycles" (.unit 1)
        return (total, idle, busy)) = .ok (total, idle, total - idle)) :
      ∃ a, ofRun (partRun elapsed) ∅ busChip {} = .ok a ∧ a.HasCycles 1 total idle := by
    simp only [bind_eq_ok_iff, pure_eq_ok_iff, Prod.mk.injEq] at shown
    obtain ⟨a, created, _, foundTotal, _, foundIdle, _, foundBusy, rfl, rfl, rfl⟩ := shown
    exact ⟨a, created, foundTotal, foundIdle, foundBusy⟩
  exact ⟨cycles (by decide +kernel), cycles (by decide +kernel)⟩

/-- After more than half of the time there are busy cycles left. -/
theorem idleCycles_le_iff_most :
    ∃ a, ofRun (partRun 600) ∅ busChip {} = .ok a ∧ (partRun 600).NonNegative ∧
      a.HasCycles 1 600 400 ∧ ∃ scale elapsed time, (partRun 600).RanFor 1 scale elapsed time ∧
        (scale = 0 ∨ time ≤ 2 * elapsed) := by
  obtain ⟨a, created, cycles⟩ := partRun_cycles.1
  have counted : (partRun 600).NonNegative := partRun_nonNegative (by norm_num)
  have inside : 1 < busChip.cores := by decide
  obtain ⟨scale, elapsed, time, total, idle, ran, same, -, -, bounded, -⟩ :=
    idleCycles_le_iff created counted inside
  have sameTotal : total = 600 := Except.ok.inj (same.totalCycles.symm.trans cycles.totalCycles)
  have sameIdle : idle = 400 := Except.ok.inj (same.idleCycles.symm.trans cycles.idleCycles)
  rw [sameTotal, sameIdle] at bounded
  exact ⟨a, created, counted, cycles, scale, elapsed, time, ran, bounded.1 (by norm_num)⟩

/-- After less than half of the time the core was idle for longer than it ran, and its line
shows a negative number of busy cycles. -/
theorem idle_for_longer_than_run :
    ∃ a, ofRun (partRun 400) ∅ busChip {} = .ok a ∧ (partRun 400).NonNegative ∧
      a.HasCycles 1 400 600 ∧ ¬ (600 : Rat) ≤ 400 ∧
      Template.busyEntry 1 ∈ Template.ofHierarchy busChip ∧
      Template.Becomes ∅ a (Template.busyEntry 1)
        "\t\t\t<stat name=\"busy_cycles\"  value=\"-200\"/>" := by
  obtain ⟨a, created, cycles⟩ := partRun_cycles.2
  have shown : Template.busyLine (Placeholder.clampWord (Scalar.truncToInt (400 - 600 : Rat))) =
      "\t\t\t<stat name=\"busy_cycles\"  value=\"-200\"/>" := by
    decide +kernel
  exact ⟨a, created, partRun_nonNegative (by norm_num), cycles, by norm_num,
    Template.busyEntry_mem_ofHierarchy (by decide),
    shown ▸ Template.becomes_busyEntry cycles.busyCycles⟩

end Activity

end ChipPower
