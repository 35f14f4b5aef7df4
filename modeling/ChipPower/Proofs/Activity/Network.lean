import ChipPower.Proofs.Activity.DutyCycles
import ChipPower.Proofs.Failure.Traversal

/-!
# The duty cycle of the network

The duty cycle of a bus is cut at 1 like that of any unit, and a mesh of which only packets
are counted has a fixed one. That of a mesh whose links are accounted for is not cut. It
relates the mean time that a link was used to the time at which the first core ended, and
other cores may go on for longer.

`Activity.networkDutyCycle_le_one_iff` says when it is a fraction nevertheless: exactly if
the links were not used for longer, all together, than those with traffic could have been
by that time (`Network.LinksFit`).
-/

namespace ChipPower

namespace Network

variable {stats : Stats Rat} {x : Rat}

/-! ## The use of links -/

/-- The time that the links in a direction were used, all together. -/
def timeIn (stats : Stats Rat) (direction : String) : Rat :=
  ((stats.get? (linkStat direction "total-time-used")).map Value.sum).getD 0

/-- The number of links in a direction that saw traffic. -/
def usedIn (stats : Stats Rat) (direction : String) : Nat :=
  match stats.get? (linkStat direction "num-requests") with
  | some (.list requests) => requests.countP fun n => 0 < n
  | _ => 0

/-- The time that the links were used, all together. -/
def linkTime (stats : Stats Rat) : Rat :=
  (directions.map (timeIn stats)).sum

/-- The number of links that saw traffic. -/
def linksUsed (stats : Stats Rat) : Nat :=
  (directions.map (usedIn stats)).sum

theorem linkUse_eq {direction : String} {use : Rat × Nat}
    (found : linkUse stats direction = .ok use) :
    use = (timeIn stats direction, usedIn stats direction) := by
  simp only [linkUse, bind_eq_ok_iff, pure_eq_ok_iff, Stats.require_eq_ok_iff,
    Stats.list_eq_ok_iff] at found
  obtain ⟨times, timesFound, requests, requestsFound, rfl⟩ := found
  simp [timeIn, usedIn, timesFound, requestsFound, Scalar.less_eq, Scalar.zero_eq,
    List.countP_eq_length_filter]

theorem linkTime_nonneg (counted : stats.NonNegative) : 0 ≤ linkTime stats := by
  refine List.sum_nonneg fun time member => ?_
  obtain ⟨direction, -, rfl⟩ := List.mem_map.1 member
  unfold timeIn
  cases found : stats.get? (linkStat direction "total-time-used") with
  | none => exact le_rfl
  | some times => exact (counted.lookup found).sum

/-! ## The duty cycle of a mesh -/

/-- The time that a duty cycle of links relates to, if the first core ended at a time. -/
def span (elapsed : Rat) : Rat :=
  if elapsed = 0 then 1 else elapsed

theorem span_pos {elapsed : Rat} (nonneg : 0 ≤ elapsed) : 0 < span elapsed := by
  unfold span
  split
  · exact one_pos
  · rename_i some
    exact lt_of_le_of_ne nonneg (Ne.symm some)

/-- The time that the links were used, shared out to those with traffic, in relation to the
time at which the first core ended. -/
theorem linkDutyCycle_eq (found : linkDutyCycle stats = .ok x) :
    ∃ elapsed, stats.element "performance_model.elapsed_time_end" 0 = .ok elapsed ∧
      x = linkTime stats / (max (linksUsed stats) 1 * span elapsed) := by
  simp only [linkDutyCycle, bind_eq_ok_iff, pure_eq_ok_iff] at found
  obtain ⟨uses, used, elapsed, ended, rfl⟩ := found
  refine ⟨elapsed, ended, ?_⟩
  have listed := eq_map_of_mapM_eq_ok (fun _ _ => linkUse_eq) used
  have time : (uses.map (·.1)).foldl (· + ·) 0.0 = linkTime stats := by
    rw [listed, List.map_map, Scalar.zero_eq, ← List.sum_eq_foldl]
    rfl
  have links : (uses.map (·.2)).foldl (· + ·) 0 = linksUsed stats := by
    rw [listed, List.map_map, ← List.sum_eq_foldl]
    rfl
  rw [time, links, div_div]
  simp only [span, Scalar.isZero_eq, Scalar.one_eq, decide_eq_true_eq]
  rfl

/-- If a mesh has its links accounted for, they were not used for longer, all together, than
those with traffic could have been until the first core ended. -/
def LinksFit (stats : Stats Rat) : Prop :=
  stats.contains (linkStat "left" "total-time-used") = true →
    ∀ elapsed, stats.element "performance_model.elapsed_time_end" 0 = .ok elapsed →
      linkTime stats ≤ max (linksUsed stats) 1 * span elapsed

theorem linkDutyCycle_nonneg (counted : stats.NonNegative) (found : linkDutyCycle stats = .ok x) :
    0 ≤ x := by
  obtain ⟨elapsed, ended, rfl⟩ := linkDutyCycle_eq found
  exact div_nonneg (linkTime_nonneg counted)
    (mul_nonneg (Nat.cast_nonneg _) (span_pos (counted.element ended)).le)

theorem linkDutyCycle_le_one_iff (counted : stats.NonNegative)
    (accounted : stats.contains (linkStat "left" "total-time-used") = true)
    (found : linkDutyCycle stats = .ok x) : x ≤ 1 ↔ LinksFit stats := by
  obtain ⟨elapsed, ended, rfl⟩ := linkDutyCycle_eq found
  have links : 0 < max (linksUsed stats) 1 := lt_max_of_lt_right one_pos
  rw [div_le_one (mul_pos (Nat.cast_pos.2 links) (span_pos (counted.element ended)))]
  constructor
  · intro fits _ other same
    cases ended.symm.trans same
    exact fits
  · intro fits
    exact fits accounted elapsed ended

/-! ## Any network -/

variable {a : Activity Rat}

theorem dutyCycle_nonneg (counted : a.NonNegative) (evaluated : dutyCycle a = .ok x) : 0 ≤ x := by
  unfold dutyCycle at evaluated
  split at evaluated
  · exact linkDutyCycle_nonneg counted.stats evaluated
  · split at evaluated
    · cases evaluated
      exact Scalar.ofScientific_nonneg _ _ _
    · exact busDutyCycle_nonneg counted evaluated

theorem dutyCycle_le_one_iff (counted : a.stats.NonNegative) (evaluated : dutyCycle a = .ok x) :
    x ≤ 1 ↔ LinksFit a.stats := by
  unfold dutyCycle at evaluated
  split at evaluated
  · rename_i accounted
    exact linkDutyCycle_le_one_iff counted accounted evaluated
  · rename_i unaccounted
    have fits : LinksFit a.stats := fun accounted => absurd accounted unaccounted
    refine iff_of_true ?_ fits
    split at evaluated
    · cases evaluated
      norm_num
    · exact busDutyCycle_le_one evaluated

end Network

namespace Activity

/-- No duty cycle of a network is negative if no counter is. It is a fraction if the links
of a mesh were used for no longer than those with traffic could have been until the first
core ended, and only then. For a bus, or a mesh of which only packets are counted, this is
so in any case. -/
theorem networkDutyCycle_le_one_iff {stats : Stats Rat} {config : Config} {h : Hierarchy}
    {options : Options Rat} {a : Activity Rat} {scope : Scope} {x : Rat}
    (created : ofRun stats config h options = .ok a) (counted : stats.NonNegative)
    (evaluated : a.stat "NoC.duty_cycle" scope = .ok x) :
    0 ≤ x ∧ (x ≤ 1 ↔ Network.LinksFit stats) := by
  have counts : a.NonNegative := nonNegative_of_ofRun created counted
  obtain ⟨cores, -, rfl⟩ := ofRun_eq_ok created
  exact ⟨Network.dutyCycle_nonneg counts evaluated,
    Network.dutyCycle_le_one_iff counted evaluated⟩

/-- Two cores on a mesh, one link of which saw traffic, and the times at which they ended. -/
def meshRun (ends : List Rat) : Stats Rat :=
  .ofList [
    ("fs_to_cycles_cores", .list [1, 1]),
    ("global.time", .scalar 1000),
    ("network.shmem-1.mesh.link-down.num-requests", .list [0, 0]),
    ("network.shmem-1.mesh.link-down.total-time-used", .list [0, 0]),
    ("network.shmem-1.mesh.link-left.num-requests", .list [30, 0]),
    ("network.shmem-1.mesh.link-left.total-time-used", .list [300, 0]),
    ("network.shmem-1.mesh.link-right.num-requests", .list [0, 0]),
    ("network.shmem-1.mesh.link-right.total-time-used", .list [0, 0]),
    ("network.shmem-1.mesh.link-up.num-requests", .list [0, 0]),
    ("network.shmem-1.mesh.link-up.total-time-used", .list [0, 0]),
    ("performance_model.elapsed_time", .list ends),
    ("performance_model.elapsed_time_end", .list ends),
    ("performance_model.instruction_count", .list [100, 1000])]

theorem meshRun_nonNegative {ends : List Rat} (counted : ∀ x ∈ ends, 0 ≤ x) :
    (meshRun ends).NonNegative := by
  refine Stats.nonNegative_ofList ?_
  simpa [Value.NonNegative] using counted

/-- The duty cycle of the mesh where the first core ran to the end, and where it did not. -/
theorem meshRun_dutyCycle :
    (do (← ofRun (meshRun [1000, 1000]) ∅ busChip {}).stat "NoC.duty_cycle" .system) =
        .ok (3 / 10) ∧
      (do (← ofRun (meshRun [100, 1000]) ∅ busChip {}).stat "NoC.duty_cycle" .system) = .ok 3 := by
  decide +kernel

/-- The link was used for less than the first core ran. -/
theorem networkDutyCycle_le_one_iff_meshRun :
    ∃ a, ofRun (meshRun [1000, 1000]) ∅ busChip {} = .ok a ∧
      (meshRun [1000, 1000]).NonNegative ∧
      a.stat "NoC.duty_cycle" .system = .ok (3 / 10) ∧ (0 : Rat) ≤ 3 / 10 ∧
      Network.LinksFit (meshRun [1000, 1000]) := by
  obtain ⟨a, created, evaluated⟩ := bind_eq_ok_iff.1 meshRun_dutyCycle.1
  have counted : (meshRun [1000, 1000]).NonNegative := meshRun_nonNegative (by norm_num)
  obtain ⟨nonneg, fits⟩ := networkDutyCycle_le_one_iff created counted evaluated
  exact ⟨a, created, counted, evaluated, nonneg, fits.1 (by norm_num)⟩

/-- The first core ended early, and the link was in use for three times as long. -/
theorem networkDutyCycle_above_one :
    ∃ a, ofRun (meshRun [100, 1000]) ∅ busChip {} = .ok a ∧ (meshRun [100, 1000]).NonNegative ∧
      a.stat "NoC.duty_cycle" .system = .ok 3 ∧ ¬ (3 : Rat) ≤ 1 := by
  obtain ⟨a, created, evaluated⟩ := bind_eq_ok_iff.1 meshRun_dutyCycle.2
  exact ⟨a, created, meshRun_nonNegative (by norm_num), evaluated, by norm_num⟩

end Activity

end ChipPower
