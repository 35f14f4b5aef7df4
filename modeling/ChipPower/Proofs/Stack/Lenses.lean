import ChipPower.Proofs.Stack.Conservation
import Mathlib.Algebra.Order.BigOperators.Group.List

/-!
# Lenses add up

Two lenses see leakage together with dynamic power, one at run time and one at the peak
(`Lens.WithLeakage`). In exact arithmetic they see in every structure what the lens for the
dynamic power and the lens for leakage see apart, and so in every category of a stack. The
interconnect of a cache is no exception, although only dynamic power at run time is split:
the lens for leakage takes nothing out of the cache.

The rest of the core is an exception, as it is kept from going below zero under each lens by
itself (`Reading.coreRest_le`, `Reading.coreRest_eq_add`). `PowerStack.withLeakage_adds` says
what this leaves of the sum for a stack.
-/

namespace ChipPower

/-- The lens `whole` sees the dynamic power that the lens `power` sees, and leakage. -/
inductive Lens.WithLeakage : Lens → Lens → Prop
  /-- At run time. -/
  | total : WithLeakage .dynamic .total
  /-- At the peak. -/
  | peak : WithLeakage .peakDynamic .peak

/-! ## Structures -/

namespace Lens.WithLeakage

variable {power whole : Lens} (joins : WithLeakage power whole)
include joins

/-- In each structure the two parts add up. -/
theorem value_eq (record : Metrics Rat) (structure? : Option String) :
    whole.value record structure? =
      power.value record structure? + Lens.static.value record structure? := by
  cases joins <;> rfl

/-- The lens for leakage takes nothing out of a cache, so the interconnect is that of the
dynamic power. -/
theorem interconnect_eq (record : Metrics Rat) (structure? : Option String) :
    whole.interconnect record structure? =
      power.interconnect record structure? + Lens.static.interconnect record structure? := by
  have unsplit : Lens.static.interconnect record structure? = 0 := Scalar.zero_eq
  rw [unsplit, add_zero]
  cases joins <;> rfl

end Lens.WithLeakage

/-! ## Categories -/

/-- What adds up for each element adds up for their sum. -/
theorem Scalar.sum_map_eq_add {β : Type} {whole first second : β → Rat}
    (adds : ∀ x, whole x = first x + second x) (xs : List β) :
    Scalar.sum (xs.map whole) = Scalar.sum (xs.map first) + Scalar.sum (xs.map second) := by
  rw [sum_eq, sum_eq, sum_eq, ← List.sum_map_add, funext adds]

namespace Reading

variable (reading : Reading Rat) {power whole : Lens} (joins : Lens.WithLeakage power whole)
include joins

/-- A category adds up in what was reported of it. -/
theorem reported_withLeakage (category : Category) :
    reading.reported whole category =
      reading.reported power category + reading.reported .static category := by
  have structures (category : Category) :
      reading.coreSum whole category =
        reading.coreSum power category + reading.coreSum .static category :=
    Scalar.sum_map_eq_add (fun part => joins.value_eq reading.core (some part)) _
  have interconnects (category : Category) :
      reading.coreInterconnect whole category =
        reading.coreInterconnect power category + reading.coreInterconnect .static category :=
    Scalar.sum_map_eq_add (fun part => joins.interconnect_eq reading.core (some part)) _
  cases category with
  | l3 | nuca => exact Scalar.sum_map_eq_add (fun record => joins.value_eq record none) _
  | nucaIc => exact Scalar.sum_map_eq_add (fun record => joins.interconnect_eq record none) _
  | noc => exact joins.value_eq reading.processor (some "Total NoCs")
  | dram => exact joins.value_eq reading.memory none
  | coreOther => rw [reported, reported, reported, Scalar.zero_eq, add_zero]
  | dcacheIc => exact interconnects .dcacheIc
  | l2Ic => exact interconnects .l2Ic
  | _ => exact structures _

/-- So it does in what is left of it without its interconnect. -/
theorem net_withLeakage (category : Category) :
    reading.net whole category =
      reading.net power category + reading.net .static category := by
  rw [net, net, net]
  split
  · rw [reading.reported_withLeakage joins, reading.reported_withLeakage joins]
    ring
  · exact reading.reported_withLeakage joins category

/-- What is attributed to the structures of the core adds up. -/
theorem attributed_withLeakage :
    reading.attributed whole = reading.attributed power + reading.attributed .static :=
  Scalar.sum_map_eq_add (reading.net_withLeakage joins) _

/-! ## The rest of the core -/

/-- What the core has beyond its known structures, before it is kept from going below
zero. -/
theorem beyond_withLeakage :
    whole.value reading.core none - reading.attributed whole =
      (power.value reading.core none - reading.attributed power) +
        (Lens.static.value reading.core none - reading.attributed .static) := by
  rw [joins.value_eq, reading.attributed_withLeakage joins]
  ring

/-- What is below zero under one lens makes up for what the other has above. -/
theorem coreRest_le :
    reading.coreRest whole ≤ reading.coreRest power + reading.coreRest .static := by
  rw [coreRest, coreRest, coreRest, reading.beyond_withLeakage joins]
  simp only [Scalar.max_eq, Scalar.zero_eq]
  exact max_le (add_nonneg (le_max_left _ _) (le_max_left _ _))
    (add_le_add (le_max_right _ _) (le_max_right _ _))

/-- Where neither part goes below zero, nothing is made up for. -/
theorem coreRest_eq_add
    (powerCovered : power.known reading.core ≤ power.value reading.core none)
    (leakageCovered : Lens.static.known reading.core ≤ Lens.static.value reading.core none) :
    reading.coreRest whole = reading.coreRest power + reading.coreRest .static := by
  rw [← attributed_eq] at powerCovered leakageCovered
  rw [coreRest, coreRest, coreRest, reading.beyond_withLeakage joins]
  simp only [Scalar.max_eq, Scalar.zero_eq]
  rw [max_eq_right (sub_nonneg.2 powerCovered), max_eq_right (sub_nonneg.2 leakageCovered),
    max_eq_right (add_nonneg (sub_nonneg.2 powerCovered) (sub_nonneg.2 leakageCovered))]

/-- All categories but the rest of the core add up. -/
theorem value_withLeakage {category : Category} (known : category ≠ .coreOther) :
    reading.value whole category =
      reading.value power category + reading.value .static category := by
  rw [reading.value_eq_net _ _ known, reading.value_eq_net _ _ known,
    reading.value_eq_net _ _ known, reading.net_withLeakage joins]

theorem value_le (category : Category) :
    reading.value whole category ≤
      reading.value power category + reading.value .static category := by
  by_cases rest : category = .coreOther
  · subst rest
    exact reading.coreRest_le joins
  · exact (reading.value_withLeakage joins rest).le

theorem sum_value_le :
    (Category.order.map (reading.value whole)).sum ≤
      (Category.order.map (reading.value power)).sum +
        (Category.order.map (reading.value .static)).sum := by
  rw [← List.sum_map_add]
  exact List.sum_le_sum fun category _ => reading.value_le joins category

end Reading

/-! ## Stacks -/

/-- Under a lens that sees leakage with dynamic power, the unit of a stack has in every
category what the units under the two parts have together, but for the rest of the core.
The rest may have less, and so may the total, if the known structures of the core exceed the
core under one of the parts. -/
theorem PowerStack.withLeakage_adds {tree : Tree Rat} {lens : Lens} {keepSmall : Bool}
    {stack : PowerStack Rat} (built : PowerStack.ofTree tree lens keepSmall = .ok stack) :
    ∃ core cores, tree.instances "Core" = core :: cores ∧
      ∀ power whole, Lens.WithLeakage power whole → ∀ keepPower keepLeakage keepWhole,
        ∃ powerUnit leakageUnit wholeUnit,
          tree.HasUnit power keepPower powerUnit ∧
          tree.HasUnit .static keepLeakage leakageUnit ∧
          tree.HasUnit whole keepWhole wholeUnit ∧
          (∀ category, category ≠ .coreOther →
            wholeUnit.get category = powerUnit.get category + leakageUnit.get category) ∧
          wholeUnit.get .coreOther ≤ powerUnit.get .coreOther + leakageUnit.get .coreOther ∧
          (power.known core ≤ power.value core none →
            Lens.static.known core ≤ Lens.static.value core none →
            wholeUnit.get .coreOther =
              powerUnit.get .coreOther + leakageUnit.get .coreOther) ∧
          wholeUnit.total ≤ powerUnit.total + leakageUnit.total := by
  rcases ofTree_eq_ok_iff.1 built with ⟨reading, read, -⟩
  rcases Reading.ofTree_eq_ok_iff.1 read with ⟨-, ⟨cores, first⟩, -, -⟩
  refine ⟨reading.core, cores, first, ?_⟩
  intro power whole joins keepPower keepLeakage keepWhole
  rcases Reading.exists_hasUnit read power keepPower with
    ⟨powerUnit, powerBuilt, powerGet, powerTotal⟩
  rcases Reading.exists_hasUnit read .static keepLeakage with
    ⟨leakageUnit, leakageBuilt, leakageGet, leakageTotal⟩
  rcases Reading.exists_hasUnit read whole keepWhole with
    ⟨wholeUnit, wholeBuilt, wholeGet, wholeTotal⟩
  refine ⟨powerUnit, leakageUnit, wholeUnit, powerBuilt, leakageBuilt, wholeBuilt,
    ?categories, ?rest, ?restCovered, ?total⟩
  case categories =>
    intro category known
    rw [wholeGet, powerGet, leakageGet]
    exact reading.value_withLeakage joins known
  case rest =>
    rw [wholeGet, powerGet, leakageGet]
    exact reading.coreRest_le joins
  case restCovered =>
    intro powerCovered leakageCovered
    rw [wholeGet, powerGet, leakageGet]
    exact reading.coreRest_eq_add joins powerCovered leakageCovered
  case total =>
    rw [wholeTotal, powerTotal, leakageTotal, Scalar.sum_eq, Scalar.sum_eq, Scalar.sum_eq]
    exact reading.sum_value_le joins

/-- A core with leakage of its own, and an L2 with an interconnect. -/
def Metrics.leaky : Metrics Rat := Dict.ofList [
  ("Gate Leakage", 4), ("L2/Runtime Dynamic", 3), ("L2/Runtime IC-total Dynamic", 2),
  ("Runtime Dynamic", 5)]

/-- A chip with such a core. -/
def Tree.leakyCore : Tree Rat := Dict.ofList [
  ("Core", .instances [Metrics.leaky]), ("DRAM", .single ∅), ("Processor", .single ∅)]

/-- The core covers its structures under both parts, so nothing is missing from the sum. -/
theorem PowerStack.withLeakage_adds_leakyCore :
    (PowerStack.ofTree Tree.leakyCore .area false).isOk = true ∧
      ∃ powerUnit leakageUnit wholeUnit,
        Tree.leakyCore.HasUnit .dynamic true powerUnit ∧
        Tree.leakyCore.HasUnit .static true leakageUnit ∧
        Tree.leakyCore.HasUnit .total false wholeUnit ∧
        wholeUnit.get .l2 = powerUnit.get .l2 + leakageUnit.get .l2 ∧
        wholeUnit.get .coreOther = powerUnit.get .coreOther + leakageUnit.get .coreOther ∧
        wholeUnit.total ≤ powerUnit.total + leakageUnit.total := by
  have accepted : (PowerStack.ofTree Tree.leakyCore .area false).isOk = true := rfl
  have powerCovered :
      Lens.dynamic.known Metrics.leaky ≤ Lens.dynamic.value Metrics.leaky none := by
    have covered : (3 : Rat) ≤ 5 := by norm_num
    simpa [Lens.known, Category.knownStructures, Category.order, Category.isInterconnect,
      Category.coreStructures, Lens.value, Metrics.read, Metrics.path, Metrics.leaky,
      Dict.get?_ofList, Dict.find, Scalar.zero_eq] using covered
  have leakageCovered :
      Lens.static.known Metrics.leaky ≤ Lens.static.value Metrics.leaky none := by
    simp [Lens.known, Category.knownStructures, Category.order, Category.isInterconnect,
      Category.coreStructures, Lens.value, Metrics.leakage, Metrics.read, Metrics.path,
      Metrics.leaky, Dict.get?_ofList, Dict.find, Scalar.zero_eq]
  rcases isOk_iff.1 accepted with ⟨stack, built⟩
  rcases withLeakage_adds built with ⟨core, cores, first, adds⟩
  cases first
  rcases adds .dynamic .total .total true true false with
    ⟨powerUnit, leakageUnit, wholeUnit, power, leakage, whole, categories, -, rest, total⟩
  exact ⟨accepted, powerUnit, leakageUnit, wholeUnit, power, leakage, whole,
    categories .l2 (by decide), rest powerCovered leakageCovered, total⟩

end ChipPower
