import ChipPower.Proofs.Numeric.Exact
import ChipPower.Proofs.Stack.Values
import Mathlib.Tactic.Linarith
import Mathlib.Tactic.Ring

/-!
# Power conservation

In exact arithmetic a stack neither makes nor loses power. The interconnect of a cache
is taken out of the cache and listed beside it, so that the two are the cache as it is
reported (`Reading.net_add_net`); the known structures of the core add up to what
is attributed to it (`Reading.attributed_eq`); and the rest of the core fills the gap
up to the whole core, if there is one.

`PowerStack.total_conserved` is the balance of a stack.
-/

namespace ChipPower

/-! ## The known structures -/

/-- Whether a category is the interconnect of a cache. -/
def Category.isInterconnect : Category → Bool
  | .dcacheIc | .l2Ic | .nucaIc => true
  | _ => false

/-- The structures of a core that belong to some category, each one once. -/
def Category.knownStructures : List String :=
  (Category.order.filter fun category => !category.isInterconnect).flatMap
    Category.coreStructures

theorem Category.nodup_knownStructures : Category.knownStructures.Nodup := by
  decide

theorem Category.filter_within :
    (Category.order.filter fun category => !category.isOutside) =
      [.core, .coreIfetch, .coreAluComplex, .coreAluInt, .coreAluFp, .coreMem, .coreOther,
        .icache, .dcache, .dcacheIc, .l2, .l2Ic] := rfl

/-- What the known structures of a core have. -/
def Lens.known (lens : Lens) (core : Metrics Rat) : Rat :=
  (Category.knownStructures.map fun part => lens.value core (some part)).sum

/-- What the records of a component have that a chip has several of. -/
def Lens.overall (lens : Lens) (records : List (Metrics Rat)) : Rat :=
  (records.map fun record => lens.value record none).sum

namespace Reading

variable (reading : Reading Rat) (lens : Lens)

/-! ## Categories -/

theorem net_eq (category : Category) (alone : category.interconnect? = none) :
    reading.net lens category = reading.reported lens category := by
  rw [net, alone]

/-- A cache and its interconnect have together what is reported for the cache. -/
theorem net_add_net {cache interconnect : Category}
    (beside : cache.interconnect? = some interconnect)
    (alone : interconnect.interconnect? = none) :
    reading.net lens cache + reading.net lens interconnect = reading.reported lens cache := by
  rw [reading.net_eq lens interconnect alone, net, beside]
  ring

theorem coreSum_eq (category : Category) :
    reading.coreSum lens category =
      (category.coreStructures.map fun part => lens.value reading.core (some part)).sum := by
  rw [coreSum, Scalar.sum_eq]

/-- What is attributed to the core is what its known structures have: the two caches
within the core get back the interconnect that was taken out of them. -/
theorem attributed_eq : reading.attributed lens = lens.known reading.core := by
  have parts : Category.knownStructures =
      Category.core.coreStructures ++ Category.coreIfetch.coreStructures ++
        Category.coreAluComplex.coreStructures ++ Category.coreAluInt.coreStructures ++
        Category.coreAluFp.coreStructures ++ Category.coreMem.coreStructures ++
        Category.icache.coreStructures ++ Category.dcache.coreStructures ++
        Category.l2.coreStructures := rfl
  rw [attributed, Scalar.sum_eq, Category.filter_within, Lens.known, parts]
  simp only [List.map_append, List.sum_append, ← coreSum_eq, List.map_cons, List.map_nil,
    List.sum_cons, List.sum_nil, net, Category.interconnect?, reported, Scalar.zero_eq]
  ring

theorem coreRest_eq :
    reading.coreRest lens =
      max 0 (lens.value reading.core none - lens.known reading.core) := by
  rw [coreRest, Scalar.max_eq, Scalar.zero_eq, attributed_eq]

/-- The categories in stack order have what is attributed to the core, the rest of the
core, and what lies outside of it. -/
theorem sum_value :
    (Category.order.map (reading.value lens)).sum =
      reading.attributed lens + reading.coreRest lens +
        (reading.reported lens .l3 + reading.reported lens .nuca + reading.reported lens .noc +
          reading.reported lens .dram) := by
  have rest_net : reading.net lens .coreOther = 0 := Scalar.zero_eq
  have nuca : reading.net lens .nuca + reading.net lens .nucaIc = reading.reported lens .nuca :=
    reading.net_add_net lens rfl rfl
  rw [attributed, Scalar.sum_eq, Category.filter_within, ← nuca, ← reading.net_eq lens .l3 rfl,
    ← reading.net_eq lens .noc rfl, ← reading.net_eq lens .dram rfl]
  simp only [Category.order, value, reduceCtorEq, if_false, if_true, List.map_cons,
    List.map_nil, List.sum_cons, List.sum_nil, rest_net]
  ring

theorem value_eq_net (category : Category) (attributed : category ≠ .coreOther) :
    reading.value lens category = reading.net lens category := by
  rw [value, if_neg attributed]

/-- A cache and its interconnect have together what is reported for the cache. -/
theorem value_add_value {cache interconnect : Category}
    (beside : cache.interconnect? = some interconnect)
    (alone : interconnect.interconnect? = none)
    (attributed : cache ≠ .coreOther ∧ interconnect ≠ .coreOther) :
    reading.value lens cache + reading.value lens interconnect = reading.reported lens cache := by
  rw [reading.value_eq_net lens cache attributed.1,
    reading.value_eq_net lens interconnect attributed.2,
    reading.net_add_net lens beside alone]

end Reading

/-! ## The balance of a stack -/

/-- What is left of a whole beyond its parts makes them up to the whole, unless they
exceed it. -/
theorem add_max_zero_sub (parts whole : Rat) : parts + max 0 (whole - parts) = max whole parts := by
  rw [← max_add_add_left, add_zero, add_sub_cancel, max_comm]

/-- A unit holds all that the components of a tree have, where the core has at least
what its known structures have. -/
structure StackUnit.Balances (unit : StackUnit Rat) (lens : Lens) (tree : Tree Rat)
    (core processor memory : Metrics Rat) : Prop where
  total_eq :
    unit.total =
      max (lens.value core none) (lens.known core) + lens.overall (tree.instances "L3") +
        lens.overall (tree.instances "NUCA") + lens.value processor (some "Total NoCs") +
        lens.value memory none
  dcache_eq :
    unit.get .dcache + unit.get .dcacheIc = lens.value core (some "Load Store Unit/Data Cache")
  l2_eq : unit.get .l2 + unit.get .l2Ic = lens.value core (some "L2")
  nuca_eq : unit.get .nuca + unit.get .nucaIc = lens.overall (tree.instances "NUCA")
  coreOther_eq : unit.get .coreOther = max 0 (lens.value core none - lens.known core)
  coreOther_nonneg : 0 ≤ unit.get .coreOther

theorem Reading.balances (reading : Reading Rat) (lens : Lens) (keepSmall : Bool) :
    (StackUnit.ofRaw (reading.raw lens) keepSmall).Balances lens reading.tree reading.core
      reading.processor reading.memory := by
  have rest : reading.value lens .coreOther =
      max 0 (lens.value reading.core none - lens.known reading.core) :=
    reading.coreRest_eq lens
  have single (category : Category) (part : String) (only : category.coreStructures = [part]) :
      reading.coreSum lens category = lens.value reading.core (some part) := by
    rw [coreSum_eq, only, List.map_cons, List.map_nil, List.sum_singleton]
  constructor
  case total_eq =>
    rw [StackUnit.total_ofRaw, Scalar.sum_eq, values_raw, sum_value, attributed_eq, coreRest_eq,
      add_max_zero_sub]
    simp only [reported, Scalar.sum_eq, Lens.overall, Tree.nucaLabel]
    ring
  case dcache_eq =>
    rw [get_ofRaw, get_ofRaw, reading.value_add_value lens rfl rfl (by decide)]
    exact single .dcache _ rfl
  case l2_eq =>
    rw [get_ofRaw, get_ofRaw, reading.value_add_value lens rfl rfl (by decide)]
    exact single .l2 _ rfl
  case nuca_eq =>
    rw [get_ofRaw, get_ofRaw, reading.value_add_value lens rfl rfl (by decide)]
    exact Scalar.sum_eq _
  case coreOther_eq => rw [get_ofRaw, rest]
  case coreOther_nonneg =>
    rw [get_ofRaw, rest]
    exact le_max_left _ _

theorem StackUnit.Balances.scaledBy {unit : StackUnit Rat} {lens : Lens} {tree : Tree Rat}
    {core processor memory : Metrics Rat} (balances : unit.Balances lens tree core processor memory)
    (largest : Rat) : (unit.scaledBy largest).Balances lens tree core processor memory where
  total_eq := balances.total_eq
  dcache_eq := balances.dcache_eq
  l2_eq := balances.l2_eq
  nuca_eq := balances.nuca_eq
  coreOther_eq := balances.coreOther_eq
  coreOther_nonneg := balances.coreOther_nonneg

/-- Power is conserved: whatever the tree and the lens, and whether or not small items
are collapsed, the one unit of a stack balances. -/
theorem PowerStack.total_conserved {tree : Tree Rat} {lens : Lens} {keepSmall : Bool}
    {stack : PowerStack Rat} (built : PowerStack.ofTree tree lens keepSmall = .ok stack) :
    ∃ unit core cores processor memory,
      stack.units = [unit] ∧ tree.instances "Core" = core :: cores ∧
        tree.single? "Processor" = some processor ∧ tree.single? "DRAM" = some memory ∧
        Category.knownStructures.Nodup ∧ unit.Balances lens tree core processor memory := by
  rcases ofTree_eq_ok_iff.1 built with ⟨reading, read, rfl⟩
  rcases Reading.ofTree_eq_ok_iff.1 read with ⟨rfl, ⟨cores, first⟩, processor, memory⟩
  exact ⟨_, reading.core, cores, reading.processor, reading.memory, rfl, first, processor, memory,
    Category.nodup_knownStructures, (reading.balances lens keepSmall).scaledBy _⟩

/-- A core that has more than its known structures. -/
def Metrics.withRest : Metrics Rat := Dict.ofList [
  ("L2/Runtime Dynamic", 3), ("Runtime Dynamic", 10)]

/-- A chip with such a core and two banks of NUCA. -/
def Tree.twoBanks : Tree Rat := Dict.ofList [
  ("Core", .instances [Metrics.withRest]),
  ("DRAM", .single (Dict.ofList [("Runtime Dynamic", 7)])),
  ("NUCA", .instances [Dict.ofList [("Runtime Dynamic", 4), ("Runtime IC-total Dynamic", 3)],
    Dict.ofList [("Runtime Dynamic", 5)]]),
  ("Processor", .single (Dict.ofList [("Total NoCs/Runtime Dynamic", 6)]))]

/-- The core has 10 and the rest of the chip 22. What its known structures leave is 7, and the
cache is separated from its interconnect. -/
theorem PowerStack.total_conserved_twoBanks :
    ∃ stack, PowerStack.ofTree Tree.twoBanks .dynamic false = .ok stack ∧
      ∃ unit, stack.units = [unit] ∧ unit.total = 32 ∧ unit.get .l2 + unit.get .l2Ic = 3 ∧
        unit.get .nuca + unit.get .nucaIc = 9 ∧ unit.get .coreOther = 7 := by
  have whole : Lens.dynamic.value Metrics.withRest none = 10 := by decide +kernel
  have parts : Lens.dynamic.known Metrics.withRest = 3 := by decide +kernel
  rcases found : PowerStack.ofTree Tree.twoBanks .dynamic false with failure | stack
  · cases found
  · rcases total_conserved found with
      ⟨unit, core, cores, processor, memory, units, first, single, last, -, balances⟩
    cases first
    cases single
    cases last
    refine ⟨stack, rfl, unit, units, ?_, ?_, ?_, ?_⟩
    · rw [balances.total_eq, whole, parts]
      decide +kernel
    · rw [balances.l2_eq]
      decide +kernel
    · rw [balances.nuca_eq]
      decide +kernel
    · rw [balances.coreOther_eq, whole, parts]
      decide +kernel

end ChipPower
