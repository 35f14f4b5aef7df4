import ChipPower.Stack.Aggregate

/-!
# The values of a stack

What a stack holds, said through the reading it is built from: which trees have a
stack (`Reading.ofTree_eq_ok_iff`, `PowerStack.ofTree_eq_ok_iff`), and that the values
of its one unit are those of the categories in stack order (`Reading.values_raw`,
`Reading.get_ofRaw`). Nothing here depends on what the numbers are.
-/

namespace ChipPower

theorem Category.mem_order (category : Category) : category ∈ Category.order := by
  cases category <;> decide

/-- Stack order is the order of the categories. -/
theorem Category.sorted_order :
    Category.order.Pairwise fun a b => compare a b = .lt := by
  decide

variable {α : Type}

/-- A reading of a tree has its first core, its processor and its memory. -/
theorem Reading.ofTree_eq_ok_iff {tree : Tree α} {reading : Reading α} :
    Reading.ofTree tree = .ok reading ↔
      reading.tree = tree ∧ (∃ cores, tree.instances "Core" = reading.core :: cores) ∧
        tree.single? "Processor" = some reading.processor ∧
        tree.single? Tree.memoryLabel = some reading.memory := by
  unfold Reading.ofTree
  constructor
  · intro read
    split at read
    · cases read
    · rename_i core cores first
      split at read
      · cases read
      · rename_i processor single
        split at read
        · cases read
        · rename_i memory last
          cases read
          exact ⟨rfl, ⟨cores, first⟩, single, last⟩
  · rintro ⟨rfl, ⟨cores, first⟩, single, last⟩
    simp only [first, single, last]

variable [Scalar α]

theorem StackUnit.raw_ofRaw (raw : Dict Category α) (keepSmall : Bool) :
    (StackUnit.ofRaw raw keepSmall).raw = raw := rfl

theorem StackUnit.total_ofRaw (raw : Dict Category α) (keepSmall : Bool) :
    (StackUnit.ofRaw raw keepSmall).total = Scalar.sum raw.values := rfl

theorem StackUnit.get_scaledBy (largest : α) (unit : StackUnit α) :
    (unit.scaledBy largest).get = unit.get := rfl

theorem StackUnit.total_scaledBy (largest : α) (unit : StackUnit α) :
    (unit.scaledBy largest).total = unit.total := rfl

namespace Reading

variable (reading : Reading α) (lens : Lens)

theorem get?_raw (category : Category) :
    (reading.raw lens).get? category = some (reading.value lens category) := by
  rw [raw, Dict.get?_ofList, ← List.map_reverse]
  exact Dict.find_map (List.mem_reverse.2 category.mem_order) (reading.value lens)

/-- The values of all categories stand in stack order. -/
theorem values_raw :
    (reading.raw lens).values = Category.order.map (reading.value lens) := by
  have sorted : (Category.order.map fun category => (category, reading.value lens category)).Pairwise
      fun a b => compare a.1 b.1 = .lt :=
    List.pairwise_map.2 Category.sorted_order
  rw [Dict.values, raw, Dict.toList_ofList sorted, List.map_map]
  rfl

/-- A unit built from a reading has the values of the reading. -/
theorem get_ofRaw (keepSmall : Bool) (category : Category) :
    (StackUnit.ofRaw (reading.raw lens) keepSmall).get category = reading.value lens category := by
  rw [StackUnit.get, StackUnit.raw_ofRaw, get?_raw, Option.getD_some]

end Reading

/-- A tree that can be read has a stack of one unit, which differs from the values of
the reading in its scale only. -/
theorem PowerStack.ofTree_eq_ok_iff {tree : Tree α} {lens : Lens} {keepSmall : Bool}
    {stack : PowerStack α} :
    PowerStack.ofTree tree lens keepSmall = .ok stack ↔
      ∃ reading, Reading.ofTree tree = .ok reading ∧
        stack = PowerStack.ofUnits lens [StackUnit.ofRaw (reading.raw lens) keepSmall] := by
  unfold PowerStack.ofTree
  cases Reading.ofTree tree with
  | error failure => simp [bind, Except.bind]
  | ok reading =>
    constructor
    · intro built
      cases built
      exact ⟨reading, rfl, rfl⟩
    · rintro ⟨_, read, rfl⟩
      cases read
      rfl

/-- Whether a tree has a stack depends neither on the lens nor on what is collapsed. -/
theorem PowerStack.isOk_ofTree (tree : Tree α) (lens : Lens) (keepSmall : Bool) :
    (PowerStack.ofTree tree lens keepSmall).isOk = (Reading.ofTree tree).isOk := by
  rw [Bool.eq_iff_iff, isOk_iff, isOk_iff]
  simp only [ofTree_eq_ok_iff]
  constructor
  · rintro ⟨stack, reading, read, -⟩
    exact ⟨reading, read⟩
  · rintro ⟨reading, read⟩
    exact ⟨_, reading, read, rfl⟩

/-- `tree.HasUnit lens keepSmall unit`: the tree has a stack under the lens, which consists of
the unit. -/
def Tree.HasUnit (tree : Tree α) (lens : Lens) (keepSmall : Bool) (unit : StackUnit α) : Prop :=
  ∃ stack, PowerStack.ofTree tree lens keepSmall = .ok stack ∧ stack.units = [unit]

theorem Tree.exists_hasUnit_iff {tree : Tree α} {lens : Lens} {keepSmall : Bool} :
    (∃ unit, tree.HasUnit lens keepSmall unit) ↔
      (PowerStack.ofTree tree lens keepSmall).isOk = true := by
  rw [isOk_iff]
  constructor
  · rintro ⟨unit, stack, built, -⟩
    exact ⟨stack, built⟩
  · rintro ⟨stack, built⟩
    rcases PowerStack.ofTree_eq_ok_iff.1 built with ⟨reading, -, rfl⟩
    exact ⟨_, _, built, rfl⟩

/-- The unit of a tree holds what the reading of the tree says, whatever is collapsed. -/
theorem Tree.HasUnit.exists_reading {tree : Tree α} {lens : Lens} {keepSmall : Bool}
    {unit : StackUnit α} (has : tree.HasUnit lens keepSmall unit) :
    ∃ reading, Reading.ofTree tree = .ok reading ∧
      (∀ category, unit.get category = reading.value lens category) ∧
      unit.total = Scalar.sum (Category.order.map (reading.value lens)) := by
  rcases has with ⟨stack, built, units⟩
  rcases PowerStack.ofTree_eq_ok_iff.1 built with ⟨reading, read, rfl⟩
  obtain ⟨largest, same⟩ :
      ∃ largest, unit = (StackUnit.ofRaw (reading.raw lens) keepSmall).scaledBy largest :=
    ⟨_, (List.cons.inj units).1.symm⟩
  subst same
  refine ⟨reading, read, fun category => ?_, ?_⟩
  · rw [StackUnit.get_scaledBy, reading.get_ofRaw]
  · rw [StackUnit.total_scaledBy, StackUnit.total_ofRaw, reading.values_raw]

/-- A tree that can be read has a unit under every lens. -/
theorem Reading.exists_hasUnit {tree : Tree α} {reading : Reading α}
    (read : Reading.ofTree tree = .ok reading) (lens : Lens) (keepSmall : Bool) :
    ∃ unit, tree.HasUnit lens keepSmall unit ∧
      (∀ category, unit.get category = reading.value lens category) ∧
      unit.total = Scalar.sum (Category.order.map (reading.value lens)) := by
  have built : PowerStack.ofTree tree lens keepSmall =
      .ok (.ofUnits lens [StackUnit.ofRaw (reading.raw lens) keepSmall]) :=
    PowerStack.ofTree_eq_ok_iff.2 ⟨reading, read, rfl⟩
  have has : tree.HasUnit lens keepSmall _ := ⟨_, built, rfl⟩
  rcases has.exists_reading with ⟨same, read', get, total⟩
  cases read.symm.trans read'
  exact ⟨_, has, get, total⟩

end ChipPower
