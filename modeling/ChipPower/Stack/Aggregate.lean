import ChipPower.Report.Tree
import ChipPower.Stack.Category

/-!
Power stacks: what each category of a chip has under a lens. The interconnect of
a cache is reported as part of the cache and is taken out of it, and what the
core has beyond its known structures is kept as its rest. Items that are small
against the whole are collapsed into one.
-/

namespace ChipPower

/-- An item of a stack. -/
structure StackItem (α : Type) where
  /-- The name of a category, or that of the collapsed items. -/
  label : String
  value : α

/-- The stack of a unit; the whole chip is one unit. -/
structure StackUnit (α : Type) where
  /-- The value of every category. -/
  raw : Dict Category α
  /-- The items in stack order, the small ones collapsed. -/
  items : List (StackItem α)
  total : α
  /-- The sum of the collapsed items. -/
  other : α
  /-- The total over that of the largest unit. -/
  scale : α

/-- A power stack. -/
structure PowerStack (α : Type) where
  lens : Lens
  units : List (StackUnit α)

/-- The category of an item, unless it is the collapsed rest. -/
def StackItem.category? {α : Type} (item : StackItem α) : Option Category :=
  Category.ofName? item.label

/-- The value of a category in a unit. -/
def StackUnit.get {α : Type} [Scalar α] (unit : StackUnit α) (category : Category) : α :=
  (unit.raw.get? category).getD 0.0

/-! ## The values of the categories -/

/-- What a stack is built from: the first core, the processor, and the rest of
the tree. -/
structure Reading (α : Type) where
  tree : Tree α
  core : Metrics α
  processor : Metrics α
  memory : Metrics α

namespace Reading

variable {α : Type} [Scalar α]

omit [Scalar α] in
/-- Finds the records that every stack needs. -/
def ofTree (tree : Tree α) : Except Failure (Reading α) :=
  match tree.instances "Core" with
  | [] => fail .noCoreReported
  | core :: _ =>
    match tree.single? "Processor" with
    | none => fail .noProcessorReported
    | some processor =>
      match tree.single? Tree.memoryLabel with
      | none => fail .noMemoryReported
      | some memory => .ok { tree, core, processor, memory }

variable (r : Reading α) (lens : Lens)

/-- The sum over the structures of the core that belong to a category. -/
def coreSum (category : Category) : α :=
  Scalar.sum (category.coreStructures.map fun part => lens.value r.core (some part))

/-- The interconnect of the structures of the core that belong to a category. -/
def coreInterconnect (category : Category) : α :=
  Scalar.sum (category.coreStructures.map fun part => lens.interconnect r.core (some part))

/-- What a category has as it is reported. -/
def reported : Category → α
  | .l3 => Scalar.sum ((r.tree.instances "L3").map fun record => lens.value record none)
  | .nuca =>
    Scalar.sum ((r.tree.instances Tree.nucaLabel).map fun record => lens.value record none)
  | .nucaIc =>
    Scalar.sum ((r.tree.instances Tree.nucaLabel).map fun record => lens.interconnect record none)
  | .noc => lens.value r.processor (some "Total NoCs")
  | .dram => lens.value r.memory none
  | .coreOther => 0.0
  | .dcacheIc => r.coreInterconnect lens .dcacheIc
  | .l2Ic => r.coreInterconnect lens .l2Ic
  | category => r.coreSum lens category

/-- What a category has without its interconnect. -/
def net (category : Category) : α :=
  match category.interconnect? with
  | some interconnect => r.reported lens category - r.reported lens interconnect
  | none => r.reported lens category

/-- What the core has in its known structures. -/
def attributed : α :=
  Scalar.sum ((Category.order.filter fun category => !category.isOutside).map (r.net lens))

/-- What the core has beyond its known structures, at least zero. -/
def coreRest : α :=
  Scalar.max 0.0 (lens.value r.core none - r.attributed lens)

/-- What a category has. -/
def value (category : Category) : α :=
  if category = .coreOther then r.coreRest lens else r.net lens category

/-- The values of all categories. -/
def raw : Dict Category α :=
  Dict.ofList (Category.order.map fun category => (category, r.value lens category))

end Reading

/-! ## Collapsing -/

namespace StackUnit

variable {α : Type} [Scalar α]

/-- The label of the collapsed items. -/
def otherLabel : String := "other"

/-- Whether a value is below one hundredth of the total. -/
def isSmall (total value : α) : Bool :=
  Scalar.less (Scalar.abs value) (0.01 * Scalar.abs total)

/-- The items of categories, where `keep` tells which of them stay. -/
def keptItems (raw : Dict Category α) (keep : Category → Bool) : List (StackItem α) :=
  (Category.order.filter keep).map fun category =>
    { label := category.name, value := (raw.get? category).getD 0.0 }

/-- The sum of the values of the categories that do not stay. -/
def collapsedSum (raw : Dict Category α) (keep : Category → Bool) : α :=
  ((Category.order.filter fun category => !keep category).map fun category =>
    (raw.get? category).getD 0.0).foldl (· + ·) 0.0

/-- The unit with the values of all categories. The collapsed items are listed
only if they have something in sum. -/
def ofRaw (raw : Dict Category α) (keepSmall : Bool) : StackUnit α :=
  let total := Scalar.sum raw.values
  let keep := fun category => keepSmall || !isSmall total ((raw.get? category).getD 0.0)
  let other := collapsedSum raw keep
  let rest := if Scalar.less 0.0 other then [{ label := otherLabel, value := other }] else []
  { raw, items := keptItems raw keep ++ rest, total, other, scale := 1.0 }

/-- The unit with its total related to the largest. -/
def scaledBy (largest : α) (unit : StackUnit α) : StackUnit α :=
  { unit with scale := if Scalar.isZero largest then 1.0 else unit.total / largest }

end StackUnit

/-- The stack of units, each with its total related to the largest. -/
def PowerStack.ofUnits {α : Type} [Scalar α] (lens : Lens) (units : List (StackUnit α)) :
    PowerStack α :=
  let largest := (units.map (·.total)).foldl Scalar.max 0.0
  { lens, units := units.map (StackUnit.scaledBy largest) }

/-- The power stack of a chip under a lens. Unless small items are kept, they are
collapsed. -/
def PowerStack.ofTree {α : Type} [Scalar α] (tree : Tree α) (lens : Lens) (keepSmall : Bool) :
    Except Failure (PowerStack α) := do
  let reading ← Reading.ofTree tree
  return PowerStack.ofUnits lens [StackUnit.ofRaw (reading.raw lens) keepSmall]

end ChipPower
