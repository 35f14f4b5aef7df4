import ChipPower.Proofs.Stack.Listing

/-!
# Collapsing as a partition

Each category of a unit is listed by itself or collapsed into the rest, and which of the two
it is depends on its value against the total only. `StackUnit.Partitions` says this of the
items as they are listed: their labels, in stack order, tell the listed categories from the
missing ones.

* `StackUnit.partitions_ofRaw`: a unit made of a value for every category.
* `PowerStack.partitions_of_ofTree`: the unit of a stack, whatever the tree and the lens.
-/

namespace ChipPower

theorem Category.name_injective {a b : Category} (same : a.name = b.name) : a = b :=
  Option.some.inj (by rw [← ofName?_name a, ← ofName?_name b, same])

theorem Category.name_ne_otherLabel (category : Category) :
    category.name ≠ StackUnit.otherLabel := by
  cases category <;> decide

namespace StackUnit

/-- The items of a unit without that of the collapsed ones. -/
def named (unit : StackUnit Rat) : List (StackItem Rat) :=
  unit.items.filter fun item => item.label != otherLabel

/-- The categories that no item is named after. -/
def missing (unit : StackUnit Rat) : List Category :=
  Category.order.filter fun category => category.name ∉ unit.named.map (·.label)

/-- The items of a unit and the collapsed rest part its categories: those that have less than
a hundredth of the total, unless they are kept, from all others. -/
structure Partitions (unit : StackUnit Rat) (keepSmall : Bool) : Prop where
  raw_eq : ∀ category, unit.raw.get? category = some (unit.get category)
  ordered : (unit.named.map (·.label)).Sublist (Category.order.map Category.name)
  distinct : (unit.named.map (·.label)).Nodup
  value_eq : ∀ item ∈ unit.named, ∃ category : Category,
    item.label = category.name ∧ item.value = unit.get category
  missing_iff : ∀ category, category ∈ unit.missing ↔
    keepSmall = false ∧ |unit.get category| < |unit.total| / 100
  other_eq : unit.other = (unit.missing.map unit.get).sum
  /-- The rest is listed last, and only if it has something in sum. -/
  items_eq : unit.items = unit.named ++
    if 0 < unit.other then [{ label := otherLabel, value := unit.other }] else []
  sum_eq : (unit.named.map (·.value)).sum + unit.other = unit.total

section OfRaw

variable (raw : Dict Category Rat) (keepSmall : Bool)

/-- The items that are not named after the rest are those of the kept categories. -/
theorem named_ofRaw : (ofRaw raw keepSmall).named = keptItems raw (kept raw keepSmall) := by
  have own : ∀ item ∈ keptItems raw (kept raw keepSmall), (item.label != otherLabel) = true := by
    intro item member
    obtain ⟨category, -, rfl⟩ := List.mem_map.1 member
    exact bne_iff_ne.2 category.name_ne_otherLabel
  have rest : ∀ item ∈ otherItems (ofRaw raw keepSmall).other,
      ¬ (item.label != otherLabel) = true := by
    intro item member
    rw [otherItems, List.mem_ite_nil_right, List.mem_singleton] at member
    simp [member.2]
  rw [named, items_ofRaw, List.filter_append, List.filter_eq_self.2 own,
    List.filter_eq_nil_iff.2 rest, List.append_nil]

/-- The categories that no item is named after are the collapsed ones. -/
theorem missing_ofRaw :
    (ofRaw raw keepSmall).missing = (ofRaw raw keepSmall).collapsed keepSmall := by
  rw [missing, named_ofRaw, labels_keptItems, collapsed_ofRaw]
  refine List.filter_congr fun category _ => ?_
  have listed : category.name ∈ (Category.order.filter (kept raw keepSmall)).map Category.name ↔
      kept raw keepSmall category = true := by
    rw [List.mem_map_of_injective fun _ _ => Category.name_injective, List.mem_filter,
      and_iff_right category.mem_order]
  simp [listed]

theorem mem_collapsed_iff (unit : StackUnit Rat) (category : Category) :
    category ∈ unit.collapsed keepSmall ↔
      keepSmall = false ∧ |unit.get category| < |unit.total| / 100 := by
  have hundredth : |unit.get category| < |unit.total| / 100 ↔
      100 * |unit.get category| < |unit.total| := by
    rw [lt_div_iff₀' (by norm_num)]
  cases keepSmall
  · simp [collapsed, hundredth, category.mem_order]
  · simp [collapsed]

/-- A unit made of a value for every category partitions them. -/
theorem partitions_ofRaw
    (whole : ∀ category, raw.get? category = some ((ofRaw raw keepSmall).get category))
    (accounts : (ofRaw raw keepSmall).Accounts keepSmall) :
    (ofRaw raw keepSmall).Partitions keepSmall := by
  have labels : (ofRaw raw keepSmall).named.map (·.label) =
      (Category.order.filter (kept raw keepSmall)).map Category.name := by
    rw [named_ofRaw, labels_keptItems]
  have sublist : ((ofRaw raw keepSmall).named.map (·.label)).Sublist
      (Category.order.map Category.name) :=
    labels ▸ List.filter_sublist.map Category.name
  exact {
    raw_eq := whole
    ordered := sublist
    distinct := (List.nodup_append.1 nodup_labels).1.sublist sublist
    value_eq := by
      intro item member
      rw [named_ofRaw] at member
      obtain ⟨category, -, rfl⟩ := List.mem_map.1 member
      exact ⟨category, rfl, rfl⟩
    missing_iff := fun category => missing_ofRaw raw keepSmall ▸ mem_collapsed_iff _ _ category
    other_eq := missing_ofRaw raw keepSmall ▸ accounts.other_eq
    items_eq := by
      rw [named_ofRaw, ← otherItems_eq]
      exact items_ofRaw raw keepSmall
    sum_eq := by
      rw [accounts.total_eq, accounts.other_eq, named_ofRaw, sum_keptItems raw keepSmall]
      exact sum_kept_add_sum_collapsed raw keepSmall _ }

end OfRaw

/-- The scale of a unit has no part in what is collapsed. -/
theorem Partitions.scaledBy {unit : StackUnit Rat} {keepSmall : Bool}
    (parted : unit.Partitions keepSmall) (largest : Rat) :
    (unit.scaledBy largest).Partitions keepSmall where
  raw_eq := parted.raw_eq
  ordered := parted.ordered
  distinct := parted.distinct
  value_eq := parted.value_eq
  missing_iff := parted.missing_iff
  other_eq := parted.other_eq
  items_eq := parted.items_eq
  sum_eq := parted.sum_eq

end StackUnit

/-- Whatever the tree and the lens, the one unit of a stack holds what was read of the tree,
and its items and the collapsed rest part the categories. -/
theorem PowerStack.partitions_of_ofTree {tree : Tree Rat} {lens : Lens} {keepSmall : Bool}
    {stack : PowerStack Rat} (built : PowerStack.ofTree tree lens keepSmall = .ok stack) :
    ∃ reading unit, Reading.ofTree tree = .ok reading ∧ stack.units = [unit] ∧
      unit.raw = reading.raw lens ∧ unit.Partitions keepSmall := by
  rcases ofTree_eq_ok_iff.1 built with ⟨reading, read, rfl⟩
  have whole : ∀ category, (reading.raw lens).get? category =
      some ((StackUnit.ofRaw (reading.raw lens) keepSmall).get category) := by
    intro category
    rw [reading.get?_raw, reading.get_ofRaw]
  have parted := StackUnit.partitions_ofRaw (reading.raw lens) keepSmall whole
    (reading.accounts lens keepSmall)
  exact ⟨reading, _, read, rfl, rfl, parted.scaledBy _⟩

/-- With an interconnect beyond its cache, the data cache itself is missing with less than
nothing, its interconnect is listed, and no item holds the rest. -/
theorem PowerStack.partitions_of_ofTree_negativeRest :
    ∃ stack, PowerStack.ofTree (Tree.dataCache 3 4) .dynamic false = .ok stack ∧
      ∃ unit, stack.units = [unit] ∧ unit.Partitions false ∧
        unit.named.map (·.label) = ["core-alu-int", "dcache-ic"] ∧
        unit.get .dcache = -1 ∧ unit.other = -1 := by
  have figures : (PowerStack.ofTree (Tree.dataCache 3 4) .dynamic false).map
      (·.units.map fun unit => (unit.named.map (·.label), unit.get .dcache, unit.other)) =
        .ok [(["core-alu-int", "dcache-ic"], -1, -1)] := by
    decide +kernel
  rcases built : PowerStack.ofTree (Tree.dataCache 3 4) .dynamic false with failure | stack
  · rw [built] at figures
    cases figures
  · obtain ⟨-, unit, -, units, -, parted⟩ := partitions_of_ofTree built
    rw [built, Except.map, units, List.map_singleton, Except.ok.injEq, List.cons.injEq,
      Prod.mk.injEq, Prod.mk.injEq] at figures
    exact ⟨stack, rfl, unit, units, parted, figures.1⟩

end ChipPower
