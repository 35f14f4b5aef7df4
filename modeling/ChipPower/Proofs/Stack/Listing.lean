import ChipPower.Proofs.Numeric.Exact
import ChipPower.Proofs.Stack.Values
import ChipPower.Stack.Data
import Mathlib.Algebra.BigOperators.Ring.List
import Mathlib.Data.List.Nodup
import Mathlib.Tactic.Linarith

/-!
# What a stack lists

The categories of a unit add up to its total, and each of them is listed by itself or
collapsed. The collapsed ones are listed together, but only if they have a positive sum:
a sum below zero is left out, so that the items have more than the total.

`StackUnit.Accounts` says this of a unit, `StackData.sum_unitData` carries it to the data
of a stack, and `PowerStack.listed_eq_total_iff` says when the items, and with them the
data, have what the unit has.
-/

namespace ChipPower

/-! ## Small values -/

theorem StackUnit.isSmall_eq (total value : Rat) :
    isSmall total value = decide (100 * |value| < |total|) := by
  have hundredth : (OfScientific.ofScientific 1 true 2 : Rat) = 1 / 100 := by norm_num
  rw [isSmall, Scalar.less_eq, Scalar.abs_eq, Scalar.abs_eq, hundredth, decide_eq_decide]
  constructor <;> intro below <;> linarith

/-! ## The items of a unit -/

namespace StackUnit

/-- What the items of a unit have. -/
def listed (unit : StackUnit Rat) : Rat :=
  (unit.items.map (·.value)).sum

/-- The categories that are collapsed. -/
def collapsed (unit : StackUnit Rat) (keepSmall : Bool) : List Category :=
  if keepSmall then []
  else Category.order.filter fun category => 100 * |unit.get category| < |unit.total|

/-- A unit accounts for its categories, all but those that are collapsed with a negative
sum. -/
structure Accounts (unit : StackUnit Rat) (keepSmall : Bool) : Prop where
  total_eq : unit.total = (Category.order.map unit.get).sum
  other_eq : unit.other = ((unit.collapsed keepSmall).map unit.get).sum
  listed_eq : unit.listed = unit.total + max 0 (-unit.other)
  listsOther_iff : otherLabel ∈ unit.items.map (·.label) ↔ 0 < unit.other
  distinct : (unit.items.map (·.label)).Nodup

variable (raw : Dict Category Rat) (keepSmall : Bool)

/-- Whether a category is listed by itself. -/
def kept (category : Category) : Bool :=
  keepSmall || !isSmall (Scalar.sum raw.values) ((raw.get? category).getD 0.0)

/-- The item of the collapsed categories, if they have something in sum. -/
def otherItems (other : Rat) : List (StackItem Rat) :=
  if Scalar.less 0.0 other then [{ label := otherLabel, value := other }] else []

theorem otherItems_eq (other : Rat) :
    otherItems other = if 0 < other then [{ label := otherLabel, value := other }] else [] := by
  rw [otherItems, Scalar.less_eq, Scalar.zero_eq]
  simp only [decide_eq_true_eq]

theorem items_ofRaw :
    (ofRaw raw keepSmall).items =
      keptItems raw (kept raw keepSmall) ++ otherItems (ofRaw raw keepSmall).other := rfl

theorem collapsed_ofRaw :
    (ofRaw raw keepSmall).collapsed keepSmall =
      Category.order.filter fun category => !kept raw keepSmall category := by
  cases keepSmall
  · simp only [collapsed, kept, isSmall_eq, Bool.false_or, Bool.not_not, Bool.false_eq_true,
      if_false]
    rfl
  · simp [collapsed, kept]

/-- The categories that are listed and those that are collapsed are all categories. -/
theorem sum_kept_add_sum_collapsed (value : Category → Rat) :
    ((Category.order.filter (kept raw keepSmall)).map value).sum +
        (((ofRaw raw keepSmall).collapsed keepSmall).map value).sum =
      (Category.order.map value).sum := by
  rw [collapsed_ofRaw, ← List.sum_append, ← List.map_append]
  exact ((List.filter_append_perm (kept raw keepSmall) Category.order).map value).sum_eq

theorem sum_keptItems (keep : Category → Bool) :
    ((keptItems raw keep).map (·.value)).sum =
      ((Category.order.filter keep).map (ofRaw raw keepSmall).get).sum := by
  rw [keptItems, List.map_map]
  rfl

theorem sum_otherItems (other : Rat) : ((otherItems other).map (·.value)).sum = max 0 other := by
  rw [otherItems_eq]
  by_cases positive : 0 < other
  · simp [positive, positive.le]
  · simp [positive, not_lt.1 positive]

theorem other_ofRaw :
    (ofRaw raw keepSmall).other =
      (((ofRaw raw keepSmall).collapsed keepSmall).map (ofRaw raw keepSmall).get).sum := by
  rw [collapsed_ofRaw, List.sum_eq_foldl, ← Scalar.zero_eq]
  rfl

/-- The items have what the categories have, and what is missing of the collapsed ones on
top. -/
theorem listed_ofRaw :
    (ofRaw raw keepSmall).listed =
      (Category.order.map (ofRaw raw keepSmall).get).sum +
        max 0 (-(ofRaw raw keepSmall).other) := by
  rw [listed, items_ofRaw, List.map_append, List.sum_append, sum_keptItems raw keepSmall,
    sum_otherItems, ← sum_kept_add_sum_collapsed raw keepSmall, ← other_ofRaw, add_assoc]
  rcases le_total 0 (ofRaw raw keepSmall).other with listed | missing
  · rw [max_eq_right listed, max_eq_left (neg_nonpos.2 listed), add_zero]
  · rw [max_eq_left missing, max_eq_right (neg_nonneg.2 missing), add_neg_cancel]

/-! ## Labels -/

theorem labels_keptItems (keep : Category → Bool) :
    (keptItems raw keep).map (·.label) = (Category.order.filter keep).map Category.name := by
  rw [keptItems, List.map_map]
  rfl

theorem labels_otherItems (other : Rat) :
    (otherItems other).map (·.label) = if 0 < other then [otherLabel] else [] := by
  rw [otherItems_eq]
  by_cases positive : 0 < other <;> simp [positive]

theorem nodup_labels : (Category.order.map Category.name ++ [otherLabel]).Nodup := by
  decide

theorem otherLabel_mem_iff :
    otherLabel ∈ (ofRaw raw keepSmall).items.map (·.label) ↔
      0 < (ofRaw raw keepSmall).other := by
  have noCategory : otherLabel ∉ (Category.order.filter (kept raw keepSmall)).map Category.name :=
    fun member => (List.nodup_append.1 nodup_labels).2.2 _
      ((List.filter_sublist.map Category.name).subset member) _
      (List.mem_singleton_self otherLabel) rfl
  rw [items_ofRaw, List.map_append, labels_keptItems, labels_otherItems, List.mem_append,
    or_iff_right noCategory, List.mem_ite_nil_right, List.mem_singleton, and_iff_left rfl]

theorem nodup_labels_ofRaw : ((ofRaw raw keepSmall).items.map (·.label)).Nodup := by
  rw [items_ofRaw, List.map_append, labels_keptItems, labels_otherItems]
  refine nodup_labels.sublist (.append (List.filter_sublist.map Category.name) ?_)
  split
  · exact .refl _
  · exact List.nil_sublist _

end StackUnit

/-- A unit that is built from a reading accounts for its categories. -/
theorem Reading.accounts (reading : Reading Rat) (lens : Lens) (keepSmall : Bool) :
    (StackUnit.ofRaw (reading.raw lens) keepSmall).Accounts keepSmall := by
  have total : (StackUnit.ofRaw (reading.raw lens) keepSmall).total =
      (Category.order.map (StackUnit.ofRaw (reading.raw lens) keepSmall).get).sum := by
    rw [StackUnit.total_ofRaw, Scalar.sum_eq, values_raw,
      funext (reading.get_ofRaw lens keepSmall)]
  exact {
    total_eq := total
    other_eq := StackUnit.other_ofRaw _ _
    listed_eq := total ▸ StackUnit.listed_ofRaw _ _
    listsOther_iff := StackUnit.otherLabel_mem_iff _ _
    distinct := StackUnit.nodup_labels_ofRaw _ _ }

theorem StackUnit.Accounts.scaledBy {unit : StackUnit Rat} {keepSmall : Bool}
    (accounts : unit.Accounts keepSmall) (largest : Rat) :
    (unit.scaledBy largest).Accounts keepSmall where
  total_eq := accounts.total_eq
  other_eq := accounts.other_eq
  listed_eq := accounts.listed_eq
  listsOther_iff := accounts.listsOther_iff
  distinct := accounts.distinct

/-! ## The data of a stack -/

/-- What a lens multiplies a value with: the time, but for an area. -/
def Lens.weight (lens : Lens) (seconds : Rat) : Rat :=
  if lens = .area then 1 else seconds

namespace StackData

theorem quantity_eq (lens : Lens) (seconds : Rat) (item : StackItem Rat) :
    quantity lens seconds item = item.value * lens.weight seconds := by
  unfold quantity Lens.weight
  split
  · rw [mul_one]
  · rfl

/-- The data of a unit have what its items have, if no two items share a label. -/
theorem sum_unitData {unit : StackUnit Rat} (distinct : (unit.items.map (·.label)).Nodup)
    (lens : Lens) (seconds : Rat) :
    (unitData lens seconds unit).values.sum = unit.listed * lens.weight seconds := by
  have keys : ((unit.items.map fun item => (item.label, quantity lens seconds item)).map
      (·.1)).Nodup := by
    rw [List.map_map]
    exact distinct
  rw [unitData, (Dict.perm_values_ofList keys).sum_eq, List.map_map, StackUnit.listed,
    ← List.sum_map_mul_right, funext (quantity_eq lens seconds ·)]
  rfl

end StackData

/-- A stack has one unit, which accounts for its categories. -/
theorem PowerStack.accounts_of_ofTree {tree : Tree Rat} {lens : Lens} {keepSmall : Bool}
    {stack : PowerStack Rat} (built : PowerStack.ofTree tree lens keepSmall = .ok stack) :
    stack.lens = lens ∧ ∃ unit, stack.units = [unit] ∧ unit.Accounts keepSmall := by
  rcases ofTree_eq_ok_iff.1 built with ⟨reading, -, rfl⟩
  exact ⟨rfl, _, rfl, (reading.accounts lens keepSmall).scaledBy _⟩

/-- Whatever the tree and the lens, the items of a stack, and the data made of them, have
what the stack has, unless small items are collapsed that have less than nothing in sum:
these are listed nowhere. -/
theorem PowerStack.listed_eq_total_iff {tree : Tree Rat} {lens : Lens} {keepSmall : Bool}
    {stack : PowerStack Rat} (built : PowerStack.ofTree tree lens keepSmall = .ok stack)
    (cores : Nat) (seconds : Rat) :
    ∃ unit data, stack.units = [unit] ∧
      (StackData.ofStack stack cores seconds).units = [data] ∧
      unit.Accounts keepSmall ∧
      data.values.sum = unit.listed * lens.weight seconds ∧
      (keepSmall = true → unit.listed = unit.total) ∧
      (unit.listed = unit.total ↔ 0 ≤ unit.other) ∧
      (data.values.sum = unit.total * lens.weight seconds ↔
        0 ≤ unit.other ∨ lens.weight seconds = 0) := by
  rcases accounts_of_ofTree built with ⟨rfl, unit, units, accounts⟩
  have whole : unit.listed = unit.total ↔ 0 ≤ unit.other := by
    rw [accounts.listed_eq, add_eq_left, max_eq_left_iff, neg_nonpos]
  have sums := StackData.sum_unitData accounts.distinct stack.lens seconds
  refine ⟨unit, StackData.unitData stack.lens seconds unit, units, ?_, accounts, sums, ?_,
    whole, ?_⟩
  · rw [StackData.ofStack, units, List.map_singleton]
  · rintro rfl
    exact whole.2 accounts.other_eq.ge
  · rw [sums, mul_eq_mul_right_iff, whole]

/-- A chip whose core has a data cache beside its integer units. -/
def Tree.dataCache (cache interconnect : Rat) : Tree Rat := Dict.ofList [
  ("Core", .instances [Dict.ofList [
    ("Execution Unit/Integer ALUs/Runtime Dynamic", 197),
    ("Load Store Unit/Data Cache/Runtime Dynamic", cache),
    ("Load Store Unit/Data Cache/Runtime IC-total Dynamic", interconnect),
    ("Runtime Dynamic", 200)]]),
  ("DRAM", .single ∅),
  ("Processor", .single ∅)]

/-- The interconnect takes less than the cache has, and its power is the residual. -/
theorem PowerStack.listed_eq_total_iff_smallInterconnect :
    ∃ stack, PowerStack.ofTree (Tree.dataCache 3 1) .dynamic false = .ok stack ∧
      ∃ unit data, stack.units = [unit] ∧ (StackData.ofStack stack 4 2).units = [data] ∧
        unit.other = 1 ∧ unit.listed = unit.total ∧ data.values.sum = unit.total * 2 := by
  have others : (PowerStack.ofTree (Tree.dataCache 3 1) .dynamic false).map
      (·.units.map (·.other)) = .ok [1] := by
    decide +kernel
  rcases built : PowerStack.ofTree (Tree.dataCache 3 1) .dynamic false with failure | stack
  · rw [built] at others
    cases others
  · rcases listed_eq_total_iff built 4 2 with
      ⟨unit, data, units, energies, -, -, -, whole, energy⟩
    rw [built, Except.map, units, List.map_singleton, Except.ok.injEq, List.cons.injEq] at others
    have nonneg : 0 ≤ unit.other := others.1.symm ▸ zero_le_one
    exact ⟨stack, rfl, unit, data, units, energies, others.1, whole.2 nonneg,
      energy.2 (.inl nonneg)⟩

/-- An interconnect that has more than its cache leaves the cache with less than nothing,
and with little enough to be collapsed. -/
theorem PowerStack.negative_other_unlisted :
    ∃ stack unit data, PowerStack.ofTree (Tree.dataCache 3 4) .dynamic false = .ok stack ∧
      stack.units = [unit] ∧ (StackData.ofStack stack 4 2).units = [data] ∧
      unit.total = 200 ∧ unit.other = -1 ∧ unit.listed = 201 ∧ data.values.sum = 402 := by
  have figures : (PowerStack.ofTree (Tree.dataCache 3 4) .dynamic false).map
      (·.units.map fun unit => (unit.total, unit.other)) = .ok [(200, -1)] := by
    decide +kernel
  rcases built : PowerStack.ofTree (Tree.dataCache 3 4) .dynamic false with failure | stack
  · rw [built] at figures
    cases figures
  · rcases accounts_of_ofTree built with ⟨lens, unit, units, accounts⟩
    rw [built, Except.map, units, List.map_singleton, Except.ok.injEq, List.cons.injEq,
      Prod.mk.injEq] at figures
    obtain ⟨⟨total, other⟩, -⟩ := figures
    have listed : unit.listed = 201 := by
      rw [accounts.listed_eq, total, other]
      norm_num
    refine ⟨stack, unit, StackData.unitData .dynamic 2 unit, rfl, units, ?_, total, other,
      listed, ?_⟩
    · rw [StackData.ofStack, units, lens, List.map_singleton]
    · rw [StackData.sum_unitData accounts.distinct, listed, Lens.weight,
        if_neg (by decide)]
      norm_num

end ChipPower
