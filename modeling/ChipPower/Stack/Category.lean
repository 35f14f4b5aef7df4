import ChipPower.Dict
import ChipPower.Failure

/-!
The categories of a power stack, in the order in which a stack lists them.
-/

namespace ChipPower

/-- A category of a power stack. One that ends in `Ic` is the interconnect of the
cache before it. -/
inductive Category
  | core
  | coreIfetch
  | coreAluComplex
  | coreAluInt
  | coreAluFp
  | coreMem
  | coreOther
  | icache
  | dcache
  | dcacheIc
  | l2
  | l2Ic
  | l3
  | nuca
  | nucaIc
  | noc
  | dram
  deriving DecidableEq, Repr

namespace Category

/-- All categories, in stack order. -/
def order : List Category := [
  .core, .coreIfetch, .coreAluComplex, .coreAluInt, .coreAluFp, .coreMem, .coreOther,
  .icache, .dcache, .dcacheIc, .l2, .l2Ic, .l3, .nuca, .nucaIc, .noc, .dram]

/-- The place of a category in stack order. -/
def rank : Category → Nat
  | .core => 0
  | .coreIfetch => 1
  | .coreAluComplex => 2
  | .coreAluInt => 3
  | .coreAluFp => 4
  | .coreMem => 5
  | .coreOther => 6
  | .icache => 7
  | .dcache => 8
  | .dcacheIc => 9
  | .l2 => 10
  | .l2Ic => 11
  | .l3 => 12
  | .nuca => 13
  | .nucaIc => 14
  | .noc => 15
  | .dram => 16

theorem rank_injective {a b : Category} (h : a.rank = b.rank) : a = b := by
  cases a <;> cases b <;> simp [rank] at h ⊢

instance : Ord Category := ⟨compareOn rank⟩

instance : Std.TransOrd Category :=
  inferInstanceAs (Std.TransCmp (compareOn rank))

instance : Std.LawfulEqOrd Category where
  compare_self {a} := Nat.compare_eq_eq.2 (Eq.refl a.rank)
  eq_of_compare h := rank_injective (Nat.compare_eq_eq.1 h)

/-- The name of a category. -/
def name : Category → String
  | .core => "core"
  | .coreIfetch => "core-ifetch"
  | .coreAluComplex => "core-alu-complex"
  | .coreAluInt => "core-alu-int"
  | .coreAluFp => "core-alu-fp"
  | .coreMem => "core-mem"
  | .coreOther => "core-other"
  | .icache => "icache"
  | .dcache => "dcache"
  | .dcacheIc => "dcache-ic"
  | .l2 => "l2"
  | .l2Ic => "l2-ic"
  | .l3 => "l3"
  | .nuca => "nuca"
  | .nucaIc => "nuca-ic"
  | .noc => "noc"
  | .dram => "dram"

/-- The category of a name. -/
def ofName? (name : String) : Option Category :=
  order.find? fun category => category.name == name

theorem ofName?_name (category : Category) : ofName? category.name = some category := by
  cases category <;> rfl

/-- Whether a category is a part of a core that is no cache. -/
def isCore : Category → Bool
  | .core | .coreIfetch | .coreAluComplex | .coreAluInt | .coreAluFp | .coreMem
  | .coreOther => true
  | _ => false

/-- Whether a category is a cache or its interconnect. -/
def isCache : Category → Bool
  | .icache | .dcache | .dcacheIc | .l2 | .l2Ic | .l3 | .nuca | .nucaIc => true
  | _ => false

/-- Whether a category is outside of what a report counts as the core. -/
def isOutside : Category → Bool
  | .l3 | .nuca | .nucaIc | .noc | .dram => true
  | _ => false

/-- The structures of a core that belong to a category. -/
def coreStructures : Category → List String
  | .core => [
    "Execution Unit/Instruction Scheduler", "Execution Unit/Register Files",
    "Execution Unit/Results Broadcast Bus", "Renaming Unit"]
  | .coreIfetch => [
    "Instruction Fetch Unit/Branch Predictor", "Instruction Fetch Unit/Branch Target Buffer",
    "Instruction Fetch Unit/Instruction Buffer", "Instruction Fetch Unit/Instruction Decoder"]
  | .coreAluComplex => ["Execution Unit/Complex ALUs"]
  | .coreAluInt => ["Execution Unit/Integer ALUs"]
  | .coreAluFp => ["Execution Unit/Floating Point Units"]
  | .coreMem => [
    "Load Store Unit/LoadQ", "Load Store Unit/StoreQ", "Memory Management Unit"]
  | .icache => ["Instruction Fetch Unit/Instruction Cache"]
  | .dcache | .dcacheIc => ["Load Store Unit/Data Cache"]
  | .l2 | .l2Ic => ["L2"]
  | _ => []

/-- The category that holds the interconnect of a cache. -/
def interconnect? : Category → Option Category
  | .dcache => some .dcacheIc
  | .l2 => some .l2Ic
  | .nuca => some .nucaIc
  | _ => none

end Category

end ChipPower
