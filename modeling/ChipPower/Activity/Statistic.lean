import ChipPower.Activity.Formula

/-!
The statistics of the estimator input, each as a name and its formula. They are
grouped as the input document is: the system, the pipeline of a core, duty
cycles, first-level caches, directories, shared caches, the network, memory, and
operations that are processed in a cache.
-/

namespace ChipPower

/-- Statistics by name. -/
abbrev Statistics := List (String × Formula)

namespace Statistics

open Formula

/-! ## Shorthands -/

/-- The instructions of the core. -/
def instructions : Formula := .counter .instructions

/-- The floating-point instructions of the core. -/
def fpInstructions : Formula := .counter .fpInstructions

/-- The branch instructions of the core. -/
def branchInstructions : Formula := .counter .branchInstructions

/-- The whole accesses of the core to one of its caches. -/
def accesses (cache : String) : Formula :=
  trunc (element (cache ++ ".loads")) + trunc (element (cache ++ ".stores"))

/-! ## System and pipeline -/

/-- Statistics of the whole system. -/
def ofSystem : Statistics := [
  ("total_system_cycles", trunc maxCycles),
  ("total_system_idle_cycles", 0.0),
  ("total_system_busy_cycles", trunc maxCycles)]

/-- Statistics of the cycles and instructions of a core. -/
def ofExecution : Statistics := [
  ("total_cycles", counter .cycles),
  ("idle_cycles", counter .idleCycles),
  ("busy_cycles", counter .cycles - counter .idleCycles),
  ("total_instructions", instructions),
  ("committed_ins", trunc instructions),
  ("committed_int", instructions * 0.5),
  ("committed_fp", instructions * 0.5),
  ("integer_ins", trunc instructions - trunc fpInstructions - trunc branchInstructions),
  ("fp_ins", trunc fpInstructions),
  ("branch_ins", trunc branchInstructions),
  ("branch_mis", elementOrZero "branch_predictor.num-incorrect"),
  ("function_calls", instructions * 0.05),
  ("loads",
    trunc (element "L1-D.loads") + trunc (elementOrZero "L1-D.pic_vops_cmp") +
      trunc (elementOrZero "L1-D.pic_vops_search")),
  ("stores", trunc (element "L1-D.stores") + trunc (elementOrZero "L1-D.pic_vops_copy"))]

/-- Statistics of the buffers and tables of a core's pipeline. -/
def ofPipeline : Statistics := [
  ("BTB.read_accesses", trunc branchInstructions),
  ("RAT_rename.reads", 2.0 * instructions),
  ("RAT_rename.writes", instructions),
  ("RAT_fp_rename.reads", 2.0 * trunc fpInstructions),
  ("RAT_fp_rename.writes", trunc fpInstructions),
  ("ROB_reads", instructions),
  ("ROB_writes", instructions),
  ("instr.reads", instructions),
  ("instr.writes", instructions),
  ("instr.wakeup", instructions * 2.0),
  ("instr.fp.reads", trunc fpInstructions * 0.5),
  ("instr.fp.writes", trunc fpInstructions * 0.5),
  ("instr.fp.wakeup", trunc fpInstructions * 0.5),
  ("window_switches.ialu_accesses", counter .intAccesses),
  ("window_switches.fpu_accesses", fpInstructions),
  ("window_switches.mul_accesses", counter .fpMulDiv),
  ("window_switches.cdb_alu_accesses", counter .intAccesses),
  ("window_switches.cdb_fpu_accesses", fpInstructions),
  ("window_switches.cdb_mul_accesses", counter .fpMulDiv),
  ("RF_accesses.int_regfile_reads", instructions * 1.5),
  ("RF_accesses.int_regfile_writes", instructions * 0.75),
  ("RF_accesses.fp_regfile_reads", trunc fpInstructions * 0.25),
  ("RF_accesses.fp_regfile_writes", trunc fpInstructions * 0.125)]

/-- The duty cycles of the units of a core. -/
def ofDutyCycles : Statistics := [
  ("IFU.duty_cycle", dutyCycle instructions),
  ("LSU.duty_cycle", dutyCycle (accesses "L1-D")),
  ("MemManU.D.duty_cycle", dutyCycle (accesses "L1-D")),
  ("MemManU.I.duty_cycle", dutyCycle (accesses "L1-I")),
  ("FPU.duty_cycle", dutyCycle (trunc fpInstructions)),
  ("MUL.duty_cycle", dutyCycle (counter .fpMulDiv)),
  ("ALU.duty_cycle", aluDutyCycle)]

/-! ## Caches of a core -/

/-- Statistics of the first-level caches and translation buffers. The
instruction buffer is accessed exactly as often as the instruction cache. -/
def ofFirstLevel : Statistics := [
  ("itlb_total_accesses", instructions * 0.5),
  ("itlb_misses", instructions * 0.000025),
  ("itlb.total_accesses", element "L1-I.loads" + element "L1-I.stores"),
  ("itlb.total_misses", element "L1-I.load-misses" + element "L1-I.store-misses"),
  ("icache.read_accesses", element "L1-I.loads"),
  ("icache.read_misses", element "L1-I.load-misses"),
  ("dtlb.total_accesses", element "dtlb.access"),
  ("dtlb.total_misses", element "dtlb.miss"),
  ("dcache.read_accesses",
    withImplicit (trunc (element "L1-D.loads"))
      (trunc (element "L1-D.dirty_evicts") + trunc (element "L1-D.dirty_backinval"))),
  ("dcache.write_accesses",
    withImplicit (trunc (element "L1-D.stores")) (trunc (element "L1-D.load-misses"))),
  ("dcache.read_misses", element "L1-D.load-misses"),
  ("dcache.write_misses", element "L1-D.store-misses")]

/-- Statistics of the directories. They are not simulated, so their activity is
estimated from the instructions. -/
def ofDirectories : Statistics := [
  ("L1_directory.read_accesses", instructions * 2.0),
  ("L1_directory.write_accesses", instructions * 0.06667),
  ("L1_directory.read_misses", instructions * 0.00408),
  ("L1_directory.write_misses", instructions * 0.00005),
  ("L1_directory.conflicts", instructions * 0.00005),
  ("L2_directory.read_accesses", instructions * 0.125),
  ("L2_directory.write_accesses", instructions * 0.0625),
  ("L2_directory.read_misses", instructions * 0.004),
  ("L2_directory.write_misses", instructions * 0.0004),
  ("L2_directory.conflicts", instructions * 0.00025)]

/-! ## Shared caches -/

/-- Statistics of the L2 banks. -/
def ofL2 : Statistics := [
  ("L2.read_accesses",
    withImplicit (sum .l2 "L2.loads") (sum .l2 "L2.dirty_evicts" + sum .l2 "L2.dirty_backinval")),
  ("L2.write_accesses",
    withImplicit (sum .l2 "L2.stores") (sum .l2 "L2.load-misses" + sum .l2 "L2.writebacks")),
  ("L2.read_misses", sum .l2 "L2.load-misses"),
  ("L2.write_misses", sum .l2 "L2.store-misses"),
  ("L2_duty_cycle", dutyCycle (sum .l2 "L2.loads" + sum .l2 "L2.stores"))]

/-- Statistics of the L3 banks. A chip may have no L3. -/
def ofL3 : Statistics := [
  ("L3.read_accesses", sumOrZero .l3 "L3.loads"),
  ("L3.write_accesses", sumOrZero .l3 "L3.stores"),
  ("L3.read_misses", sumOrZero .l3 "L3.load-misses"),
  ("L3.write_misses", sumOrZero .l3 "L3.store-misses"),
  ("L3_duty_cycle",
    ifPresent "L3.loads" (dutyCycle (sum .l3 "L3.loads" + sum .l3 "L3.stores")))]

/-! ## Network and memory -/

/-- Statistics of the network. -/
def ofNetwork : Statistics := [
  ("NoC.type", network .kind),
  ("NoC.total_accesses", network .accesses),
  ("NoC.duty_cycle", network .dutyCycle)]

/-- Statistics of the memory. -/
def ofMemory : Statistics := [
  ("memory.reads", trunc (first "dram.reads")),
  ("memory.writes", trunc (first "dram.writes")),
  ("memory.accesses", trunc (first "dram.reads") + trunc (first "dram.writes"))]

/-! ## Processing in cache -/

/-- A cache that processes operations itself. -/
structure PicCache where
  /-- The name that its statistics start with in the estimator input. -/
  label : String
  /-- The name that its counters start with. -/
  counters : String
  sharing : Sharing
  /-- Whether searches count as compares. -/
  foldsSearches : Bool
  /-- Whether the in-bank fraction takes the place of the in-bank counters. -/
  usesFraction : Bool

namespace PicCache

/-- The data cache of a core. -/
def dcache : PicCache := ⟨"dcache", "L1-D", .own, true, true⟩

/-- The L2. -/
def l2 : PicCache := ⟨"L2", "L2", .l2, true, true⟩

/-- The L3, which never counted searches apart. -/
def l3 : PicCache := ⟨"L3", "L3", .l3, false, false⟩

variable (cache : PicCache)

/-- The name of a counter. -/
def counter (name : String) : String :=
  cache.counters ++ "." ++ name

/-- The value of a counter. -/
def count (name : String) : Formula :=
  sumOrZero cache.sharing (cache.counter name)

/-- The compares that a group of counters has, with the searches if they count
as compares. -/
def compares (group : String) : Formula :=
  if cache.foldsSearches then
    trunc (cache.count (group ++ "_cmp") + cache.count (group ++ "_search"))
  else trunc (cache.count (group ++ "_cmp"))

/-- The value that the in-bank fraction gives, or the one that was counted. -/
def orFraction (fraction counted : Formula) : Formula :=
  if cache.usesFraction then byFraction fraction counted else counted

/-- The copies that stay inside a bank. -/
def copiesInBank : Formula :=
  cache.orFraction (timesFraction (cache.count "pic_ops_copy"))
    (byPolicy (cache.count ("pic_ops_in_bank_copy_" ++ BankMapPolicy.allWays.name))
      (cache.count ("pic_ops_in_bank_copy_" ++ BankMapPolicy.moreSets.name)))

/-- The compares and searches of a cache that counted compares. -/
def comparesAndSearches : Formula :=
  sum cache.sharing (cache.counter "pic_ops_cmp") +
    sum cache.sharing (cache.counter "pic_ops_search")

/-- The compares that stay inside a bank. Under an in-bank fraction searches
count only if compares were counted. -/
def comparesInBank : Formula :=
  cache.orFraction
    (ifPresent (cache.counter "pic_ops_cmp") (trunc (timesFraction cache.comparesAndSearches)))
    (byPolicy (cache.compares ("pic_ops_in_bank_" ++ BankMapPolicy.allWays.name))
      (cache.compares ("pic_ops_in_bank_" ++ BankMapPolicy.moreSets.name)))

/-- The statistics of operations that are processed in a cache. -/
def statistics : Statistics := [
  (cache.label ++ ".pic_copy_ops", cache.count "pic_ops_copy"),
  (cache.label ++ ".pic_copy_ops_in_bank", cache.copiesInBank),
  (cache.label ++ ".pic_copy_tag_access", cache.count "pic_ops_tag_access_copy"),
  (cache.label ++ ".pic_copy_read_miss", cache.count "pic_ops_read_miss_copy"),
  (cache.label ++ ".pic_copy_write_miss", cache.count "pic_ops_write_miss_copy"),
  (cache.label ++ ".pic_cmp_ops", cache.compares "pic_ops"),
  (cache.label ++ ".pic_cmp_ops_in_bank", cache.comparesInBank),
  (cache.label ++ ".pic_cmp_tag_access", cache.compares "pic_ops_tag_access"),
  (cache.label ++ ".pic_cmp_read_miss", cache.compares "pic_ops_read_miss"),
  (cache.label ++ ".pic_cmp_write_miss", cache.compares "pic_ops_write_miss"),
  (cache.label ++ ".pic_key_writes", cache.count "pic_key_writes")]

end PicCache

/-! ## All statistics -/

/-- All statistics. -/
def all : Statistics :=
  ofSystem ++ ofExecution ++ ofPipeline ++ ofDutyCycles ++ ofFirstLevel ++ ofDirectories ++
    ofL2 ++ ofL3 ++ ofNetwork ++ ofMemory ++ PicCache.dcache.statistics ++
    PicCache.l2.statistics ++ PicCache.l3.statistics

/-- The formula of a statistic. -/
def formula? (name : String) : Option Formula :=
  all.lookup name

end Statistics

/-- The value of a statistic for a scope. -/
def Activity.stat {α : Type} [Scalar α] (a : Activity α) (name : String) (scope : Scope) :
    Except Failure α :=
  match Statistics.formula? name with
  | some formula => formula.eval a scope
  | none => fail (.unknownStatistic name)

end ChipPower
