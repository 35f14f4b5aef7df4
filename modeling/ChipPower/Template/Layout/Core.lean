import ChipPower.Template.Basic

/-!
The lines of a core in the estimator input: its properties, its activity, and
the components within it.
-/

namespace ChipPower.Template.Layout

/-- The properties of a core. -/
def coreProperties : List Line := [
  .numbered ["\t\t<component id=\"system.core", "\" name=\"core", "\">"],
  .literal "\t\t<!-- Core property -->",
  .field "\t\t\t<param name=\"clock_rate\" value='%i'/>"
    "core_clock",
  .field "\t\t\t<param name=\"vdd\" value=\"%f\"/><!-- 0 means using ITRS default vdd -->"
    "core_vdd",
  .literal "\t\t\t<param name=\"power_gating_vcc\" value=\"-1\"/><!-- -1 means using default power gating virtual power supply voltage constrained by technology and computed automatically-->",
  .literal "\t\t\t<param name=\"opt_local\" value=\"1\"/>",
  .literal "\t\t\t<param name=\"instruction_length\" value=\"32\"/>",
  .literal "\t\t\t<param name=\"opcode_width\" value=\"16\"/>",
  .literal "\t\t\t<!-- address width determins the tag_width in Cache, LSQ and buffers in cache controller ",
  .literal "\t\t\tdefault value is machine_bits, if not set --> ",
  .field "\t\t\t<param name=\"machine_type\" value=\"%i\"/><!-- 1 inorder; 0 OOO-->"
    "machineType",
  .literal "\t\t\t<!-- inorder/OoO -->",
  .literal "\t\t\t<param name=\"number_hardware_threads\" value=\"1\"/>",
  .literal "\t\t\t<!-- number_instruction_fetch_ports(icache ports) is always 1 in single-thread processor,",
  .literal "\t\t\tit only may be more than one in SMT processors. BTB ports always equals to fetch ports since ",
  .literal "\t\t\tbranch information in consective branch instructions in the same fetch group can be read out from BTB once.--> ",
  .field "\t\t\t<param name=\"fetch_width\" value=\"%d\"/>"
    "issue_width",
  .literal "\t\t\t<!-- fetch_width determins the size of cachelines of L1 cache block -->",
  .literal "\t\t\t<param name=\"number_instruction_fetch_ports\" value=\"1\"/>",
  .field "\t\t\t<param name=\"decode_width\" value=\"%d\"/>"
    "issue_width",
  .literal "\t\t\t<!-- decode_width determins the number of ports of the ",
  .literal "\t\t\trenaming table (both RAM and CAM) scheme -->",
  .literal "\t\t\t<param name=\"x86\" value=\"1\"/> ",
  .literal "\t\t\t<param name=\"micro_opcode_width\" value=\"8\"/> ",
  .field "\t\t\t<param name=\"issue_width\" value=\"%u\"/>"
    "issue_width",
  .field "\t\t\t<param name=\"peak_issue_width\" value=\"%u\"/>"
    "peak_issue_width",
  .literal "\t\t\t<!-- issue_width determins the number of ports of Issue window and other logic ",
  .literal "\t\t\t\tas in the complexity effective proccessors paper; issue_width==dispatch_width -->",
  .field "\t\t\t<param name=\"commit_width\" value=\"%u\"/>"
    "issue_width",
  .literal "\t\t\t<!-- commit_width determins the number of ports of register files -->",
  .literal "\t\t\t<param name=\"fp_issue_width\" value=\"2\"/>",
  .literal "\t\t\t<param name=\"prediction_width\" value=\"1\"/>",
  .literal "\t\t\t<!-- number of branch instructions can be predicted simultannouesl-->",
  .literal "\t\t\t<!-- Current version of McPAT does not distinguish int and floating point pipelines",
  .literal "\t\t\tTheses parameters are reserved for future use.-->",
  .literal "\t\t\t<param name=\"pipelines_per_core\" value=\"1,1\"/>",
  .literal "\t\t\t<!--integer_pipeline and floating_pipelines, if the floating_pipelines is 0, then the pipeline is shared-->",
  .literal "\t\t\t<param name=\"pipeline_depth\" value=\"14,14\"/>",
  .literal "\t\t\t<!-- pipeline depth of int and fp, if pipeline is shared, the second number is the average cycles of fp ops -->",
  .literal "\t\t\t<!-- issue and exe unit-->",
  .field "\t\t\t<param name=\"ALU_per_core\" value=\"%u\"/>"
    "ALU_per_core",
  .literal "\t\t\t<param name=\"MUL_per_core\" value=\"1\"/>",
  .literal "\t\t\t<!-- In superscalar processors, usually all ALU are not the same. certain inst. can only",
  .literal "\t\t\tbe processed by certain ALU. However, current McPAT does not consider this subtle difference -->",
  .literal "\t\t\t<param name=\"FPU_per_core\" value=\"2\"/>",
  .literal "\t\t\t<!-- buffer between IF and ID stage -->",
  .literal "\t\t\t<param name=\"instruction_buffer_size\" value=\"32\"/>",
  .literal "\t\t\t<!-- buffer between ID and sche/exe stage -->",
  .literal "\t\t\t<param name=\"decoded_stream_buffer_size\" value=\"16\"/>",
  .literal "\t\t\t<param name=\"instruction_window_scheme\" value=\"1\"/><!-- 0 PHYREG based, 1 RSBASED-->",
  .literal "\t\t\t<!-- McPAT support 2 types of OoO cores, RS based and physical reg based-->",
  .literal "\t\t\t<param name=\"instruction_window_size\" value=\"36\"/>",
  .literal "\t\t\t<param name=\"fp_instruction_window_size\" value=\"0\"/>",
  .literal "\t\t\t<!-- the instruction issue Q as in Alpha 21264; The RS as in Intel P6 -->",
  .field "\t\t\t<param name=\"ROB_size\" value=\"%d\"/>"
    "window_size",
  .literal "\t\t\t<!-- each in-flight instruction has an entry in ROB -->",
  .literal "\t\t\t<!-- registers -->",
  .literal "\t\t\t<param name=\"archi_Regs_IRF_size\" value=\"16\"/>",
  .literal "\t\t\t<param name=\"archi_Regs_FRF_size\" value=\"32\"/>",
  .literal "\t\t\t<!--  if OoO processor, phy_reg number is needed for renaming logic, ",
  .literal "\t\t\trenaming logic is for both integer and floating point insts.  -->",
  .literal "\t\t\t<param name=\"phy_Regs_IRF_size\" value=\"256\"/>",
  .literal "\t\t\t<param name=\"phy_Regs_FRF_size\" value=\"256\"/>",
  .literal "\t\t\t<!-- rename logic -->",
  .literal "\t\t\t<param name=\"rename_scheme\" value=\"0\"/>",
  .literal "\t\t\t<!-- can be RAM based(0) or CAM based(1) rename scheme",
  .literal "\t\t\tRAM-based scheme will have free list, status table;",
  .literal "\t\t\tRAM-based scheme have the valid bit in the data field of the CAM ",
  .literal "\t\t\tboth RAM and CAM need RAM-based checkpoint table, checkpoint_depth=# of in_flight instructions;",
  .literal "\t\t\tDetailed RAT Implementation see TR -->",
  .literal "\t\t\t<param name=\"register_windows_size\" value=\"0\"/>",
  .literal "\t\t\t<!-- how many windows in the windowed register file, sun processors;",
  .literal "\t\t\tno register windowing is used when this number is 0 -->",
  .literal "\t\t\t<!-- In OoO cores, loads and stores can be issued whether inorder(Pentium Pro) or (OoO)out-of-order(Alpha),",
  .literal "\t\t\tThey will always try to exeute out-of-order though. -->",
  .literal "\t\t\t<param name=\"LSU_order\" value=\"inorder\"/>",
  .literal "\t\t\t<param name=\"store_buffer_size\" value=\"96\"/>",
  .literal "\t\t\t<!-- By default, in-order cores do not have load buffers -->",
  .literal "\t\t\t<param name=\"load_buffer_size\" value=\"48\"/>",
  .literal "\t\t\t<!-- number of ports refer to sustainable concurrent memory accesses -->",
  .literal "\t\t\t<param name=\"memory_ports\" value=\"1\"/>",
  .literal "\t\t\t<!-- max_allowed_in_flight_memo_instructions determins the # of ports of load and store buffer",
  .literal "\t\t\tas well as the ports of Dcache which is connected to LSU -->",
  .literal "\t\t\t<!-- dual-pumped Dcache can be used to save the extra read/write ports -->",
  .literal "\t\t\t<param name=\"RAS_size\" value=\"64\"/>"]

/-- The activity of a core. -/
def coreStatistics : List Line := [
  .literal "\t\t\t<!-- general stats, defines simulation periods;require total, idle, and busy cycles for senity check  -->",
  .literal "\t\t\t<!-- please note: if target architecture is X86, then all the instrucions refer to (fused) micro-ops -->",
  .statistic "\t\t\t<stat name=\"total_instructions\" value=\"%i\"/>"
    "total_instructions",
  .statistic "\t\t\t<stat name=\"int_instructions\" value=\"%i\"/>"
    "integer_ins",
  .statistic "\t\t\t<stat name=\"fp_instructions\" value=\"%i\"/>"
    "fp_ins",
  .statistic "\t\t\t<stat name=\"branch_instructions\" value=\"%i\"/>"
    "branch_ins",
  .statistic "\t\t\t<stat name=\"branch_mispredictions\" value=\"%i\"/>"
    "branch_mis",
  .statistic "\t\t\t<stat name=\"load_instructions\" value=\"%i\"/>"
    "loads",
  .statistic "\t\t\t<stat name=\"store_instructions\" value=\"%i\"/>"
    "stores",
  .statistic "\t\t\t<stat name=\"committed_instructions\" value=\"%i\"/>"
    "total_instructions",
  .statistic "\t\t\t<stat name=\"committed_int_instructions\" value=\"%i\"/>"
    "integer_ins",
  .statistic "\t\t\t<stat name=\"committed_fp_instructions\" value=\"%i\"/>"
    "fp_ins",
  .statistic "\t\t\t<stat name=\"total_cycles\" value=\"%i\"/>"
    "total_cycles",
  .statistic "\t\t\t<stat name=\"idle_cycles\" value=\"%i\"/>"
    "idle_cycles",
  .statistic "\t\t\t<stat name=\"busy_cycles\"  value=\"%i\"/>"
    "busy_cycles",
  .literal "\t\t\t<!-- instruction buffer stats -->",
  .literal "\t\t\t<!-- ROB stats, both RS and Phy based OoOs have ROB",
  .literal "\t\t\tperformance simulator should capture the difference on accesses,",
  .literal "\t\t\totherwise, McPAT has to guess based on number of commited instructions. -->",
  .statistic "\t\t\t<stat name=\"ROB_reads\" value=\"%i\"/>"
    "ROB_reads",
  .statistic "\t\t\t<stat name=\"ROB_writes\" value=\"%i\"/>"
    "ROB_writes",
  .literal "\t\t\t<!-- RAT accesses -->",
  .statistic "\t\t\t<stat name=\"rename_reads\" value=\"%i\"/>"
    "RAT_rename.reads",
  .statistic "\t\t\t<stat name=\"rename_writes\" value=\"%i\"/>"
    "RAT_rename.writes",
  .statistic "\t\t\t<stat name=\"fp_rename_reads\" value=\"%i\"/>"
    "RAT_fp_rename.reads",
  .statistic "\t\t\t<stat name=\"fp_rename_writes\" value=\"%i\"/>"
    "RAT_fp_rename.writes",
  .literal "\t\t\t<!-- decode and rename stage use this, should be total ic - nop -->",
  .literal "\t\t\t<!-- Inst window stats -->",
  .statistic "\t\t\t<stat name=\"inst_window_reads\" value=\"%i\"/>"
    "instr.reads",
  .statistic "\t\t\t<stat name=\"inst_window_writes\" value=\"%i\"/>"
    "instr.writes",
  .statistic "\t\t\t<stat name=\"inst_window_wakeup_accesses\" value=\"%i\"/>"
    "instr.wakeup",
  .statistic "\t\t\t<stat name=\"fp_inst_window_reads\" value=\"%i\"/>"
    "instr.fp.reads",
  .statistic "\t\t\t<stat name=\"fp_inst_window_writes\" value=\"%i\"/>"
    "instr.fp.writes",
  .statistic "\t\t\t<stat name=\"fp_inst_window_wakeup_accesses\" value=\"%i\"/>"
    "instr.fp.wakeup",
  .literal "\t\t\t<!--  RF accesses -->",
  .statistic "\t\t\t<stat name=\"int_regfile_reads\" value=\"%i\"/>"
    "RF_accesses.int_regfile_reads",
  .statistic "\t\t\t<stat name=\"float_regfile_reads\" value=\"%i\"/>"
    "RF_accesses.fp_regfile_reads",
  .statistic "\t\t\t<stat name=\"int_regfile_writes\" value=\"%i\"/>"
    "RF_accesses.int_regfile_writes",
  .statistic "\t\t\t<stat name=\"float_regfile_writes\" value=\"%i\"/>"
    "RF_accesses.fp_regfile_writes",
  .literal "\t\t\t<!-- accesses to the working reg -->",
  .statistic "\t\t\t<stat name=\"function_calls\" value=\"%i\"/>"
    "function_calls",
  .literal "\t\t\t<stat name=\"context_switches\" value=\"0\"/>",
  .literal "\t\t\t<!-- Number of Windowes switches (number of function calls and returns)-->",
  .literal "\t\t\t<!-- Alu stats by default, the processor has one FPU that includes the divider and ",
  .literal "\t\t\t multiplier. The fpu accesses should include accesses to multiplier and divider  -->",
  .statistic "\t\t\t<stat name=\"ialu_access\" value=\"%i\"/>"
    "window_switches.ialu_accesses",
  .statistic "\t\t\t<stat name=\"fpu_access\" value=\"%i\"/>"
    "window_switches.fpu_accesses",
  .statistic "\t\t\t<stat name=\"mul_accesses\" value=\"%i\"/>"
    "window_switches.mul_accesses",
  .statistic "\t\t\t<stat name=\"cdb_alu_accesses\" value=\"%i\"/>"
    "window_switches.cdb_alu_accesses",
  .statistic "\t\t\t<stat name=\"cdb_mul_accesses\" value=\"%i\"/>"
    "window_switches.cdb_mul_accesses",
  .statistic "\t\t\t<stat name=\"cdb_fpu_accesses\" value=\"%i\"/>"
    "window_switches.cdb_fpu_accesses",
  .literal "\t\t\t<!-- multiple cycle accesses should be counted multiple times, ",
  .literal "\t\t\totherwise, McPAT can use internal counter for different floating point instructions ",
  .literal "\t\t\tto get final accesses. But that needs detailed info for floating point inst mix -->",
  .literal "\t\t\t<!--  currently the performance simulator should ",
  .literal "\t\t\tmake sure all the numbers are final numbers, ",
  .literal "\t\t\tincluding the explicit read/write accesses, ",
  .literal "\t\t\tand the implicite accesses such as replacements and etc.",
  .literal "\t\t\tFuture versions of McPAT may be able to reason the implicite access",
  .literal "\t\t\tbased on param and stats of last level cache",
  .literal "\t\t\tThe same rule applies to all cache access stats too!  -->",
  .statistic "\t\t\t<stat name=\"IFU_duty_cycle\" value=\"%f\"/>"
    "IFU.duty_cycle",
  .statistic "\t\t\t<stat name=\"LSU_duty_cycle\" value=\"%f\"/>"
    "LSU.duty_cycle",
  .statistic "\t\t\t<stat name=\"MemManU_I_duty_cycle\" value=\"%f\"/>"
    "IFU.duty_cycle",
  .statistic "\t\t\t<stat name=\"MemManU_D_duty_cycle\" value=\"%f\"/>"
    "MemManU.D.duty_cycle",
  .statistic "\t\t\t<stat name=\"ALU_duty_cycle\" value=\"%f\"/>"
    "ALU.duty_cycle",
  .statistic "\t\t\t<stat name=\"MUL_duty_cycle\" value=\"%f\"/>"
    "MUL.duty_cycle",
  .statistic "\t\t\t<stat name=\"FPU_duty_cycle\" value=\"%f\"/>"
    "FPU.duty_cycle",
  .statistic "\t\t\t<stat name=\"ALU_cdb_duty_cycle\" value=\"%f\"/>"
    "ALU.duty_cycle",
  .statistic "\t\t\t<stat name=\"MUL_cdb_duty_cycle\" value=\"%f\"/>"
    "MUL.duty_cycle",
  .statistic "\t\t\t<stat name=\"FPU_cdb_duty_cycle\" value=\"%f\"/>"
    "FPU.duty_cycle",
  .literal "\t\t\t<param name=\"number_of_BPT\" value=\"2\"/>"]

/-- The branch predictor, the instruction buffer and the instruction cache of a
core. -/
def coreFetch : List Line := [
  .numbered ["\t\t\t<component id=\"system.core", ".predictor\" name=\"PBT\">"],
  .literal "\t\t\t\t<!-- branch predictor; tournament predictor see Alpha implementation -->",
  .literal "\t\t\t\t<param name=\"local_predictor_size\" value=\"10,3\"/>",
  .literal "\t\t\t\t<param name=\"local_predictor_entries\" value=\"1024\"/>",
  .literal "\t\t\t\t<param name=\"global_predictor_entries\" value=\"4096\"/>",
  .literal "\t\t\t\t<param name=\"global_predictor_bits\" value=\"2\"/>",
  .literal "\t\t\t\t<param name=\"chooser_predictor_entries\" value=\"4096\"/>",
  .literal "\t\t\t\t<param name=\"chooser_predictor_bits\" value=\"2\"/>",
  .literal "\t\t\t</component>",
  .numbered ["\t\t\t<component id=\"system.core", ".itlb\" name=\"itlb\">"],
  .literal "\t\t\t\t<param name=\"number_entries\" value=\"128\"/>",
  .statistic "\t\t\t\t<stat name=\"total_accesses\" value=\"%i\"/>"
    "itlb.total_accesses",
  .statistic "\t\t\t\t<stat name=\"total_misses\" value=\"%i\"/>"
    "itlb.total_misses",
  .literal "\t\t\t\t<stat name=\"conflicts\" value=\"0\"/>",
  .literal "\t\t\t\t<!-- there is no write requests to itlb although writes happen to itlb after miss,",
  .literal "\t\t\t\twhich is actually a replacement -->",
  .literal "\t\t\t</component>",
  .numbered ["\t\t\t<component id=\"system.core", ".icache\" name=\"icache\">"],
  .literal "\t\t\t\t<!-- there is no write requests to itlb although writes happen to it after miss, ",
  .literal "\t\t\t\twhich is actually a replacement -->",
  .tuple "\t\t\t\t<param name=\"icache_config\" value=\"%i,%i,%i,%i,%i,%i, %i, %i\"/>"
    "icache_cfg",
  .literal "\t\t\t\t<!-- the parameters are capacity,block_width, associativity,bank, throughput w.r.t. core clock, latency w.r.t. core clock,-->",
  .literal "\t\t\t\t<param name=\"buffer_sizes\" value=\"16, 16, 16, 0\"/>",
  .literal "\t\t\t\t<!-- cache controller buffer sizes: miss_buffer_size(MSHR),fill_buffer_size,prefetch_buffer_size,wb_buffer_size-->",
  .statistic "\t\t\t\t<stat name=\"read_accesses\" value=\"%i\"/>"
    "icache.read_accesses",
  .statistic "\t\t\t\t<stat name=\"read_misses\" value=\"%i\"/>"
    "icache.read_misses",
  .literal "\t\t\t\t<stat name=\"conflicts\" value=\"0\"/>",
  .literal "\t\t\t</component>"]

/-- The data buffer and the data cache of a core. -/
def coreData : List Line := [
  .numbered ["\t\t\t<component id=\"system.core", ".dtlb\" name=\"dtlb\">"],
  .literal "\t\t\t\t<param name=\"number_entries\" value=\"256\"/>",
  .statistic "\t\t\t\t<stat name=\"total_accesses\" value=\"%i\"/>"
    "dtlb.total_accesses",
  .statistic "\t\t\t\t<stat name=\"total_misses\" value=\"%i\"/>"
    "dtlb.total_misses",
  .literal "\t\t\t\t<stat name=\"conflicts\" value=\"0\"/>",
  .literal "\t\t\t</component>",
  .numbered ["\t\t\t<component id=\"system.core", ".dcache\" name=\"dcache\">"],
  .literal "\t\t\t\t<!-- all the buffer related are optional -->",
  .tuple "\t\t\t\t<param name=\"dcache_config\" value=\"%i,%i,%i,%i,%i,%i, %i, %i\"/>"
    "dcache_cfg",
  .literal "\t\t\t\t<param name=\"buffer_sizes\" value=\"16, 16, 16, 16\"/>",
  .literal "\t\t\t\t<!-- cache controller buffer sizes: miss_buffer_size(MSHR),fill_buffer_size,prefetch_buffer_size,wb_buffer_size-->",
  .statistic "\t\t\t\t<stat name=\"read_accesses\" value=\"%i\"/>"
    "dcache.read_accesses",
  .statistic "\t\t\t\t<stat name=\"write_accesses\" value=\"%i\"/>"
    "dcache.write_accesses",
  .statistic "\t\t\t\t<stat name=\"read_misses\" value=\"%i\"/>"
    "dcache.read_misses",
  .statistic "\t\t\t\t<stat name=\"write_misses\" value=\"%i\"/>"
    "dcache.write_misses",
  .literal "\t\t\t\t<stat name=\"conflicts\" value=\"0\"/>",
  .statistic "\t\t\t\t<stat name=\"pic_copy_ops\" value=\"%i\"/>"
    "dcache.pic_copy_ops",
  .statistic "\t\t\t\t<stat name=\"pic_copy_ops_in_bank\" value=\"%i\"/>"
    "dcache.pic_copy_ops_in_bank",
  .statistic "\t\t\t\t<stat name=\"pic_copy_tag_access\" value=\"%i\"/>"
    "dcache.pic_copy_tag_access",
  .statistic "\t\t\t\t<stat name=\"pic_copy_read_miss\" value=\"%i\"/>"
    "dcache.pic_copy_read_miss",
  .statistic "\t\t\t\t<stat name=\"pic_copy_write_miss\" value=\"%i\"/>"
    "dcache.pic_copy_write_miss",
  .statistic "\t\t\t\t<stat name=\"pic_cmp_ops\" value=\"%i\"/>"
    "dcache.pic_cmp_ops",
  .statistic "\t\t\t\t<stat name=\"pic_cmp_ops_in_bank\" value=\"%i\"/>"
    "dcache.pic_cmp_ops_in_bank",
  .statistic "\t\t\t\t<stat name=\"pic_cmp_tag_access\" value=\"%i\"/>"
    "dcache.pic_cmp_tag_access",
  .statistic "\t\t\t\t<stat name=\"pic_cmp_read_miss\" value=\"%i\"/>"
    "dcache.pic_cmp_read_miss",
  .statistic "\t\t\t\t<stat name=\"pic_cmp_write_miss\" value=\"%i\"/>"
    "dcache.pic_cmp_write_miss",
  .statistic "\t\t\t\t<stat name=\"pic_search_key_writes\" value=\"%i\"/>"
    "dcache.pic_key_writes",
  .literal "\t\t\t</component>"]

/-- The branch target buffer of a core, and the end of the core. -/
def coreTargets : List Line := [
  .numbered ["\t\t\t<component id=\"system.core", ".BTB\" name=\"BTB\">"],
  .literal "\t\t\t\t<!-- all the buffer related are optional -->",
  .literal "\t\t\t\t<param name=\"BTB_config\" value=\"18944,8,4,1, 1,3\"/>",
  .statistic "\t\t\t\t<stat name=\"read_accesses\" value=\"%i\"/>"
    "BTB.read_accesses",
  .literal "\t\t\t\t<stat name=\"write_accesses\" value=\"0\"/>",
  .literal "\t\t\t\t<!-- the parameters are capacity,block_width,associativity,bank, throughput w.r.t. core clock, latency w.r.t. core clock,-->",
  .literal "\t\t\t</component>",
  .literal "\t</component>",
  .literal "\t\t\t<!--**********************************************************************-->"]

/-- All lines of a core. -/
def core : List Line :=
  coreProperties ++ coreStatistics ++ coreFetch ++ coreData ++ coreTargets

end ChipPower.Template.Layout
