import ChipPower.Template.Basic

/-!
The lines of the estimator input that do not belong to one core or cache bank:
the head of the document with the numbers of its parts, the network, the memory
controller, and controllers that the chip does not have.
-/

namespace ChipPower.Template.Layout

/-- A line that tells a number. -/
def count (before : String) (number : Nat) (after : String) : Line :=
  .literal (before ++ toString number ++ after)

/-- The flag for L2 banks that serve one core each. -/
def privateFlag (h : Hierarchy) : Nat :=
  if h.privateL2s then 1 else 0

/-- The head of the document and the properties of the system. -/
def head (h : Hierarchy) : List Line := [
  .literal "<?xml version=\"1.0\" ?>",
  .literal "<!-- McPAT interface-->",
  .literal "<component id=\"root\" name=\"root\">",
  .literal "\t<component id=\"system\" name=\"system\">",
  .literal "\t\t<!--McPAT will skip the components if number is set to 0 -->",
  count "\t\t<param name=\"number_of_cores\" value=\"" h.cores
    "\"/>",
  .literal "\t\t<param name=\"number_of_L1Directories\" value=\"0\"/>",
  .literal "\t\t<param name=\"number_of_L2Directories\" value=\"0\"/>",
  count "\t\t<param name=\"number_of_L2s\" value=\"" h.l2Banks
    "\"/> <!-- This number means how many L2 clusters in each cluster there can be multiple banks/ports -->",
  count "\t\t<param name=\"Private_L2\" value =\"" (privateFlag h)
    "\"/>",
  count "\t\t<param name=\"number_of_L3s\" value=\"" h.l3Banks
    "\"/> <!-- This number means how many L3 clusters -->",
  .literal "\t\t<param name=\"number_of_NoCs\" value=\"1\"/>",
  .literal "\t\t<param name=\"homogeneous_cores\" value=\"0\"/><!--1 means homo -->",
  .literal "\t\t<param name=\"homogeneous_L2s\" value=\"0\"/>",
  .literal "\t\t<param name=\"homogeneous_L1Directories\" value=\"0\"/>",
  .literal "\t\t<param name=\"homogeneous_L2Directories\" value=\"0\"/>",
  .literal "\t\t<param name=\"homogeneous_L3s\" value=\"0\"/>",
  .literal "\t\t<param name=\"homogeneous_ccs\" value=\"1\"/><!--cache coherece hardware -->",
  .literal "\t\t<param name=\"homogeneous_NoCs\" value=\"1\"/>",
  count "\t\t<param name=\"core_tech_node\" value=\"" h.technologyNode
    "\"/><!-- nm -->",
  .field "\t\t<param name=\"target_core_clockrate\" value='%i'/><!--MHz -->"
    "core_clock",
  .literal "\t\t<param name=\"temperature\" value=\"330\"/> <!-- Kelvin -->",
  .literal "\t\t<param name=\"number_cache_levels\" value=\"3\"/>",
  .literal "\t\t<param name=\"interconnect_projection_type\" value=\"0\"/><!--0: agressive wire technology; 1: conservative wire technology -->",
  .literal "\t\t<param name=\"device_type\" value=\"0\"/><!--0: HP(High Performance Type); 1: LSTP(Low standby power) 2: LOP (Low Operating Power)  -->",
  .literal "\t\t<param name=\"longer_channel_device\" value=\"1\"/><!-- 0 no use; 1 use when approperiate -->",
  .literal "\t\t<param name=\"power_gating\" value=\"1\"/><!-- 0 not enabled; 1 enabled -->",
  .literal "\t\t<param name=\"machine_bits\" value=\"64\"/>",
  .literal "\t\t<param name=\"virtual_address_width\" value=\"64\"/>",
  .literal "\t\t<param name=\"physical_address_width\" value=\"52\"/>",
  .literal "\t\t<param name=\"virtual_memory_page_size\" value=\"4096\"/>",
  .statistic "\t\t<stat name=\"total_cycles\" value=\"%i\"/>"
    "total_system_cycles",
  .statistic "\t\t<stat name=\"idle_cycles\" value=\"%i\"/>"
    "total_system_idle_cycles",
  .statistic "\t\t<stat name=\"busy_cycles\"  value=\"%i\"/>"
    "total_system_busy_cycles",
  .literal "\t\t\t<!--This page size(B) is complete different from the page size in Main memo secction. this page size is the size of ",
  .literal "\t\t\tvirtual memory from OS/Archi perspective; the page size in Main memo secction is the actuall physical line in a DRAM bank  -->",
  .literal "\t\t<!-- *********************** cores ******************* -->"]

/-- The line between the parts of the system. -/
def divider : List Line := [
  .literal "\t\t\t<!--**********************************************************************-->"]

/-- The head of the network. -/
def networkHead : List Line := [
  .literal "\t\t<component id=\"system.NoC0\" name=\"noc0\">"]

/-- The clock and voltage of the network. -/
def networkDomain : List Line := [
  .field "\t\t\t<param name=\"clockrate\" value=\"%i\"/>"
    "NoC_clock",
  .field "\t\t\t<param name=\"vdd\" value=\"%f\"/><!-- 0 means using ITRS default vdd -->"
    "NoC_vdd"]

/-- The properties and the activity of the network. -/
def network : List Line := [
  .literal "\t\t\t<param name=\"power_gating_vcc\" value=\"-1\"/><!-- -1 means using default power gating virtual power supply voltage constrained by technology and computed automatically-->",
  .statistic "\t\t\t<param name=\"type\" value=\"%d\"/>"
    "NoC.type",
  .literal "\t\t\t<!--0:bus, 1:NoC , for bus no matter how many nodes sharing the bus at each time only one node can send req -->",
  .literal "\t\t\t<param name=\"horizontal_nodes\" value=\"1\"/>",
  .literal "\t\t\t<param name=\"vertical_nodes\" value=\"1\"/>",
  .literal "\t\t\t<param name=\"has_global_link\" value=\"0\"/>",
  .literal "\t\t\t<param name=\"link_throughput\" value=\"1\"/>",
  .literal "\t\t\t<param name=\"link_latency\" value=\"1\"/>",
  .literal "\t\t\t<param name=\"input_ports\" value=\"1\"/>",
  .literal "\t\t\t<param name=\"output_ports\" value=\"1\"/>",
  .literal "\t\t\t<param name=\"flit_bits\" value=\"256\"/>",
  .literal "\t\t\t<param name=\"chip_coverage\" value=\"1\"/>",
  .literal "\t\t\t<param name=\"link_routing_over_percentage\" value=\"0.5\"/>",
  .statistic "\t\t\t<stat name=\"total_accesses\" value=\"%i\"/>"
    "NoC.total_accesses",
  .statistic "\t\t\t<stat name=\"duty_cycle\" value=\"%f\"/>"
    "NoC.duty_cycle",
  .literal "\t\t</component>",
  .literal "\t\t\t<!--**********************************************************************-->"]

/-- The memory controller and the activity of the memory. -/
def memoryController : List Line := [
  .literal "\t\t<component id=\"system.mc\" name=\"mc\">",
  .literal "\t\t\t<!-- current version of McPAT uses published values for base parameters of memory controller",
  .literal "\t\t\timprovments on MC will be added in later versions. -->",
  .literal "\t\t\t<param name=\"mc_clock\" value=\"200\"/><!--MHz-->",
  .literal "\t\t\t<param name=\"vdd\" value=\"0\"/><!-- 0 means using ITRS default vdd -->",
  .literal "\t\t\t<param name=\"power_gating_vcc\" value=\"-1\"/><!-- -1 means using default power gating virtual power supply voltage constrained by technology and computed automatically-->",
  .literal "\t\t\t<param name=\"peak_transfer_rate\" value=\"3200\"/>",
  .literal "\t\t\t<param name=\"block_size\" value=\"64\"/><!--B-->",
  .literal "\t\t\t<param name=\"number_mcs\" value=\"0\"/>",
  .literal "\t\t\t<!-- current McPAT only supports homogeneous memory controllers -->",
  .literal "\t\t\t<param name=\"memory_channels_per_mc\" value=\"1\"/>",
  .literal "\t\t\t<param name=\"number_ranks\" value=\"2\"/>",
  .literal "\t\t\t<param name=\"withPHY\" value=\"0\"/>",
  .literal "\t\t\t<param name=\"req_window_size_per_channel\" value=\"32\"/>",
  .literal "\t\t\t<param name=\"IO_buffer_size_per_channel\" value=\"32\"/>",
  .literal "\t\t\t<param name=\"databus_width\" value=\"128\"/>",
  .literal "\t\t\t<param name=\"addressbus_width\" value=\"51\"/>",
  .literal "\t\t\t<!-- McPAT will add the control bus width to the addressbus width automatically -->",
  .statistic "\t\t\t<stat name=\"memory_accesses\" value=\"%i\"/>"
    "memory.accesses",
  .statistic "\t\t\t<stat name=\"memory_reads\" value=\"%i\"/>"
    "memory.reads",
  .statistic "\t\t\t<stat name=\"memory_writes\" value=\"%i\"/>"
    "memory.writes",
  .literal "\t\t\t<!-- McPAT does not track individual mc, instead, it takes the total accesses and calculate ",
  .literal "\t\t\tthe average power per MC or per channel. This is sufficent for most application. ",
  .literal "\t\t\tFurther trackdown can be easily added in later versions. -->",
  .literal "\t\t</component>"]

/-- The network interface, of which the chip has none. -/
def networkInterface : List Line := [
  .literal "\t\t<component id=\"system.niu\" name=\"niu\">",
  .literal "\t\t\t<param name=\"type\" value=\"0\"/> <!-- 1: low power; 0 high performance -->",
  .literal "\t\t\t<param name=\"clockrate\" value=\"350\"/>",
  .literal "\t\t\t<param name=\"vdd\" value=\"0\"/><!-- 0 means using ITRS default vdd -->",
  .literal "\t\t\t<param name=\"power_gating_vcc\" value=\"-1\"/><!-- -1 means using default power gating virtual power supply voltage constrained by technology and computed automatically-->",
  .literal "\t\t\t<param name=\"number_units\" value=\"0\"/> <!-- unlike PCIe and memory controllers, each Ethernet controller only have one port -->",
  .literal "\t\t\t<stat name=\"duty_cycle\" value=\"1.0\"/> <!-- achievable max load <= 1.0 -->",
  .literal "\t\t\t<stat name=\"total_load_perc\" value=\"0.7\"/> <!-- ratio of total achived load to total achivable bandwidth  -->",
  .literal "\t\t</component>"]

/-- The PCIe controller, of which the chip has none. -/
def pcie : List Line := [
  .literal "\t\t<component id=\"system.pcie\" name=\"pcie\">",
  .literal "\t\t\t<!-- On chip PCIe controller, including Phy-->",
  .literal "\t\t\t<param name=\"type\" value=\"0\"/> <!-- 1: low power; 0 high performance -->",
  .literal "\t\t\t<param name=\"withPHY\" value=\"1\"/>",
  .literal "\t\t\t<param name=\"clockrate\" value=\"350\"/>",
  .literal "\t\t\t<param name=\"vdd\" value=\"0\"/><!-- 0 means using ITRS default vdd -->",
  .literal "\t\t\t<param name=\"power_gating_vcc\" value=\"-1\"/><!-- -1 means using default power gating virtual power supply voltage constrained by technology and computed automatically-->",
  .literal "\t\t\t<param name=\"number_units\" value=\"0\"/>",
  .literal "\t\t\t<param name=\"num_channels\" value=\"8\"/> <!-- 2 ,4 ,8 ,16 ,32 -->",
  .literal "\t\t\t<stat name=\"duty_cycle\" value=\"1.0\"/> <!-- achievable max load <= 1.0 -->",
  .literal "\t\t\t<stat name=\"total_load_perc\" value=\"0.7\"/> <!-- Percentage of total achived load to total achivable bandwidth  -->",
  .literal "\t\t</component>"]

/-- The flash controller, of which the chip has none. -/
def flash : List Line := [
  .literal "\t\t<component id=\"system.flashc\" name=\"flashc\">",
  .literal "\t\t\t<param name=\"number_flashcs\" value=\"0\"/>",
  .literal "\t\t\t<param name=\"type\" value=\"1\"/> <!-- 1: low power; 0 high performance -->",
  .literal "\t\t\t<param name=\"withPHY\" value=\"1\"/>",
  .literal "\t\t\t<param name=\"peak_transfer_rate\" value=\"200\"/><!--Per controller sustainable reak rate MB/S -->",
  .literal "\t\t\t<param name=\"vdd\" value=\"0\"/><!-- 0 means using ITRS default vdd -->",
  .literal "\t\t\t<param name=\"power_gating_vcc\" value=\"-1\"/><!-- -1 means using default power gating virtual power supply voltage constrained by technology and computed automatically-->",
  .literal "\t\t\t<stat name=\"duty_cycle\" value=\"1.0\"/> <!-- achievable max load <= 1.0 -->",
  .literal "\t\t\t<stat name=\"total_load_perc\" value=\"0.7\"/> <!-- Percentage of total achived load to total achivable bandwidth  -->",
  .literal "\t\t</component>"]

/-- The end of the document. -/
def foot : List Line := [
  .literal "\t\t<!--**********************************************************************-->",
  .literal "\t</component>",
  .literal "</component>"]

end ChipPower.Template.Layout
