import ChipPower.Template.Basic

/-!
The lines of a shared cache's bank in the estimator input.
-/

namespace ChipPower.Template.Layout

/-- An L2 bank. -/
def l2Bank : List Line := [
  .numbered ["\t\t<component id=\"system.L2", "\" name=\"L2", "\">"],
  .tuple "\t\t\t\t<param name=\"L2_config\" value=\"%i,%i,%i,%i,%i,%i, %i, %i\"/>"
    "L2_config",
  .literal "\t\t\t\t<param name=\"buffer_sizes\" value=\"16, 16, 16, 16\"/>",
  .field "\t\t\t\t<param name=\"clockrate\" value=\"%i\"/>"
    "L2_clock",
  .field "\t\t\t\t<param name=\"vdd\" value=\"%f\"/><!-- 0 means using ITRS default vdd -->"
    "L2_vdd",
  .literal "\t\t\t<param name=\"power_gating_vcc\" value=\"-1\"/><!-- -1 means using default power gating virtual power supply voltage constrained by technology and computed automatically-->",
  .literal "\t\t\t\t<param name=\"ports\" value=\"1,1,1\"/>",
  .literal "\t\t\t\t<param name=\"device_type\" value=\"0\"/>",
  .statistic "\t\t\t\t<stat name=\"read_accesses\" value=\"%i\"/>"
    "L2.read_accesses",
  .statistic "\t\t\t\t<stat name=\"write_accesses\" value=\"%i\"/>"
    "L2.write_accesses",
  .statistic "\t\t\t\t<stat name=\"read_misses\" value=\"%i\"/>"
    "L2.read_misses",
  .statistic "\t\t\t\t<stat name=\"write_misses\" value=\"%i\"/>"
    "L2.write_misses",
  .statistic "\t\t\t\t<stat name=\"pic_copy_ops\" value=\"%i\"/>"
    "L2.pic_copy_ops",
  .statistic "\t\t\t\t<stat name=\"pic_copy_ops_in_bank\" value=\"%i\"/>"
    "L2.pic_copy_ops_in_bank",
  .statistic "\t\t\t\t<stat name=\"pic_copy_tag_access\" value=\"%i\"/>"
    "L2.pic_copy_tag_access",
  .statistic "\t\t\t\t<stat name=\"pic_copy_read_miss\" value=\"%i\"/>"
    "L2.pic_copy_read_miss",
  .statistic "\t\t\t\t<stat name=\"pic_copy_write_miss\" value=\"%i\"/>"
    "L2.pic_copy_write_miss",
  .statistic "\t\t\t\t<stat name=\"pic_cmp_ops\" value=\"%i\"/>"
    "L2.pic_cmp_ops",
  .statistic "\t\t\t\t<stat name=\"pic_cmp_ops_in_bank\" value=\"%i\"/>"
    "L2.pic_cmp_ops_in_bank",
  .statistic "\t\t\t\t<stat name=\"pic_cmp_tag_access\" value=\"%i\"/>"
    "L2.pic_cmp_tag_access",
  .statistic "\t\t\t\t<stat name=\"pic_cmp_read_miss\" value=\"%i\"/>"
    "L2.pic_cmp_read_miss",
  .statistic "\t\t\t\t<stat name=\"pic_cmp_write_miss\" value=\"%i\"/>"
    "L2.pic_cmp_write_miss",
  .statistic "\t\t\t\t<stat name=\"pic_search_key_writes\" value=\"%i\"/>"
    "L2.pic_key_writes",
  .literal "\t\t\t\t<stat name=\"conflicts\" value=\"0\"/>",
  .statistic "\t\t\t\t<stat name=\"duty_cycle\" value=\"%f\"/>"
    "L2_duty_cycle",
  .literal "\t\t</component>"]

/-- An L3 bank. -/
def l3Bank : List Line := [
  .numbered ["\t\t<component id=\"system.L3", "\" name=\"L3", "\">"],
  .tuple "\t\t\t\t<param name=\"L3_config\" value=\"%i,%i,%i, %i, %i, %i,%i\"/>"
    "L3_config",
  .literal "\t\t<!-- the parameters are capacity,block_width, associativity,bank, throughput w.r.t. core clock, latency w.r.t. core clock,-->",
  .field "\t\t\t\t<param name=\"clockrate\" value=\"%i\"/>"
    "L3_clock",
  .field "\t\t\t\t<param name=\"vdd\" value=\"%f\"/><!-- 0 means using ITRS default vdd -->"
    "L3_vdd",
  .literal "\t\t\t<param name=\"power_gating_vcc\" value=\"-1\"/><!-- -1 means using default power gating virtual power supply voltage constrained by technology and computed automatically-->",
  .literal "\t\t\t\t<param name=\"ports\" value=\"1,1,1\"/>",
  .literal "\t\t\t\t<param name=\"device_type\" value=\"0\"/>",
  .literal "\t\t\t\t<param name=\"buffer_sizes\" value=\"16, 16, 16, 16\"/>",
  .literal "\t\t\t\t<!-- cache controller buffer sizes: miss_buffer_size(MSHR),fill_buffer_size,prefetch_buffer_size,wb_buffer_size-->",
  .statistic "\t\t\t\t<stat name=\"read_accesses\" value=\"%i\"/>"
    "L3.read_accesses",
  .statistic "\t\t\t\t<stat name=\"write_accesses\" value=\"%i\"/>"
    "L3.write_accesses",
  .statistic "\t\t\t\t<stat name=\"read_misses\" value=\"%i\"/>"
    "L3.read_misses",
  .statistic "\t\t\t\t<stat name=\"write_misses\" value=\"%i\"/>"
    "L3.write_misses",
  .statistic "\t\t\t\t<stat name=\"pic_copy_ops\" value=\"%i\"/>"
    "L3.pic_copy_ops",
  .statistic "\t\t\t\t<stat name=\"pic_copy_ops_in_bank\" value=\"%i\"/>"
    "L3.pic_copy_ops_in_bank",
  .statistic "\t\t\t\t<stat name=\"pic_copy_tag_access\" value=\"%i\"/>"
    "L3.pic_copy_tag_access",
  .statistic "\t\t\t\t<stat name=\"pic_copy_read_miss\" value=\"%i\"/>"
    "L3.pic_copy_read_miss",
  .statistic "\t\t\t\t<stat name=\"pic_copy_write_miss\" value=\"%i\"/>"
    "L3.pic_copy_write_miss",
  .statistic "\t\t\t\t<stat name=\"pic_cmp_ops\" value=\"%i\"/>"
    "L3.pic_cmp_ops",
  .statistic "\t\t\t\t<stat name=\"pic_cmp_ops_in_bank\" value=\"%i\"/>"
    "L3.pic_cmp_ops_in_bank",
  .statistic "\t\t\t\t<stat name=\"pic_cmp_tag_access\" value=\"%i\"/>"
    "L3.pic_cmp_tag_access",
  .statistic "\t\t\t\t<stat name=\"pic_cmp_read_miss\" value=\"%i\"/>"
    "L3.pic_cmp_read_miss",
  .statistic "\t\t\t\t<stat name=\"pic_cmp_write_miss\" value=\"%i\"/>"
    "L3.pic_cmp_write_miss",
  .statistic "\t\t\t\t<stat name=\"pic_search_key_writes\" value=\"%i\"/>"
    "L3.pic_key_writes",
  .literal "\t\t\t\t<stat name=\"conflicts\" value=\"0\"/>",
  .statistic "\t\t\t\t<stat name=\"duty_cycle\" value=\"%f\"/>"
    "L3_duty_cycle",
  .literal "\t\t</component>"]

end ChipPower.Template.Layout
