/-!
The catalog of the statistics of a simulator report that are kept. A raw name is either listed as
a scalar and matches as a whole, or begins with the stem of an indexed family and ends in the
index of one member.
-/

namespace DramSweep

namespace Catalog

def simulatorNamespace : String := "ramulator"

/-- Raw names of scalar statistics, each with its canonical name. The two namespaces share some
canonical names. -/
def scalars : List (String × String) :=
  [("ramulator.incoming_requests_per_channel", "incoming_requests"),
    ("ramulator.read_requests", "read_requests"),
    ("ramulator.write_requests", "write_requests"),
    ("ramulator.maximum_bandwidth", "maximum_bandwidth"),
    ("ramulator.maximum_internal_bandwidth", "maximum_internal_bandwidth"),
    ("ramulator.maximum_link_bandwidth", "maximum_link_bandwidth"),
    ("ramulator.read_bandwidth", "read_bandwidth"),
    ("ramulator.write_bandwidth", "write_bandwidth"),
    ("ramulator.row_hits", "row_hits"),
    ("ramulator.row_misses", "row_misses"),
    ("ramulator.row_conflicts", "row_conflicts"),
    ("ramulator.read_row_hits", "read_row_hits"),
    ("ramulator.read_row_misses", "read_row_misses"),
    ("ramulator.read_row_conflicts", "read_row_conflicts"),
    ("ramulator.write_row_hits", "write_row_hits"),
    ("ramulator.write_row_misses", "write_row_misses"),
    ("ramulator.write_row_conflicts", "write_row_conflicts"),
    ("ramulator.read_latency_avg", "read_latency_avg"),
    ("ramulator.queueing_latency_avg", "queueing_latency_avg"),
    ("ramulator.request_packet_latency_avg", "request_packet_latency_avg"),
    ("ramulator.response_packet_latency_avg", "response_packet_latency_avg"),
    ("ramulator.read_latency_ns_avg", "read_latency_ns_avg"),
    ("ramulator.queueing_latency_ns_avg", "queueing_latency_ns_avg"),
    ("ramulator.request_packet_latency_ns_avg", "request_packet_latency_ns_avg"),
    ("ramulator.response_packet_latency_ns_avg", "response_packet_latency_ns_avg"),
    ("ramulator.ramulator_active_cycles", "DRAM_active_cycles"),
    ("sim_insts", "sim_insts"),
    ("system.mem_ctrls.bw_total::total", "memory_bandwidth"),
    ("system.mem_ctrls.bw_read::total", "read_bandwidth"),
    ("system.mem_ctrls.bw_write::total", "write_bandwidth"),
    ("system.cpu.ipc", "ipc"),
    ("system.cpu.cpi", "cpi")]

/-- Stems of the per-core and per-bank statistics, each with the name of its family. -/
def families : List (String × String) :=
  [("ramulator.record_cycs_core_", "cpu_cycles"),
    ("ramulator.record_insts_core_", "cpu_insts"),
    ("ramulator.serving_requests_", "total_serving_requests"),
    ("ramulator.active_cycles_", "total_active_cycles")]

/-- How the table lists a raw name. -/
inductive Listing where
  | scalar (canonical : String)
  | family (canonical : String)
  deriving Repr, DecidableEq

def listing? (rawName : String) : Option Listing :=
  ((scalars.lookup rawName).map .scalar).or ((families.lookup rawName).map .family)

/-- The family whose stem begins the raw name, and what follows the stem. -/
def familyOf? (rawName : String) : Option (String × List Char) :=
  families.findSome? fun (stem, family) =>
    (stem.toList.isPrefixOf? rawName.toList).map (family, ·)

/-- Whether the part of a raw name before its first point is the simulator's namespace. -/
def isSimulatorName (rawName : String) : Bool :=
  rawName.toList.takeWhile (· ≠ '.') = simulatorNamespace.toList

end Catalog

end DramSweep
