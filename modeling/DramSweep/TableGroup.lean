/-!
The groups of metrics that are tabulated together, each in a file of its own.
-/

namespace DramSweep

/-- Metrics that share a file. -/
structure TableGroup where
  name : String
  metrics : List String
  deriving Repr, DecidableEq

namespace TableGroup

/-- The metric that every configuration is normalized by. -/
def performance (mix : Bool) : String :=
  if mix then "weighted_speedup" else "ipc"

def single (metric : String) : TableGroup :=
  ⟨metric, [metric]⟩

/-- Memory load, performance, normalized performance, and what both kinds of workloads share. -/
def all (mix : Bool) : List TableGroup :=
  [single "MPKI",
    single (performance mix),
    single ("normalized_" ++ performance mix),
    ⟨"locality", ["row_hit_rate", "row_miss_rate", "row_conflict_rate"]⟩,
    single "bandwidth_utilization",
    ⟨"average_latency_ns", ["request_packet_latency_ns_avg", "queueing_latency_ns_avg",
      "DRAM_latency_ns_avg", "response_packet_latency_ns_avg"]⟩]

/-- The first record of every tidy file. -/
def tidyHeader : String :=
  "statistics,value,DRAM,workload,workload_feature,workload_and_feature,ref_MPKI\n"

end TableGroup

end DramSweep
