import DramSweep.MetricError
import DramSweep.Report.Counters

/-!
The metrics that are derived from the counters of a report. Each is a function of the counters
alone, and absent when one of its inputs is missing or a denominator is zero. Weighted speedup
also needs the reports of the programs when each runs alone; they are given by their first
instructions per cycle.
-/

namespace DramSweep

open Std (ExtTreeMap)

namespace Counters

/-- A quotient of two values, absent when either is missing or the denominator is zero. -/
def ratio (num den : Option Float) : Option Float :=
  num.bind fun n => den.bind fun d => if d == 0 then none else some (n / d)

/-- The unit of a latency. -/
inductive TimeUnit where
  | cycles
  | nanoseconds
  deriving Repr, DecidableEq

/-- How a unit shows in the names of latencies. -/
def TimeUnit.infixed : TimeUnit → String
  | .cycles => ""
  | .nanoseconds => "_ns"

def latencyName (kind : String) (unit : TimeUnit) : String :=
  kind ++ "_latency" ++ unit.infixed ++ "_avg"

variable (counters : Counters)

/-- The most cycles that a core ran. -/
def maxCpuCycles : Option Float :=
  (counters.values? "cpu_cycles" 0).bind fun
    | [] => none
    | first :: rest => some (rest.foldl Number.larger first)

/-- Instructions per cycle of each core: the entries of the two families are paired in file
order. -/
def ipc : Option (List Float) :=
  (counters.values? "cpu_insts" 0).bind fun insts =>
    (counters.values? "cpu_cycles" 0).bind fun cycles =>
      if insts.length = cycles.length then
        (insts.zip cycles).mapM fun (i, c) => ratio (some i) (some c)
      else none

def requestRate (count : String) : Option Float :=
  ratio counters.memory[count]? counters.memory["incoming_requests"]?

/-- The requests being served in each bank, which is the deepest level of the family. -/
def servingRequests : Option (List Float) :=
  counters.deepest? "total_serving_requests"

/-- Bank-level parallelism: requests being served per bank and cycle. -/
def bankParallelism : Option Float :=
  counters.servingRequests.bind fun serving =>
    ratio (some (Number.sum serving))
      (counters.maxCpuCycles.map (· * serving.length.toFloat))

def effectiveBankParallelism : Option Float :=
  counters.servingRequests.bind fun serving =>
    ratio (some (Number.sum serving)) counters.memory["DRAM_active_cycles"]?

/-- Read latency less queueing latency and less the packet latencies that the report holds. -/
def dramLatency (unit : TimeUnit) : Option Float :=
  (counters.memory[latencyName "read" unit]?).bind fun read =>
    (counters.memory[latencyName "queueing" unit]?).map fun queueing =>
      ["request_packet", "response_packet"].foldl (fun latency packet =>
        match counters.memory[latencyName packet unit]? with
        | some value => latency - value
        | none => latency) (read - queueing)

/-- Zero for a packet latency that a report with a memory latency does not hold. -/
def absentPacketLatency (packet : String) (unit : TimeUnit) : Option Float :=
  if (counters.dramLatency unit).isSome && !counters.memory.contains (latencyName packet unit) then
    some 0
  else none

def bandwidth : Option Float :=
  (counters.memory["write_bandwidth"]?).bind fun write =>
    (counters.memory["read_bandwidth"]?).map fun read => write + read

def bandwidthUtilization : Option Float :=
  ratio counters.bandwidth
    ((counters.memory["maximum_internal_bandwidth"]?).or counters.memory["maximum_bandwidth"]?)

/-- Incoming requests for every thousand instructions of the first core. -/
def mpki : Option Float :=
  ratio ((counters.memory["incoming_requests"]?).map (· * 1000))
    ((counters.values? "cpu_insts" 0).bind List.head?)

/-- Every metric that needs no other report, with its name. -/
def candidates : List (String × Option Quantity) :=
  [("max_cpu_cycles", counters.maxCpuCycles.map .single),
    ("ipc", counters.ipc.map .perCore),
    ("row_hit_rate", (counters.requestRate "row_hits").map .single),
    ("row_miss_rate", (counters.requestRate "row_misses").map .single),
    ("row_conflict_rate", (counters.requestRate "row_conflicts").map .single),
    ("BLP", counters.bankParallelism.map .single),
    ("effective_BLP", counters.effectiveBankParallelism.map .single)] ++
  [TimeUnit.cycles, TimeUnit.nanoseconds].flatMap (fun unit =>
    [(latencyName "request_packet" unit,
        (counters.absentPacketLatency "request_packet" unit).map .single),
      (latencyName "response_packet" unit,
        (counters.absentPacketLatency "response_packet" unit).map .single),
      (latencyName "DRAM" unit, (counters.dramLatency unit).map .single)]) ++
  [("bandwidth", counters.bandwidth.map .single),
    ("bandwidth_utilization", counters.bandwidthUtilization.map .single),
    ("MPKI", counters.mpki.map .single)]

/-- The metrics of the report on its own. -/
def derived : ExtTreeMap String Quantity :=
  .ofList (counters.candidates.filterMap fun (name, value?) => value?.map (name, ·))

end Counters

/-- The sum over the cores of each core's instructions per cycle relative to those of its program
alone. `alone` holds what is known of each program's first value. There is nothing to compare
with one core or an unknown program; otherwise programs and cores must be equally many. A program
that is at zero leaves the speedup undefined. -/
def weightedSpeedup (ipc : List Float) (alone : List (Option Float)) :
    Except MetricError (Option Float) :=
  if ipc.length ≤ 1 then .ok none
  else match alone.mapM id with
    | none => .ok none
    | some alone =>
      if alone.length ≠ ipc.length then .error (.referenceCount alone.length ipc.length)
      else .ok (((ipc.zip alone).mapM fun (shared, alone) =>
        Counters.ratio (some shared) (some alone)).map Number.sum)

end DramSweep
