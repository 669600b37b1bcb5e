import DramSweep.Csv
import DramSweep.Number.Layout
import DramSweep.Workload.Basic

/-!
The tables of a workload. The wide form has a header and one row for each metric, with one column
for each configuration; the tidy form has one row for each metric and configuration. Both are
given whole or not at all: a single value that cannot be had leaves the table unwritten.
-/

namespace DramSweep.Workload

/-- A value in a table: four decimal places. -/
def cell (value : Float) : String :=
  Number.fixed 4 value

/-- What characterizes a workload: its memory load, and its instructions per cycle or, for
several programs, its weighted speedup. -/
def feature (workload : Workload) : Except MetricError String := do
  let reference ← workload.referenceReport
  let demand (metric : String) (value? : Option Float) : Except MetricError Float :=
    match value? with
    | some value => .ok value
    | none => .error (workload.lacks workload.reference metric)
  let mpki ← demand "MPKI" (← workload.memoryLoad)
  if workload.isMix then
    let speedup ← demand "weighted_speedup" (reference.scalar? "weighted_speedup")
    return "MPKI_" ++ cell mpki ++ "_weighted-speedup_" ++ cell speedup
  else
    let ipc ← demand "ipc" (reference.ipc?.map Number.sum)
    return "MPKI_" ++ cell mpki ++ "_ipc_" ++ cell ipc

def value (workload : Workload) (metric configuration : String) : Except MetricError Float :=
  match workload.reports[configuration]? with
  | none => .error (.noReport configuration)
  | some report =>
    match report.get? metric with
    | some value => .ok value.total
    | none => .error (workload.lacks configuration metric)

def valuesOf (workload : Workload) (metric : String) : Except MetricError (List Float) :=
  workload.configurations.mapM (workload.value metric)

/-- The values of several metrics, each behind its name. -/
def allValues (workload : Workload) (metrics : List String) :
    Except MetricError (List (String × List Float)) :=
  metrics.mapM fun metric => return (metric, ← workload.valuesOf metric)

def label (workload : Workload) (feature : String) : String :=
  workload.name ++ "_" ++ feature

def wideRecords (workload : Workload) (metrics : List String) :
    Except MetricError (List (List String)) := do
  let feature ← workload.feature
  let rows ← workload.allValues metrics
  return (workload.label feature :: workload.configurations) ::
    rows.map fun (metric, values) => metric :: values.map cell

/-- The records of the tidy form: metric, value, configuration, workload, feature, both together,
and the memory load of the reference. -/
def tidyRecords (workload : Workload) (metrics : List String) :
    Except MetricError (List (List String)) := do
  let feature ← workload.feature
  match ← workload.memoryLoad with
  | none => throw (workload.lacks workload.reference "MPKI")
  | some mpki =>
    let rows ← workload.allValues metrics
    return rows.flatMap fun (metric, values) =>
      (workload.configurations.zip values).map fun (configuration, value) =>
        [metric, cell value, configuration, workload.name, feature, workload.label feature,
          cell mpki]

def wide (workload : Workload) (metrics : List String) : Except MetricError String :=
  (workload.wideRecords metrics).map Csv.records

def tidy (workload : Workload) (metrics : List String) : Except MetricError String :=
  (workload.tidyRecords metrics).map Csv.records

/-- Writes a table behind what a sink already holds. A table that cannot be given leaves the sink
as it was. -/
def appendTo (table : Except MetricError String) (sink : String) :
    Except MetricError Unit × String :=
  match table with
  | .ok text => (.ok (), sink ++ text)
  | .error e => (.error e, sink)

end DramSweep.Workload
