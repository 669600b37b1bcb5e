import DramSweep.Report.Basic

/-!
The reports of one workload over a list of memory configurations, one of which is the reference
that the others are normalized to. A workload of several programs also names the workload that
each of its programs is when it runs alone.
-/

namespace DramSweep

open Std (ExtTreeMap)

/-- The reports of a workload, by configuration. -/
structure Workload where
  name : String
  configurations : List String
  /-- The configuration that every other one is normalized to. -/
  reference : String
  /-- The single-threaded workload of each core, for a workload of several programs. -/
  programs : Option (List String)
  reports : ExtTreeMap String Report

namespace Workload

/-- A workload from reports that are already read. A listed configuration without a report gets
an empty one. -/
def ofReports (name : String) (configurations : List String) (reference : String)
    (programs : Option (List String)) (reports : ExtTreeMap String Report) : Workload where
  name := name
  configurations := configurations
  reference := reference
  programs := programs
  reports := configurations.foldl (fun held c => held.insertIfNew c Report.empty) reports

def isMix (workload : Workload) : Bool :=
  workload.programs.isSome

def referenceReport (workload : Workload) : Except MetricError Report :=
  match workload.reports[workload.reference]? with
  | some report => .ok report
  | none => .error (.noReferenceReport workload.reference)

def lacks (workload : Workload) (configuration metric : String) : MetricError :=
  .metricUnavailable workload.name configuration metric

def normalizedName (metric : String) : String :=
  "normalized_" ++ metric

/-- A report with a metric divided by what the reference has. Without the metric it stays as it
is. -/
def normalizeReport (metric : String) (divisor : Float) (report : Report) : Report :=
  match report.get? metric with
  | some value => report.setMetric (normalizedName metric) (value.divideBy divisor)
  | none => report

/-- Normalizes a metric in every report held. Of values of the cores, the reference counts with
that of the first core; without one there is nothing to divide by. -/
def normalize (workload : Workload) (metric : String) : Except MetricError Workload := do
  let reference ← workload.referenceReport
  match (reference.get? metric).bind Quantity.divisor? with
  | none => throw (workload.lacks workload.reference metric)
  | some divisor =>
    return { workload with
      reports := workload.reports.map fun _ report => normalizeReport metric divisor report }

def setMetric (workload : Workload) (configuration name : String) (value : Quantity) :
    Workload :=
  { workload with
    reports := workload.reports.modify configuration fun report =>
      report.setMetric name value }

/-- The memory load of the reference: its requests per thousand instructions, summed over the
programs alone for a workload of several programs. There is none unless every program has its
report. -/
def memoryLoad (workload : Workload) : Except MetricError (Option Float) := do
  let reference ← workload.referenceReport
  match workload.programs with
  | none => return reference.mpki?
  | some programs =>
    if reference.references.isEmpty || reference.references.length != programs.length then
      return none
    else
      return (reference.references.mapM Report.mpki?).map Number.sum

end Workload

end DramSweep
