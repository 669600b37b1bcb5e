import DramSweep.FileTree
import DramSweep.Report.Derived

/-!
A report: its counters, the metrics derived from them, and the reports of the programs that ran
on each core when they ran alone. Reading a report never fails on its own; given references it
fails exactly when they cannot be matched with the cores. A file that is not there gives an empty
report; a reference that is not there is left out, so that references and cores may no longer match.
-/

namespace DramSweep

open Std (ExtTreeMap)

/-- What a run left behind, and what is derived from it. -/
structure Report where
  counters : Counters := {}
  derived : ExtTreeMap String Quantity := ∅
  /-- One report of a program alone for each core, where they were given. -/
  references : List Report := []

namespace Report

/-- The report of a run that left nothing. -/
def empty : Report := {}

instance : Inhabited Report := ⟨empty⟩

/-- Records the value of a metric, in place of an earlier one. -/
def setMetric (report : Report) (name : String) (value : Quantity) : Report :=
  { report with derived := report.derived.insert name value }

/-- The value of a metric: a derived one, or else a scalar of the memory simulator. -/
def get? (report : Report) (name : String) : Option Quantity :=
  report.derived[name]?.or (report.counters.memory[name]?.map .single)

@[simp] theorem counters_setMetric (report : Report) (name : String) (value : Quantity) :
    (report.setMetric name value).counters = report.counters := rfl

@[simp] theorem references_setMetric (report : Report) (name : String) (value : Quantity) :
    (report.setMetric name value).references = report.references := rfl

/-- What is recorded is what is found, also where a scalar has the same name. -/
theorem get?_setMetric_self (report : Report) (name : String) (value : Quantity) :
    (report.setMetric name value).get? name = some value := by
  simp [get?, setMetric]

theorem get?_setMetric_of_ne (report : Report) {name other : String} (h : name ≠ other)
    (value : Quantity) : (report.setMetric name value).get? other = report.get? other := by
  simp [get?, setMetric, ExtTreeMap.getElem?_insert, h]

/-- The value of a metric that is a single number. Values of the cores hide a scalar. -/
def scalar? (report : Report) (name : String) : Option Float :=
  match report.get? name with
  | some (.single value) => some value
  | _ => none

def ipc? (report : Report) : Option (List Float) :=
  report.derived["ipc"]?.bind Quantity.perCore?

/-- Instructions per cycle of the first core. -/
def firstIpc? (report : Report) : Option Float :=
  report.ipc?.bind List.head?

/-- Memory requests for every thousand instructions. -/
def mpki? (report : Report) : Option Float :=
  report.scalar? "MPKI"

/-- Whether the report holds nothing, its references aside. -/
def isEmpty (report : Report) : Bool :=
  report.counters.isEmpty && report.derived.isEmpty

def ofCounters (counters : Counters) : Report :=
  { counters, derived := counters.derived }

/-- Attaches the reports of the programs alone, and derives weighted speedup from them. -/
def withReferences (report : Report) (references : List Report) : Except MetricError Report := do
  let speedup? ← match report.ipc? with
    | none => pure none
    | some ipc => weightedSpeedup ipc (references.map firstIpc?)
  let report := match speedup? with
    | some speedup => report.setMetric "weighted_speedup" (.single speedup)
    | none => report
  return { report with references }

def ofBytes (bytes : Bytes) : Report :=
  ofCounters (.ofBytes bytes)

def read (bytes : Bytes) : Option (List Report) → Except MetricError Report
  | none => .ok (ofBytes bytes)
  | some references => (ofBytes bytes).withReferences references

def load (tree : FileTree) (path : Path) : Report :=
  match tree.open? path with
  | none => empty
  | some bytes => ofBytes bytes

def loadReferences (tree : FileTree) (paths : List Path) : List Report :=
  paths.filterMap fun path => (tree.open? path).map ofBytes

/-- The report in a file with its references. An absent report has none. -/
def loadAgainst (tree : FileTree) (path : Path) (references : List Path) :
    Except MetricError Report :=
  match tree.open? path with
  | none => .ok empty
  | some bytes => read bytes (some (loadReferences tree references))

/-- Weighted speedup over one single-threaded run that every core is compared with: the sum over the
cores of their instructions per cycle relative to those of the run alone. -/
def speedupOver (multicore alone : Report) : Except MetricError Float :=
  match alone.firstIpc?.filter (· != 0) with
  | none => .error (.missingIpc .alone)
  | some single =>
    match multicore.ipc? with
    | none => .error (.missingIpc .multicore)
    | some ipc => .ok (Number.sum (ipc.map (· / single)))

end Report

end DramSweep
