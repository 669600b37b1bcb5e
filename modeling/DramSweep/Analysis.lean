import DramSweep.TableGroup
import DramSweep.SheetFolder
import DramSweep.Plan.Basic
import DramSweep.Workload.Load
import DramSweep.Workload.Order
import DramSweep.Workload.Table

/-!
The aggregation of many workloads into tables: load and normalize every workload, order them by
memory load, and write each group of metrics into a wide and a tidy file. A table that cannot be
given is counted and left out; a file that cannot be made ends the run, and what was written until
then stays.
-/

namespace DramSweep

/-- Why an analysis ends early. -/
inductive AnalysisError where
  | stat (error : MetricError)
  | output (error : SheetError)
  | programLists (lists workloads : Nat)
  deriving Repr, DecidableEq

def AnalysisError.message : AnalysisError → String
  | .stat error => error.message
  | .output error => error.message
  | .programLists lists workloads =>
    "got " ++ Nat.repr lists ++ " single-threaded workload lists for " ++ Nat.repr workloads ++
      " workloads"

namespace Analysis

def isMix (plan : AnalysisPlan) : Bool :=
  plan.programLists.isSome

/-- The programs of each workload, in the order of the workloads. -/
def programLists (plan : AnalysisPlan) :
    Except AnalysisError (List (Option (List String))) :=
  match plan.programLists with
  | none => .ok (List.replicate plan.workloads.length none)
  | some lists =>
    if lists.length = plan.workloads.length then .ok (lists.map some)
    else .error (.programLists lists.length plan.workloads.length)

def source (plan : AnalysisPlan) (name : String) (programs : Option (List String)) :
    WorkloadSource where
  directory := plan.reportDirectory
  name := name
  configurations := plan.configurations
  reference := plan.reference
  programs := programs

/-- A workload with a metric normalized. Where that cannot be done it stays as it is. -/
def normalizeOrKeep (metric : String) (workload : Workload) : Except MetricError Workload :=
  match workload.normalize metric with
  | .ok workload => .ok workload
  | .error e => if e.isFatal then .error e else .ok workload

def gatherOne (tree : FileTree) (plan : AnalysisPlan) (name : String)
    (programs : Option (List String)) : Except MetricError Workload := do
  let workload ← (source plan name programs).load tree
  normalizeOrKeep (TableGroup.performance (isMix plan)) workload

/-- Loads, normalizes and orders all workloads. -/
def gather (tree : FileTree) (plan : AnalysisPlan) :
    Except AnalysisError (List Workload) := do
  let lists ← programLists plan
  let workloads ← ((plan.workloads.zip lists).mapM fun (name, programs) =>
    gatherOne tree plan name programs).mapError .stat
  return Workload.heaviestFirst workloads

def tidyFolder (directory : Path) : Path :=
  ⟨directory.text ++ "_R_dataframe"⟩

/-- The two sets of files, the tree that they are in, and how many tables were left out. -/
structure Outputs where
  wide : SheetFolder
  tidy : SheetFolder
  tree : FileTree
  failed : Nat := 0

/-- Adds a table to the file of a group, which is opened first: the set, the tree and the number
of tables left out. -/
def addTable (outputs : SheetFolder) (tree : FileTree) (group : String)
    (table : Except MetricError String) : Except AnalysisError (SheetFolder × FileTree × Nat) :=
  match outputs.openGroup group tree with
  | .error e => .error (.output e)
  | .ok (outputs, tree) =>
    match table with
    | .ok text =>
      let (outputs, tree) := outputs.push group text tree
      .ok (outputs, tree, 0)
    | .error e => if e.isFatal then .error (.stat e) else .ok (outputs, tree, 1)

def writeGroup (outputs : Outputs) (workload : Workload) (group : TableGroup) :
    Outputs × Option AnalysisError :=
  match addTable outputs.wide outputs.tree group.name (workload.wide group.metrics) with
  | .error e => (outputs, some e)
  | .ok (wide, tree, missed) =>
    let outputs := { outputs with wide, tree, failed := outputs.failed + missed }
    match addTable outputs.tidy outputs.tree group.name (workload.tidy group.metrics) with
    | .error e => (outputs, some e)
    | .ok (tidy, tree, missed) =>
      ({ outputs with tidy, tree, failed := outputs.failed + missed }, none)

/-- Writes the tables of several workloads and groups, up to the first file that cannot be
made. -/
def writeGroups (outputs : Outputs) :
    List (Workload × TableGroup) → Outputs × Option AnalysisError
  | [] => (outputs, none)
  | (workload, group) :: rest =>
    match writeGroup outputs workload group with
    | (outputs, none) => writeGroups outputs rest
    | (outputs, some e) => (outputs, some e)

/-- Writes what is pending in both sets. -/
def Outputs.flush (outputs : Outputs) : Outputs :=
  let (wide, tree) := outputs.wide.flush outputs.tree
  let (tidy, tree) := outputs.tidy.flush tree
  { outputs with wide, tidy, tree }

/-- Writes every workload into the wide and the tidy files: the tree, and the number of tables
that were left out. -/
def publish (workloads : List Workload) (mix : Bool) (wide tidy : SheetFolder)
    (tree : FileTree) : FileTree × Except AnalysisError Nat :=
  let groups := TableGroup.all mix
  match tidy.writeEach TableGroup.tidyHeader tree (groups.map TableGroup.name) with
  | ((tidy, tree), some e) =>
    (Outputs.flush { wide, tidy, tree } |>.tree, .error (.output e))
  | ((tidy, tree), none) =>
    let pairs := workloads.flatMap fun workload => groups.map fun group => (workload, group)
    match writeGroups { wide, tidy, tree } pairs with
    | (outputs, some e) => (outputs.flush.tree, .error e)
    | (outputs, none) => (outputs.flush.tree, .ok outputs.failed)

/-- What an analysis yields: the workloads in their order, and the number of tables left out. -/
structure Summary where
  workloads : List Workload
  failed : Nat

def run (plan : AnalysisPlan) (tree : FileTree) :
    FileTree × Except AnalysisError Summary :=
  match gather tree plan with
  | .error e => (tree, .error e)
  | .ok workloads =>
    match SheetFolder.create plan.outputDirectory tree with
    | (tree, .error e) => (tree, .error (.output e))
    | (tree, .ok wide) =>
      match SheetFolder.create (tidyFolder plan.outputDirectory) tree with
      | (tree, .error e) => (tree, .error (.output e))
      | (tree, .ok tidy) =>
        match publish workloads (isMix plan) wide tidy tree with
        | (tree, .error e) => (tree, .error e)
        | (tree, .ok failed) => (tree, .ok { workloads, failed })

end Analysis

end DramSweep
