import DramSweep.Analysis
import DramSweep.CommandLine
import DramSweep.Plan.Load
import DramSweep.Report.Dump
import DramSweep.Simulation.Run

/-!
A run of the program: what the command line asks for, done to the files. A run yields the files
after it, what it printed, and either success or the cause of its failure; what was written before
a failure stays.
-/

namespace DramSweep

/-- Why a run failed. -/
inductive Failure where
  | stat (error : MetricError)
  | analysis (error : AnalysisError)
  | config (error : ConfigError)
  | noSection (name : String)
  | unsavedLists (error : RunListError)
  | failedRuns (failed total : Nat)
  | speedupFiles
  | dumpFiles

namespace Failure

def message : Failure → String
  | .stat error => error.message
  | .analysis error => error.message
  | .config _ => "fail to create Setting object"
  | .noSection name => "no [" ++ name ++ "] section in the config files"
  | .unsavedLists _ => "fail to save result lists"
  | .failedRuns failed total =>
    Nat.repr failed ++ " of " ++ Nat.repr total ++ " simulations failed"
  | .speedupFiles => "speedup mode takes a single-threaded and a multicore stats file"
  | .dumpFiles => "dump mode takes a stats file"

def statError? : Failure → Option MetricError
  | .stat error | .analysis (.stat error) => some error
  | _ => none

end Failure

namespace Plans

def analysisSection (plans : Plans) : Except Failure AnalysisPlan :=
  match plans.analysis with
  | some plan => .ok plan
  | none => .error (.noSection "analysis")

def simulationSection (plans : Plans) : Except Failure SimulationPlan :=
  match plans.simulation with
  | some plan => .ok plan
  | none => .error (.noSection "simulation")

end Plans

/-- What a run yields. -/
structure Completion where
  tree : FileTree
  printed : String := ""
  result : Except Failure Unit := .ok ()

namespace Program

def defaultConfig : Path := ⟨"configs/default.toml"⟩

def configFiles (files : List String) : List Path :=
  if files = [] then [defaultConfig] else files.map Path.mk

def plans (files : List String) (tree : FileTree) : Except Failure Plans :=
  (Plans.load tree (configFiles files)).mapError .config

/-- A run that changed nothing and failed. -/
def failed (tree : FileTree) (failure : Failure) : Completion :=
  { tree, result := .error failure }

/-- Aggregates the reports of all workloads into tables. -/
def analyze (files : List String) (tree : FileTree) : Completion :=
  match (plans files tree).bind Plans.analysisSection with
  | .error failure => failed tree failure
  | .ok plan =>
    match Analysis.run plan tree with
    | (tree, .error e) => failed tree (.analysis e)
    | (tree, .ok _) => { tree }

def simulate (launch : Launcher) (files : List String) (tree : FileTree) : Completion :=
  match (plans files tree).bind Plans.simulationSection with
  | .error failure => failed tree failure
  | .ok plan =>
    match Simulation.run launch plan tree with
    | (tree, .error e) => failed tree (.unsavedLists e)
    | (tree, .ok lists) =>
      if lists.failed = [] then { tree }
      else failed tree
        (.failedRuns lists.failed.length (lists.finished.length + lists.failed.length))

/-- Prints the weighted speedup of a multicore run against a single-threaded one. -/
def speedup (files : List String) (tree : FileTree) : Completion :=
  match files with
  | [single, multicore] =>
    match (Report.load tree ⟨multicore⟩).speedupOver (Report.load tree ⟨single⟩) with
    | .error e => failed tree (.stat e)
    | .ok value => { tree, printed := Number.Layout.plain.render value ++ "\n" }
  | _ => failed tree .speedupFiles

/-- The report that a dump is of: a file and its references, if there are any. -/
def reportToDump (tree : FileTree) (file : String) (references : List String) :
    Except MetricError Report :=
  if references = [] then .ok (Report.load tree ⟨file⟩)
  else Report.loadAgainst tree ⟨file⟩ (references.map Path.mk)

def dump (files : List String) (tree : FileTree) : Completion :=
  match files with
  | [] => failed tree .dumpFiles
  | file :: references =>
    match reportToDump tree file references with
    | .error e => failed tree (.stat e)
    | .ok report => { tree, printed := report.dump ++ "\n" }

/-- Does what the arguments ask for. Completions for a shell are not part of a run. -/
def run (launch : Launcher) (arguments : Arguments) (tree : FileTree) : Completion :=
  if arguments.generate.isSome then { tree }
  else match arguments.activity.getD .analyze with
  | .analyze => analyze arguments.files tree
  | .simulate => simulate launch arguments.files tree
  | .speedup => speedup arguments.files tree
  | .dump => dump arguments.files tree

end Program

end DramSweep
