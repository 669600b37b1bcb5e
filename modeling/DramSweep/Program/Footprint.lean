import DramSweep.Program

/-!
The paths that a run looks at, as far as the files that are known tell: first the configuration,
then what it names. Whoever brings the files into the tree asks again until nothing new is named.
-/

namespace DramSweep.Program

def documentPaths (path : Path) : List Path :=
  path :: (Plans.appendToName path ("." ++ documentExtension)).toList

/-- The reports that an analysis reads: those of the workloads, and those of the programs of each
workload in the reference configuration. -/
def reportPaths (plan : AnalysisPlan) : List Path :=
  plan.workloads.flatMap (fun workload =>
      plan.configurations.map (reportPath plan.reportDirectory workload)) ++
    (plan.programLists.getD []).flatten.map fun program =>
      reportPath plan.reportDirectory program plan.reference

def tablePaths (plan : AnalysisPlan) : List Path :=
  [plan.outputDirectory, Analysis.tidyFolder plan.outputDirectory].flatMap fun directory =>
    (TableGroup.all (Analysis.isMix plan)).map fun group =>
      SheetFolder.fileOf { directory } group.name

def simulationPaths (plan : SimulationPlan) : List Path :=
  (Job.all plan).flatMap (fun job => job.configFile :: job.output :: job.traces) ++
    [RunLists.finishedPath plan.resultFile, RunLists.failedPath plan.resultFile]

def footprint (arguments : Arguments) (tree : FileTree) : List Path :=
  let named := arguments.files.map Path.mk
  let documents := (configFiles arguments.files).flatMap documentPaths
  let known := (plans arguments.files tree).toOption
  match arguments.activity.getD .analyze with
  | .speedup | .dump => named
  | .analyze => documents ++ ((known.bind Plans.analysis).map fun plan =>
      reportPaths plan ++ tablePaths plan).getD []
  | .simulate => documents ++ ((known.bind Plans.simulation).map simulationPaths).getD []

end DramSweep.Program
