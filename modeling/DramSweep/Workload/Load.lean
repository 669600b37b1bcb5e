import DramSweep.Text.Quoted
import DramSweep.Workload.Basic

/-!
A workload read from files. The report of a configuration stands below the workload's directory
under the name of the configuration; the references of its programs are their reports in the
reference configuration.
-/

namespace DramSweep

open Std (ExtTreeMap)

def reportPath (directory : Path) (workload configuration : String) : Path :=
  directory / workload / (configuration ++ ".stats")

structure WorkloadSource where
  directory : Path
  name : String
  configurations : List String
  reference : String
  programs : Option (List String)
  deriving Repr, DecidableEq

namespace WorkloadSource

def referencePaths? (source : WorkloadSource) : Option (List Path) :=
  source.programs.map fun programs =>
    programs.map fun program => reportPath source.directory program source.reference

def loadReport (tree : FileTree) (source : WorkloadSource) (configuration : String) :
    Except MetricError Report :=
  let path := reportPath source.directory source.name configuration
  match source.referencePaths? with
  | some references => Report.loadAgainst tree path references
  | none => .ok (Report.load tree path)

/-- Loads the report of every listed configuration. Files may be missing, but the reference must
be listed. -/
def load (tree : FileTree) (source : WorkloadSource) : Except MetricError Workload := do
  if !source.configurations.contains source.reference then
    throw (.referenceNotListed source.reference (Text.quoteList source.configurations))
  let reports ← source.configurations.mapM fun configuration =>
    return (configuration, ← source.loadReport tree configuration)
  return Workload.ofReports source.name source.configurations source.reference source.programs
    (.ofList reports)

end WorkloadSource

end DramSweep
