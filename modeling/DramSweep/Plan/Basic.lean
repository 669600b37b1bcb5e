import DramSweep.Path

/-!
What a run is told by its configuration: which reports to aggregate, and how to launch the memory
simulator.
-/

namespace DramSweep

/-- Which reports to aggregate and where to write the tables. -/
structure AnalysisPlan where
  reportDirectory : Path
  workloads : List String
  configurations : List String
  /-- The configuration that every other one is normalized to; it also orders the workloads. -/
  reference : String
  /-- For workloads of several programs, the single-threaded workloads of each workload. -/
  programLists : Option (List (List String)) := none
  outputDirectory : Path
  deriving Repr, DecidableEq

/-- A workload of several programs. -/
structure ProgramMix where
  name : String
  programs : List String
  deriving Repr, DecidableEq

def SimulationPlan.defaultMode : String := "cpu"

/-- Where the lists of runs go unless told otherwise. -/
def SimulationPlan.defaultResultFile : Path := ⟨"results/simulation"⟩

/-- How to launch the memory simulator. -/
structure SimulationPlan where
  simulator : Path
  traceDirectory : Path
  /-- The directory of the simulator's own configurations. -/
  configDirectory : Path
  outputDirectory : Path
  configurations : List String
  mode : String := SimulationPlan.defaultMode
  /-- The greatest number of simulators that run at the same time. -/
  parallel : Nat := 1
  programs : List String := []
  mixes : List ProgramMix := []
  /-- Where the lists of finished and failed runs are saved. -/
  resultFile : Path := SimulationPlan.defaultResultFile
  deriving Repr, DecidableEq

/-- The sections of a configuration. -/
structure Plans where
  analysis : Option AnalysisPlan := none
  simulation : Option SimulationPlan := none
  deriving Repr, DecidableEq

end DramSweep
