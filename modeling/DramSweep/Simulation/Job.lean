import DramSweep.Json.Value
import DramSweep.Plan.Basic

/-!
The simulator runs that a plan asks for: every workload on every memory configuration. A
workload is a single program or several, with one trace for each.
-/

namespace DramSweep

/-- One run of the simulator. It writes its report to `output`. -/
structure Job where
  workload : String
  configuration : String
  configFile : Path
  traces : List Path
  output : Path
  deriving Repr, DecidableEq

namespace Job

def tracePath (plan : SimulationPlan) (program : String) : Path :=
  plan.traceDirectory / (program ++ ".trace")

/-- The workloads with their programs: the single-threaded ones, then those of several
programs. -/
def workloads (plan : SimulationPlan) : List (String × List String) :=
  plan.programs.map (fun program => (program, [program])) ++
    plan.mixes.map fun mix => (mix.name, mix.programs)

def ofWorkload (plan : SimulationPlan) (workload : String) (programs : List String)
    (configuration : String) : Job where
  workload := workload
  configuration := configuration
  configFile := plan.configDirectory / (configuration ++ "-config.cfg")
  traces := programs.map (tracePath plan)
  output := plan.outputDirectory / workload / (configuration ++ ".stats")

def all (plan : SimulationPlan) : List Job :=
  (workloads plan).flatMap fun (workload, programs) =>
    plan.configurations.map (ofWorkload plan workload programs)

/-- What the simulator is told: its configuration, the mode, where to put the report, and the
traces. -/
def arguments (plan : SimulationPlan) (job : Job) : List String :=
  [job.configFile.text, "--mode=" ++ plan.mode, "--stats", job.output.text] ++
    job.traces.map Path.text

def command (plan : SimulationPlan) (job : Job) : List String :=
  plan.simulator.text :: job.arguments plan

def toJson (job : Job) : Json :=
  .object [("workload", .text job.workload), ("dram", .text job.configuration),
    ("config", .text job.configFile.text),
    ("traces", .array (job.traces.map fun trace => .text trace.text)),
    ("output", .text job.output.text)]

end Job

end DramSweep
