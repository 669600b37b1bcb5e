import DramSweep.Proofs.Analysis.Opening
import DramSweep.Simulation.Job

/-!
The jobs of a plan, one by one. They are the workloads in their order, each on the configurations in
theirs, so a job has its position from those of its workload and of its configuration. The reports
that the jobs write are where an analysis looks for them.
-/

namespace DramSweep

/-- In a list of rows of one length, an element is found by its row and its place in the row. -/
theorem getElem?_flatMap_map {α β γ : Type} (f : α → β → γ) {xs : List α} {ys : List β} {i j : Nat}
    {x : α} {y : β} (hx : xs[i]? = some x) (hy : ys[j]? = some y) :
    (xs.flatMap fun x => ys.map (f x))[i * ys.length + j]? = some (f x y) := by
  induction xs generalizing i with
  | nil => cases hx
  | cons first rest ih =>
      have hj : j < ys.length := (List.getElem?_eq_some_iff.mp hy).1
      rw [List.flatMap_cons]
      cases i with
      | zero =>
          cases hx
          have hrow : 0 * ys.length + j < (ys.map (f x)).length := by simpa using hj
          rw [List.getElem?_append_left hrow, Nat.zero_mul, Nat.zero_add, List.getElem?_map, hy]
          rfl
      | succ i =>
          -- The first row is passed over.
          have hbehind : (ys.map (f first)).length ≤ (i + 1) * ys.length + j := by
            rw [List.length_map, Nat.succ_mul]
            omega
          have hplace : (i + 1) * ys.length + j - (ys.map (f first)).length =
              i * ys.length + j := by
            rw [List.length_map, Nat.succ_mul]
            omega
          rw [List.getElem?_append_right hbehind, hplace]
          exact ih hx

/-- The names that a plan gives its workloads, those of single programs first. -/
def SimulationPlan.workloadNames (plan : SimulationPlan) : List String :=
  plan.programs ++ plan.mixes.map ProgramMix.name

namespace Job

variable {plan : SimulationPlan} {job : Job} {i j : Nat} {configuration : String}

theorem map_fst_workloads (plan : SimulationPlan) :
    (workloads plan).map Prod.fst = plan.workloadNames := by
  simp [workloads, SimulationPlan.workloadNames, Function.comp_def]

theorem length_workloads (plan : SimulationPlan) :
    (workloads plan).length = plan.programs.length + plan.mixes.length := by
  simp [workloads]

theorem length_all (plan : SimulationPlan) : (all plan).length =
    (plan.programs.length + plan.mixes.length) * plan.configurations.length := by
  rw [← length_workloads]
  simp [all, List.length_flatMap]

/-- A job stands where its workload and its configuration put it. -/
theorem getElem?_all {workload : String × List String}
    (hworkload : (workloads plan)[i]? = some workload)
    (hconfiguration : plan.configurations[j]? = some configuration) :
    (all plan)[i * plan.configurations.length + j]? =
      some (ofWorkload plan workload.1 workload.2 configuration) :=
  getElem?_flatMap_map (fun workload : String × List String =>
    ofWorkload plan workload.1 workload.2) hworkload hconfiguration

theorem getElem?_workloads_program {program : String} (h : plan.programs[i]? = some program) :
    (workloads plan)[i]? = some (program, [program]) := by
  have hi : i < plan.programs.length := (List.getElem?_eq_some_iff.mp h).1
  rw [workloads, List.getElem?_append_left (by simpa using hi), List.getElem?_map, h]
  rfl

theorem getElem?_workloads_mix {mix : ProgramMix} (h : plan.mixes[i]? = some mix) :
    (workloads plan)[plan.programs.length + i]? = some (mix.name, mix.programs) := by
  rw [workloads, List.getElem?_append_right (by simp), List.getElem?_map, List.length_map,
    Nat.add_sub_cancel_left, h]
  rfl

theorem mem_all_iff : job ∈ all plan ↔ ∃ workload ∈ workloads plan,
    ∃ configuration ∈ plan.configurations,
      ofWorkload plan workload.1 workload.2 configuration = job := by
  simp [all]

/-- A job writes its report where the reports of its workload are looked for. -/
theorem output_of_mem_all (h : job ∈ all plan) :
    job.output = reportPath plan.outputDirectory job.workload job.configuration := by
  obtain ⟨workload, -, configuration, -, rfl⟩ := mem_all_iff.mp h
  rfl

/-- A job is named after a workload and a configuration of the plan. -/
theorem names_of_mem_all (h : job ∈ all plan) :
    job.workload ∈ plan.workloadNames ∧ job.configuration ∈ plan.configurations := by
  obtain ⟨workload, hworkload, configuration, hconfiguration, rfl⟩ := mem_all_iff.mp h
  rw [← map_fst_workloads]
  exact ⟨List.mem_map_of_mem hworkload, hconfiguration⟩

/-- There is a job for every name of a workload and every configuration. -/
theorem exists_job {name : String} (hname : name ∈ plan.workloadNames)
    (hconfiguration : configuration ∈ plan.configurations) :
    ∃ job ∈ all plan, job.output = reportPath plan.outputDirectory name configuration := by
  rw [← map_fst_workloads] at hname
  obtain ⟨workload, hworkload, rfl⟩ := List.mem_map.mp hname
  exact ⟨_, mem_all_iff.mpr ⟨workload, hworkload, configuration, hconfiguration, rfl⟩, rfl⟩

end Job

/-- An analysis of reports that a simulation writes. Programs alone are single-threaded workloads of
the simulation. The reference need not be listed; unless it is, nothing is opened. -/
structure AnalysisPlan.ReadsFrom (analysis : AnalysisPlan) (simulation : SimulationPlan) :
    Prop where
  directory : analysis.reportDirectory = simulation.outputDirectory
  workloads : ∀ name ∈ analysis.workloads, name ∈ simulation.workloadNames
  configurations : ∀ configuration ∈ analysis.configurations,
    configuration ∈ simulation.configurations
  programs : ∀ lists, analysis.programLists = some lists →
    ∀ programs ∈ lists, ∀ program ∈ programs, program ∈ simulation.programs

/-- A path that such an analysis opens is the output of a job. -/
theorem AnalysisPlan.ReadsFrom.exists_job {analysis : AnalysisPlan} {simulation : SimulationPlan}
    (h : analysis.ReadsFrom simulation) {tree : FileTree} {path : Path}
    (hopened : path ∈ (Analysis.query analysis).opened tree) :
    ∃ job ∈ Job.all simulation, job.output = path := by
  rcases Analysis.mem_opened_query hopened with
    ⟨name, hname, configuration, hconfiguration, rfl⟩ |
    ⟨hlisted, lists, hlists, programs, hprograms, program, hprogram, rfl⟩
  · rw [h.directory]
    exact Job.exists_job (h.workloads name hname) (h.configurations configuration hconfiguration)
  · rw [h.directory]
    have hsingle : program ∈ simulation.workloadNames :=
      List.mem_append_left _ (h.programs lists hlists programs hprograms program hprogram)
    exact Job.exists_job hsingle (h.configurations _ hlisted)

/-- The jobs of a simulation are its single programs and then its mixes, each on every
configuration, and each job writes to the place of its workload and configuration. An analysis of
such reports is a computation that opens no path but the output of some job, whatever is there. -/
theorem analysis_opens_job_outputs (simulation : SimulationPlan) :
    (Job.all simulation).length =
      (simulation.programs.length + simulation.mixes.length) * simulation.configurations.length ∧
    (∀ (i j : Nat) (program configuration : String), simulation.programs[i]? = some program →
      simulation.configurations[j]? = some configuration →
        (Job.all simulation)[i * simulation.configurations.length + j]? = some
          { workload := program
            configuration := configuration
            configFile := simulation.configDirectory / (configuration ++ "-config.cfg")
            traces := [simulation.traceDirectory / (program ++ ".trace")]
            output := reportPath simulation.outputDirectory program configuration }) ∧
    (∀ (i j : Nat) (mix : ProgramMix) (configuration : String), simulation.mixes[i]? = some mix →
      simulation.configurations[j]? = some configuration →
        (Job.all simulation)[(simulation.programs.length + i) * simulation.configurations.length +
            j]? = some
          { workload := mix.name
            configuration := configuration
            configFile := simulation.configDirectory / (configuration ++ "-config.cfg")
            traces := mix.programs.map fun program =>
              simulation.traceDirectory / (program ++ ".trace")
            output := reportPath simulation.outputDirectory mix.name configuration }) ∧
    (∀ job ∈ Job.all simulation,
      job.output = reportPath simulation.outputDirectory job.workload job.configuration) ∧
    ∀ (analysis : AnalysisPlan) (tree : FileTree), analysis.ReadsFrom simulation →
      (Analysis.query analysis).run tree = Analysis.gather tree analysis ∧
      ∀ path ∈ (Analysis.query analysis).opened tree,
        ∃ job ∈ Job.all simulation, job.output = path := by
  refine ⟨Job.length_all simulation, ?_, ?_, fun job => Job.output_of_mem_all, ?_⟩
  · intro i j program configuration hprogram hconfiguration
    exact Job.getElem?_all (Job.getElem?_workloads_program hprogram) hconfiguration
  · intro i j mix configuration hmix hconfiguration
    exact Job.getElem?_all (Job.getElem?_workloads_mix hmix) hconfiguration
  · intro analysis tree hreads
    exact ⟨Analysis.run_query tree analysis, fun path => hreads.exists_job⟩

/-- Two programs alone and both together, in two configurations. -/
def pairedSimulation : SimulationPlan where
  simulator := ⟨"./ramulator"⟩
  traceDirectory := ⟨"cputraces"⟩
  configDirectory := ⟨"configs"⟩
  outputDirectory := ⟨"stats"⟩
  configurations := ["DDR4", "DDR5"]
  programs := ["left", "right"]
  mixes := [⟨"mix", ["left", "right"]⟩]

def pairedAnalysis : AnalysisPlan where
  reportDirectory := ⟨"stats"⟩
  workloads := ["mix"]
  configurations := ["DDR5"]
  reference := "DDR5"
  programLists := some [["left", "right"]]
  outputDirectory := ⟨"tables"⟩

/-- The mix has left an empty report, and the programs alone have none yet. -/
def pairedTree : FileTree :=
  { entries := .ofList [(["stats"], Entry.directory), (["stats", "left"], .directory),
      (["stats", "mix"], .directory), (["stats", "mix", "DDR5.stats"], .file [])] }

theorem analysis_opens_job_outputs_paired :
    (Job.all pairedSimulation)[5]? = some
      { workload := "mix"
        configuration := "DDR5"
        configFile := ⟨"configs/DDR5-config.cfg"⟩
        traces := [⟨"cputraces/left.trace"⟩, ⟨"cputraces/right.trace"⟩]
        output := ⟨"stats/mix/DDR5.stats"⟩ } ∧
    (Analysis.query pairedAnalysis).opened pairedTree =
      [⟨"stats/mix/DDR5.stats"⟩, ⟨"stats/left/DDR5.stats"⟩, ⟨"stats/right/DDR5.stats"⟩] ∧
    ∃ job ∈ Job.all pairedSimulation, job.output = ⟨"stats/right/DDR5.stats"⟩ := by
  have hreads : pairedAnalysis.ReadsFrom pairedSimulation :=
    { directory := rfl
      workloads := by decide
      configurations := by decide
      programs := by
        intro lists hlists
        cases hlists
        decide }
  have hopened : (Analysis.query pairedAnalysis).opened pairedTree =
      [⟨"stats/mix/DDR5.stats"⟩, ⟨"stats/left/DDR5.stats"⟩, ⟨"stats/right/DDR5.stats"⟩] := by
    decide +kernel
  obtain ⟨-, -, hmixes, -, hanalysis⟩ := analysis_opens_job_outputs pairedSimulation
  have hmix := hmixes 0 1 ⟨"mix", ["left", "right"]⟩ "DDR5" rfl rfl
  refine ⟨?_, hopened, ?_⟩
  · rw [show 5 = (pairedSimulation.programs.length + 0) * pairedSimulation.configurations.length + 1
      from rfl, hmix]
    decide +kernel
  · exact (hanalysis pairedAnalysis pairedTree hreads).2 _ (by simp [hopened])

end DramSweep
