import DramSweep.Proofs.FileTree.Grounded
import DramSweep.Proofs.Simulation.Enumeration

/-!
When jobs write to different places. The report of a job stands below the directory of its workload
under the name of its configuration. Nothing else is done to keep the reports apart, so names that
are used twice lead to one report, and so may names with separators in them.
-/

namespace DramSweep

/-- A text that is one component of a path and names something there. -/
def IsPlainName (name : String) : Prop :=
  '/' ∉ name.toList ∧ Path.IsName name.toList

instance (name : String) : Decidable (IsPlainName name) :=
  inferInstanceAs (Decidable (_ ∧ _))

section ReportPath

variable {directory : Path} {configuration other : String}

theorem isPlainName_report (h : '/' ∉ configuration.toList) :
    IsPlainName (configuration ++ ".stats") := by
  refine ⟨by simp [h], .of_length ?_⟩
  rw [String.toList_append, List.length_append]
  exact Nat.lt_of_lt_of_le (by decide) (Nat.le_add_left _ _)

/-- Below the directory of a workload a report is one component. -/
theorem components_reportPath (workload : String) (h : '/' ∉ configuration.toList) :
    (reportPath directory workload configuration).components =
      (directory / workload).components ++ [.name (configuration ++ ".stats").toList] :=
  Path.components_div _ (isPlainName_report h).1 (isPlainName_report h).2

/-- Reports have one path when they are of one configuration in one directory. -/
theorem components_reportPath_inj (h : '/' ∉ configuration.toList) (hother : '/' ∉ other.toList)
    (workload neighbour : String) :
    (reportPath directory workload configuration).components =
        (reportPath directory neighbour other).components ↔
      configuration = other ∧
        (directory / workload).components = (directory / neighbour).components := by
  rw [components_reportPath workload h, components_reportPath neighbour hother]
  constructor
  · intro hsame
    obtain ⟨hdirectory, hfile⟩ := List.append_inj' hsame rfl
    have hname : configuration.toList = other.toList := by simpa using hfile
    exact ⟨String.toList_inj.mp hname, hdirectory⟩
  · rintro ⟨rfl, hdirectory⟩
    rw [hdirectory]

/-- Directories of plain names are one when the names are. -/
theorem components_div_inj {name neighbour : String} (hname : IsPlainName name)
    (hneighbour : IsPlainName neighbour) :
    (directory / name).components = (directory / neighbour).components ↔ name = neighbour := by
  rw [Path.components_div _ hname.1 hname.2, Path.components_div _ hneighbour.1 hneighbour.2]
  simp [String.toList_inj]

/-- The place of a report is two names below the place of the reports. -/
theorem exists_folder_of_report {tree : FileTree} {name : String} {location : Location}
    (hname : IsPlainName name) (h : '/' ∉ configuration.toList)
    (hwalk : tree.walk (reportPath directory name configuration) = .ok location) :
    ∃ folder, tree.descend directory = .ok folder ∧
      location = folder ++ [name, configuration ++ ".stats"] := by
  have hreport := isPlainName_report h
  obtain ⟨folder, hfolder, hfile⟩ :=
    FileTree.exists_folder_of_descend hreport.1 (FileTree.descend_of_walk hwalk)
  obtain ⟨above, habove, hbelow⟩ := FileTree.exists_folder_of_descend hname.1 hfolder
  refine ⟨above, habove, ?_⟩
  rw [FileTree.eq_of_step hreport.2 hfile, FileTree.eq_of_step hname.2 hbelow]
  simp

/-- Reports of different workloads or configurations do not stand in one place. -/
theorem eq_of_report_place {tree : FileTree} {name neighbour : String} {location : Location}
    (hname : IsPlainName name) (hneighbour : IsPlainName neighbour)
    (h : '/' ∉ configuration.toList) (hother : '/' ∉ other.toList)
    (hwalk : tree.walk (reportPath directory name configuration) = .ok location)
    (hsame : tree.walk (reportPath directory neighbour other) = .ok location) :
    name = neighbour ∧ configuration = other := by
  obtain ⟨folder, hfolder, rfl⟩ := exists_folder_of_report hname h hwalk
  obtain ⟨_, hfolder', hplace⟩ := exists_folder_of_report hneighbour hother hsame
  cases hfolder.symm.trans hfolder'
  simpa using hplace

end ReportPath

namespace Job

variable {plan : SimulationPlan} {job : Job} {position : Nat}

/-- A job comes from a workload and a configuration at positions that give its own. -/
theorem exists_positions (h : (all plan)[position]? = some job) : ∃ i j,
    position = i * plan.configurations.length + j ∧
      plan.workloadNames[i]? = some job.workload ∧
      plan.configurations[j]? = some job.configuration := by
  -- Divided by the number of configurations, a position gives its row and the place in the row.
  have hposition : position < (workloads plan).length * plan.configurations.length := by
    rw [length_workloads, ← length_all]
    exact (List.getElem?_eq_some_iff.mp h).1
  have hrow : position / plan.configurations.length < (workloads plan).length :=
    Nat.div_lt_of_lt_mul (Nat.mul_comm _ _ ▸ hposition)
  have hcolumn : position % plan.configurations.length < plan.configurations.length :=
    Nat.mod_lt _ (Nat.pos_of_mul_pos_left (Nat.zero_lt_of_lt hposition))
  have hworkload := List.getElem?_eq_getElem hrow
  have hconfiguration := List.getElem?_eq_getElem hcolumn
  have hjob := getElem?_all hworkload hconfiguration
  rw [Nat.div_add_mod', h] at hjob
  cases hjob
  refine ⟨_, _, (Nat.div_add_mod' _ _).symm, ?_, hconfiguration⟩
  rw [← map_fst_workloads, List.getElem?_map, hworkload]
  rfl

theorem exists_at_positions {i j : Nat} {name configuration : String}
    (hname : plan.workloadNames[i]? = some name)
    (hconfiguration : plan.configurations[j]? = some configuration) :
    ∃ job, (all plan)[i * plan.configurations.length + j]? = some job ∧
      job.output = reportPath plan.outputDirectory name configuration := by
  rw [← map_fst_workloads, List.getElem?_map] at hname
  obtain ⟨workload, hworkload, rfl⟩ := Option.map_eq_some_iff.mp hname
  exact ⟨_, getElem?_all hworkload hconfiguration, rfl⟩

end Job

namespace SimulationPlan

variable {plan : SimulationPlan}

/-- Jobs at different positions have different output paths. -/
def OutputsApart (plan : SimulationPlan) : Prop :=
  ∀ (i j : Nat) (job other : Job), i ≠ j → (Job.all plan)[i]? = some job →
    (Job.all plan)[j]? = some other → job.output.components ≠ other.output.components

/-- The directories of the workloads, in the order of the workloads. -/
def workloadDirectories (plan : SimulationPlan) : List (List Path.Component) :=
  plan.workloadNames.map fun name => (plan.outputDirectory / name).components

/-- Two jobs have one output path when they have one configuration and one directory. -/
theorem output_eq_iff
    (hplain : ∀ configuration ∈ plan.configurations, '/' ∉ configuration.toList) {job other : Job}
    (h : job ∈ Job.all plan) (hother : other ∈ Job.all plan) :
    job.output.components = other.output.components ↔
      job.configuration = other.configuration ∧
        (plan.outputDirectory / job.workload).components =
          (plan.outputDirectory / other.workload).components := by
  rw [Job.output_of_mem_all h, Job.output_of_mem_all hother]
  exact components_reportPath_inj (hplain _ (Job.names_of_mem_all h).2)
    (hplain _ (Job.names_of_mem_all hother).2) _ _

/-- Where outputs are apart, no workload has the directory of another one. -/
theorem OutputsApart.nodup_directories (h : plan.OutputsApart) {j : Nat} {configuration : String}
    (hplain : '/' ∉ configuration.toList)
    (hconfiguration : plan.configurations[j]? = some configuration) :
    plan.workloadDirectories.Nodup := by
  rw [List.nodup_iff_getElem?_ne_getElem?]
  intro first second hlt hsecond hsame
  have hcount : 0 < plan.configurations.length :=
    Nat.zero_lt_of_lt (List.getElem?_eq_some_iff.mp hconfiguration).1
  simp only [workloadDirectories, List.getElem?_map, List.length_map] at hsecond hsame
  rw [List.getElem?_eq_getElem (hlt.trans hsecond), List.getElem?_eq_getElem hsecond] at hsame
  obtain ⟨job, hjob, houtput⟩ := Job.exists_at_positions
    (List.getElem?_eq_getElem (hlt.trans hsecond)) hconfiguration
  obtain ⟨other, hother, houtput'⟩ := Job.exists_at_positions
    (List.getElem?_eq_getElem hsecond) hconfiguration
  -- On one configuration the two workloads would have one output.
  have hpositions : first * plan.configurations.length + j ≠
      second * plan.configurations.length + j := by
    have hrows := Nat.mul_lt_mul_of_pos_right hlt hcount
    omega
  refine h _ _ job other hpositions hjob hother ?_
  rw [houtput, houtput', components_reportPath _ hplain, components_reportPath _ hplain]
  exact congrArg (· ++ _) (Option.some.inj hsame)

/-- Where outputs are apart, no configuration is listed twice. -/
theorem OutputsApart.nodup_configurations (h : plan.OutputsApart) {i : Nat} {name : String}
    (hname : plan.workloadNames[i]? = some name) : plan.configurations.Nodup := by
  rw [List.nodup_iff_getElem?_ne_getElem?]
  intro first second hlt hsecond hsame
  have hconfiguration := List.getElem?_eq_getElem hsecond
  obtain ⟨job, hjob, houtput⟩ := Job.exists_at_positions hname (hsame.trans hconfiguration)
  obtain ⟨other, hother, houtput'⟩ := Job.exists_at_positions hname hconfiguration
  refine h _ _ job other ?_ hjob hother (by rw [houtput, houtput'])
  omega

/-- Nothing else keeps outputs apart than that no directory and no configuration comes twice. -/
theorem outputsApart_iff
    (hplain : ∀ configuration ∈ plan.configurations, '/' ∉ configuration.toList) :
    plan.OutputsApart ↔ Job.all plan = [] ∨
      plan.workloadDirectories.Nodup ∧ plan.configurations.Nodup := by
  constructor
  · intro hapart
    cases hall : Job.all plan with
    | nil => exact Or.inl rfl
    | cons job rest =>
        have hfirst : (Job.all plan)[0]? = some job := by rw [hall]; rfl
        obtain ⟨i, j, -, hname, hconfiguration⟩ := Job.exists_positions hfirst
        have hseparator := hplain _ (List.mem_of_getElem? hconfiguration)
        exact Or.inr ⟨hapart.nodup_directories hseparator hconfiguration,
          hapart.nodup_configurations hname⟩
  · rintro (hnone | ⟨hdirectories, hconfigurations⟩) position place job other hne hjob hother hsame
    · simp [hnone] at hjob
    · obtain ⟨i, j, rfl, hname, hconfiguration⟩ := Job.exists_positions hjob
      obtain ⟨i', j', rfl, hname', hconfiguration'⟩ := Job.exists_positions hother
      obtain ⟨hcolumn, hrow⟩ := (output_eq_iff hplain (List.mem_of_getElem? hjob)
        (List.mem_of_getElem? hother)).mp hsame
      have hj : j = j' :=
        (List.getElem?_inj (List.getElem?_eq_some_iff.mp hconfiguration).1 hconfigurations).mp
          (by rw [hconfiguration, hconfiguration', hcolumn])
      have hdirectory : plan.workloadDirectories[i]? = plan.workloadDirectories[i']? := by
        simp [workloadDirectories, hname, hname', hrow]
      have hlength : i < plan.workloadDirectories.length := by
        simpa [workloadDirectories] using (List.getElem?_eq_some_iff.mp hname).1
      have hi : i = i' := (List.getElem?_inj hlength hdirectories).mp hdirectory
      exact hne (by rw [hi, hj])

/-- Plain names are those of different directories unless a name comes twice. -/
theorem nodup_workloadDirectories_iff (hplain : ∀ name ∈ plan.workloadNames, IsPlainName name) :
    plan.workloadDirectories.Nodup ↔ plan.workloadNames.Nodup := by
  constructor
  · exact List.Nodup.of_map _
  · intro hnodup
    refine (List.nodup_map_iff_inj_on hnodup).mpr fun name hname other hother hsame => ?_
    exact (components_div_inj (hplain name hname) (hplain other hother)).mp hsame

/-- Outputs with plain names lead to different places unless they are one path. -/
theorem output_places_ne
    (hplain : ∀ configuration ∈ plan.configurations, '/' ∉ configuration.toList)
    (hnames : ∀ name ∈ plan.workloadNames, IsPlainName name) {job other : Job}
    (h : job ∈ Job.all plan) (hother : other ∈ Job.all plan)
    (hne : job.output.components ≠ other.output.components) {tree : FileTree}
    {place neighbour : Location} (hplace : tree.walk job.output = .ok place)
    (hneighbour : tree.walk other.output = .ok neighbour) : place ≠ neighbour := by
  obtain ⟨hname, hconfiguration⟩ := Job.names_of_mem_all h
  obtain ⟨hname', hconfiguration'⟩ := Job.names_of_mem_all hother
  rw [Job.output_of_mem_all h] at hne hplace
  rw [Job.output_of_mem_all hother] at hne hneighbour
  rintro rfl
  obtain ⟨hsame, hsame'⟩ := eq_of_report_place (hnames _ hname) (hnames _ hname')
    (hplain _ hconfiguration) (hplain _ hconfiguration') hplace hneighbour
  exact hne (by rw [hsame, hsame'])

/-- Two workloads of one name: a program alone, and a mix. -/
def sharedName : SimulationPlan where
  simulator := ⟨"./ramulator"⟩
  traceDirectory := ⟨"cputraces"⟩
  configDirectory := ⟨"configs"⟩
  outputDirectory := ⟨"stats"⟩
  configurations := ["DDR4"]
  programs := ["mix"]
  mixes := [⟨"mix", ["left", "right"]⟩]

/-- Two workloads and two configurations of different names, with separators in them. -/
def separatedNames : SimulationPlan where
  simulator := ⟨"./ramulator"⟩
  traceDirectory := ⟨"cputraces"⟩
  configDirectory := ⟨"configs"⟩
  outputDirectory := ⟨"stats"⟩
  configurations := ["DDR4", "old/DDR4"]
  programs := ["mcf/old", "mcf"]

/-- Two jobs may have one output path, with workloads of one name and also where all names
differ. -/
theorem outputs_collide :
    (∃ job other, (Job.all sharedName)[0]? = some job ∧ (Job.all sharedName)[1]? = some other ∧
      job.traces ≠ other.traces ∧ job.output = other.output) ∧
    ∃ job other, (Job.all separatedNames)[0]? = some job ∧
      (Job.all separatedNames)[3]? = some other ∧ job.workload ≠ other.workload ∧
      job.configuration ≠ other.configuration ∧ job.output = other.output :=
  ⟨⟨_, _, rfl, rfl, by decide, by decide⟩, ⟨_, _, rfl, rfl, by decide, by decide, by decide⟩⟩

/-- Where the names of configurations have no separator, two jobs have one output path exactly when
they have one configuration and the directories of their workloads are one, so all outputs are apart
exactly when no configuration and no such directory comes twice. Of workloads with plain names that
is to say that no name comes twice, be it of a program alone or of a mix, and what is apart then
stands in different places of every tree. -/
theorem outputs_apart_iff_nodup (plan : SimulationPlan)
    (hplain : ∀ configuration ∈ plan.configurations, '/' ∉ configuration.toList) :
    (∀ job ∈ Job.all plan, ∀ other ∈ Job.all plan,
      job.output.components = other.output.components ↔
        job.configuration = other.configuration ∧
          (plan.outputDirectory / job.workload).components =
            (plan.outputDirectory / other.workload).components) ∧
    (plan.OutputsApart ↔ Job.all plan = [] ∨
      (plan.workloadNames.map fun name => (plan.outputDirectory / name).components).Nodup ∧
        plan.configurations.Nodup) ∧
    ((∀ name ∈ plan.workloadNames, IsPlainName name) →
      (plan.OutputsApart ↔ Job.all plan = [] ∨
        (plan.programs ++ plan.mixes.map ProgramMix.name).Nodup ∧ plan.configurations.Nodup) ∧
      (plan.OutputsApart → ∀ (i j : Nat) (job other : Job), i ≠ j →
        (Job.all plan)[i]? = some job → (Job.all plan)[j]? = some other →
          ∀ (tree : FileTree) (place neighbour : Location), tree.walk job.output = .ok place →
            tree.walk other.output = .ok neighbour → place ≠ neighbour)) := by
  refine ⟨fun job hjob other hother => output_eq_iff hplain hjob hother, outputsApart_iff hplain,
    fun hnames => ⟨?_, ?_⟩⟩
  · rw [outputsApart_iff hplain, nodup_workloadDirectories_iff hnames]
    rfl
  · intro hapart i j job other hne hjob hother tree place neighbour hplace hneighbour
    exact output_places_ne hplain hnames (List.mem_of_getElem? hjob) (List.mem_of_getElem? hother)
      (hapart i j job other hne hjob hother) hplace hneighbour

theorem outputs_apart_iff_nodup_paired :
    (∀ configuration ∈ pairedSimulation.configurations, '/' ∉ configuration.toList) ∧
    (∀ name ∈ pairedSimulation.workloadNames, IsPlainName name) ∧
    pairedSimulation.OutputsApart ∧
    ∃ job other place neighbour, (Job.all pairedSimulation)[1]? = some job ∧
      (Job.all pairedSimulation)[5]? = some other ∧ job.configuration = other.configuration ∧
      pairedTree.walk job.output = .ok place ∧ pairedTree.walk other.output = .ok neighbour ∧
      place ≠ neighbour := by
  have hplain : ∀ configuration ∈ pairedSimulation.configurations,
      '/' ∉ configuration.toList := by
    decide
  have hnames : ∀ name ∈ pairedSimulation.workloadNames, IsPlainName name := by decide
  obtain ⟨-, -, hapart⟩ := outputs_apart_iff_nodup pairedSimulation hplain
  obtain ⟨hnodup, hplaces⟩ := hapart hnames
  have houtputs : pairedSimulation.OutputsApart := hnodup.mpr (Or.inr (by decide))
  have hplace : pairedTree.walk ⟨"stats/left/DDR5.stats"⟩ =
      .ok ["stats", "left", "DDR5.stats"] :=
    Traverse.toOption_eq_some_iff.mp (by decide +kernel)
  have hneighbour : pairedTree.walk ⟨"stats/mix/DDR5.stats"⟩ =
      .ok ["stats", "mix", "DDR5.stats"] :=
    Traverse.toOption_eq_some_iff.mp (by decide +kernel)
  exact ⟨hplain, hnames, houtputs, _, _, _, _, rfl, rfl, rfl, hplace, hneighbour,
    hplaces houtputs 1 5 _ _ (by decide) rfl rfl pairedTree _ _ hplace hneighbour⟩

end SimulationPlan

end DramSweep
