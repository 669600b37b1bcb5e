import DramSweep.Proofs.Workload.Loading
import DramSweep.Proofs.Workload.Normalization
import DramSweep.Workload.Order
import DramSweep.Workload.Table

/-!
What the report of a configuration depends on. Loading a workload and normalizing it any number of
times brings nothing into a configuration but its own file, the file of the reference and those of
the programs alone; the files of other configurations may hold anything as long as the run goes on.
-/

namespace DramSweep

open Std (ExtTreeMap)
open Traverse

namespace Workload

/-- The outcome of each of several calls that normalize, in order. A call that fails changes
nothing for the next one. -/
def normalizeOutcomes (workload : Workload) : List String → List (Except MetricError Unit)
  | [] => []
  | metric :: rest =>
    (workload.normalize metric).map (fun _ => ()) ::
      ((workload.normalize metric).toOption.getD workload).normalizeOutcomes rest

/-- Two workloads that look the same to one of their configurations: they may hold other reports
for any but this one and the reference. -/
structure AgreeOn (configuration : String) (first second : Workload) : Prop where
  name : first.name = second.name
  reference : first.reference = second.reference
  programs : first.programs = second.programs
  referenceReport : first.referenceReport = second.referenceReport
  report : first.reports[configuration]? = second.reports[configuration]?

theorem referenceReport_congr {first second : Workload}
    (hreference : first.reference = second.reference)
    (hreport : first.reports[first.reference]? = second.reports[first.reference]?) :
    first.referenceReport = second.referenceReport := by
  unfold referenceReport
  rw [hreport, hreference]

/-- The reference report after normalizing is the one before, normalized. -/
theorem referenceReport_map (workload : Workload) (f : Report → Report) :
    ({ workload with reports := workload.reports.map fun _ report => f report }
      : Workload).referenceReport = workload.referenceReport.map f := by
  unfold Workload.referenceReport
  dsimp only
  rw [ExtTreeMap.getElem?_map]
  cases workload.reports[workload.reference]? <;> rfl

namespace AgreeOn

variable {configuration : String} {first second : Workload}

theorem lacks (h : AgreeOn configuration first second) (metric : String) :
    first.lacks first.reference metric = second.lacks second.reference metric := by
  unfold Workload.lacks
  rw [h.name, h.reference]

/-- One call fails for both workloads alike, or leaves them alike. -/
theorem normalize (h : AgreeOn configuration first second) (metric : String) :
    EndAlike (AgreeOn configuration) (first.normalize metric) (second.normalize metric) := by
  unfold Workload.normalize
  rw [h.referenceReport, h.lacks metric]
  cases hreference : second.referenceReport with
  | error e => exact .error e
  | ok reference =>
      cases hdivisor : (reference.get? metric).bind Quantity.divisor? with
      | none =>
          simp only [bind, Except.bind, hdivisor]
          exact .error _
      | some divisor =>
          simp only [bind, Except.bind, hdivisor]
          refine .ok ⟨h.name, h.reference, h.programs, ?_, ?_⟩
          · rw [referenceReport_map, referenceReport_map, h.referenceReport]
          · dsimp only
            rw [ExtTreeMap.getElem?_map, ExtTreeMap.getElem?_map, h.report]

/-- Any number of calls ends alike call by call, and leaves the workloads alike. -/
theorem normalizeEach (h : AgreeOn configuration first second) (metrics : List String) :
    AgreeOn configuration (first.normalizeEach metrics) (second.normalizeEach metrics) ∧
      first.normalizeOutcomes metrics = second.normalizeOutcomes metrics := by
  induction metrics generalizing first second with
  | nil => exact ⟨h, rfl⟩
  | cons metric rest ih =>
      have hcall := h.normalize metric
      simp only [Workload.normalizeEach, List.foldl_cons, normalizeOutcomes]
      generalize first.normalize metric = one, second.normalize metric = other at hcall
      cases hcall with
      | error e =>
          obtain ⟨hagree, houtcomes⟩ := ih h
          exact ⟨hagree, congrArg _ houtcomes⟩
      | ok hresult =>
          obtain ⟨hagree, houtcomes⟩ := ih hresult
          exact ⟨hagree, congrArg _ houtcomes⟩

theorem memoryLoad (h : AgreeOn configuration first second) :
    first.memoryLoad = second.memoryLoad := by
  unfold Workload.memoryLoad
  rw [h.referenceReport, h.programs]

theorem load? (h : AgreeOn configuration first second) : first.load? = second.load? := by
  unfold Workload.load?
  rw [h.memoryLoad]

theorem feature (h : AgreeOn configuration first second) : first.feature = second.feature := by
  unfold Workload.feature isMix
  rw [h.referenceReport, h.memoryLoad, h.programs]
  simp only [h.lacks]

end AgreeOn

end Workload

/-- A report with references is read from its own file and those of the references. -/
theorem Report.loadAgainst_congr {tree other : FileTree} {path : Path} {references : List Path}
    (hown : tree.open? path = other.open? path)
    (hreferences : ∀ reference ∈ references, tree.open? reference = other.open? reference) :
    loadAgainst tree path references = loadAgainst other path references := by
  have hloaded : loadReferences tree references = loadReferences other references := by
    unfold loadReferences
    apply List.filterMap_congr
    intro reference hreference
    rw [hreferences reference hreference]
  unfold loadAgainst
  rw [hown, hloaded]

namespace WorkloadSource

/-- Two trees hold the same in the files that a configuration depends on: its own, that of the
reference, and those of the programs alone. A file may be missing from both. -/
structure SameFiles (source : WorkloadSource) (configuration : String)
    (tree other : FileTree) : Prop where
  own : tree.open? (reportPath source.directory source.name configuration) =
    other.open? (reportPath source.directory source.name configuration)
  reference : tree.open? (reportPath source.directory source.name source.reference) =
    other.open? (reportPath source.directory source.name source.reference)
  alone : ∀ programs, source.programs = some programs → ∀ program ∈ programs,
    tree.open? (reportPath source.directory program source.reference) =
      other.open? (reportPath source.directory program source.reference)

variable {source : WorkloadSource} {configuration : String} {tree other : FileTree}

/-- A report is read from the file of its configuration and those of the programs alone. -/
theorem loadReport_congr
    (hown : tree.open? (reportPath source.directory source.name configuration) =
      other.open? (reportPath source.directory source.name configuration))
    (halone : ∀ programs, source.programs = some programs → ∀ program ∈ programs,
      tree.open? (reportPath source.directory program source.reference) =
        other.open? (reportPath source.directory program source.reference)) :
    source.loadReport tree configuration = source.loadReport other configuration := by
  unfold loadReport referencePaths?
  cases hprograms : source.programs with
  | none =>
      dsimp only [Option.map_none]
      unfold Report.load
      rw [hown]
  | some programs =>
      apply Report.loadAgainst_congr hown
      intro path hpath
      obtain ⟨program, hprogram, rfl⟩ := List.mem_map.mp hpath
      exact halone programs hprograms program hprogram

/-- Workloads that are loaded from two trees agree on a listed configuration when the files that it
depends on are the same. -/
theorem agreeOn_of_load (hconfiguration : configuration ∈ source.configurations)
    (hfiles : source.SameFiles configuration tree other) {first second : Workload}
    (hfirst : source.load tree = .ok first) (hsecond : source.load other = .ok second) :
    Workload.AgreeOn configuration first second := by
  have hreports : ∀ c ∈ source.configurations,
      source.loadReport tree c = source.loadReport other c →
        first.reports[c]? = second.reports[c]? := by
    intro c hc hsame
    apply Option.ext
    intro report
    rw [getElem?_reports_of_load hfirst, getElem?_reports_of_load hsecond, hsame]
  have hown := hreports _ hconfiguration (loadReport_congr hfiles.own hfiles.alone)
  obtain ⟨hlisted, _, -, rfl⟩ := load_cases hfirst
  obtain ⟨-, _, -, rfl⟩ := load_cases hsecond
  have hreference := hreports _ hlisted (loadReport_congr hfiles.reference hfiles.alone)
  exact ⟨rfl, rfl, rfl, Workload.referenceReport_congr rfl hreference, hown⟩

/-- Loading does not stop the whole run. -/
def GoesOn (source : WorkloadSource) (tree : FileTree) : Prop :=
  ∀ e, source.load tree = .error e → e.isFatal = false

/-- A workload whose reference is listed is loaded as soon as the run goes on. -/
theorem exists_load_of_goesOn (hlisted : source.reference ∈ source.configurations)
    (h : source.GoesOn tree) : ∃ loaded, source.load tree = .ok loaded := by
  cases hload : source.load tree with
  | ok loaded => exact ⟨loaded, rfl⟩
  | error e =>
      have hfatal := isFatal_of_load hlisted hload
      rw [h e hload] at hfatal
      cases hfatal

end WorkloadSource

/-- Configurations are isolated from each other. When the file of a configuration, that of the
reference and those of the programs alone are the same in two trees, and neither tree stops the
run, then after the same calls that normalize the configuration has the same report, the calls have
had the same outcomes, and the workload has the same feature and load, whatever the files of other
configurations are. -/
theorem configurations_isolated {source : WorkloadSource}
    (hlisted : source.reference ∈ source.configurations) {configuration : String}
    (hconfiguration : configuration ∈ source.configurations) {tree other : FileTree}
    (htree : source.GoesOn tree) (hother : source.GoesOn other)
    (hfiles : source.SameFiles configuration tree other) (metrics : List String) :
    ∃ first second, source.load tree = .ok first ∧ source.load other = .ok second ∧
      (∃ report, (first.normalizeEach metrics).reports[configuration]? = some report ∧
        (second.normalizeEach metrics).reports[configuration]? = some report) ∧
      first.normalizeOutcomes metrics = second.normalizeOutcomes metrics ∧
      (first.normalizeEach metrics).feature = (second.normalizeEach metrics).feature ∧
      (first.normalizeEach metrics).load? = (second.normalizeEach metrics).load? := by
  obtain ⟨first, hfirst⟩ := WorkloadSource.exists_load_of_goesOn hlisted htree
  obtain ⟨second, hsecond⟩ := WorkloadSource.exists_load_of_goesOn hlisted hother
  have hloaded := WorkloadSource.agreeOn_of_load hconfiguration hfiles hfirst hsecond
  obtain ⟨hagree, houtcomes⟩ := hloaded.normalizeEach metrics
  obtain ⟨loaded, hheld⟩ := WorkloadSource.exists_report_of_load hfirst hconfiguration
  obtain ⟨report, hreport⟩ :=
    (Workload.onlyNormalized_normalizeEach first metrics).exists_report_after hheld
  exact ⟨first, second, hfirst, hsecond, ⟨report, hreport, hagree.report.symm.trans hreport⟩,
    houtcomes, hagree.feature, hagree.load?⟩

/-- The reports of a mix in two configurations and of one of its two programs alone, and what else
is given. -/
def treeWith (more : List (Location × Entry)) : FileTree :=
  let file (line : String) := Entry.file (Bytes.ofText (line ++ "\n"))
  { entries := .ofList ([(["mix"], .directory), (["left"], .directory),
      (["mix", "DDR4.stats"], file "ramulator.row_hits 50"),
      (["mix", "DDR5.stats"], file "ramulator.row_hits 75"),
      (["left", "DDR4.stats"], file "ramulator.row_hits 10")] ++ more) }

def threeConfigurations : WorkloadSource where
  directory := ⟨""⟩
  name := "mix"
  configurations := ["DDR4", "DDR5", "HBM"]
  reference := "DDR4"
  programs := some ["left", "right"]

/-- The file of a third configuration. -/
def thirdFile : Location × Entry :=
  (["mix", "HBM.stats"], .file (Bytes.ofText "ramulator.row_misses 9\n"))

/-- Whether the third configuration has a file does not show in the second one, be it after a call
that fails or one that does not. -/
theorem configurations_isolated_third_file :
    (treeWith []).open? (reportPath ⟨""⟩ "mix" "HBM") = none ∧
      ((treeWith [thirdFile]).open? (reportPath ⟨""⟩ "mix" "HBM")).isSome ∧
      ∃ first second, threeConfigurations.load (treeWith []) = .ok first ∧
        threeConfigurations.load (treeWith [thirdFile]) = .ok second ∧
        (∃ report, (first.normalizeEach ["ipc", "row_hits"]).reports["DDR5"]? = some report ∧
          (second.normalizeEach ["ipc", "row_hits"]).reports["DDR5"]? = some report) ∧
        first.normalizeOutcomes ["ipc", "row_hits"] =
          second.normalizeOutcomes ["ipc", "row_hits"] := by
  have hgoes : ∀ tree, failure? (threeConfigurations.load tree) = none →
      threeConfigurations.GoesOn tree := by
    intro tree hload e he
    rw [he] at hload
    cases hload
  have hwithout : threeConfigurations.GoesOn (treeWith []) := hgoes _ (by decide +kernel)
  have hwith : threeConfigurations.GoesOn (treeWith [thirdFile]) := hgoes _ (by decide +kernel)
  have hfiles : threeConfigurations.SameFiles "DDR5" (treeWith []) (treeWith [thirdFile]) := by
    refine ⟨by decide +kernel, by decide +kernel, ?_⟩
    intro programs hprograms
    cases hprograms
    decide +kernel
  obtain ⟨first, second, hfirst, hsecond, hreport, houtcomes, -⟩ :=
    configurations_isolated (by decide) (by decide) hwithout hwith hfiles ["ipc", "row_hits"]
  exact ⟨by decide +kernel, by decide +kernel, first, second, hfirst, hsecond, hreport, houtcomes⟩

end DramSweep
