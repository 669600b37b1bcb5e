import DramSweep.Proofs.Report.Matching
import DramSweep.Proofs.Workload.Availability

/-!
What a loaded workload holds for good: a report for each listed configuration, with the tables and
the references that were read for it. Normalizing and recording metrics changes what is derived and
nothing else, so no later question asks for a report that is not held. Loading itself only fails
without its reference in the list; it stops the run where references and cores cannot be matched.
-/

namespace DramSweep

open Std (ExtTreeMap)
open Traverse

namespace Report

/-- A report but for the metrics that are derived or recorded. -/
def withoutDerived (report : Report) : Report :=
  { report with derived := ∅ }

end Report

namespace WorkloadSource

variable {tree : FileTree} {source : WorkloadSource} {configuration : String}

/-- The counters in the file of a configuration. Without the file there are none. -/
def countersIn (tree : FileTree) (source : WorkloadSource) (configuration : String) : Counters :=
  (tree.open? (reportPath source.directory source.name configuration)).elim {} Counters.ofBytes

/-- The references that are there, for a file that is. -/
def referencesIn (tree : FileTree) (source : WorkloadSource) (configuration : String) :
    List Report :=
  match tree.open? (reportPath source.directory source.name configuration),
      source.referencePaths? with
  | some _, some paths => Report.loadReferences tree paths
  | _, _ => []

/-- The file of a configuration has cores that the references are not for. -/
def Unmatched (tree : FileTree) (source : WorkloadSource) (configuration : String) : Prop :=
  ∃ bytes paths, tree.open? (reportPath source.directory source.name configuration) = some bytes ∧
    source.referencePaths? = some paths ∧
    Report.Unmatched bytes (Report.loadReferences tree paths)

theorem exists_loadReport_iff :
    (∃ report, source.loadReport tree configuration = .ok report) ↔
      ¬source.Unmatched tree configuration := by
  rw [loadReport_eq]
  unfold Unmatched
  cases tree.open? (reportPath source.directory source.name configuration) with
  | none => simp
  | some bytes =>
      cases source.referencePaths? with
      | none => simp [Report.read]
      | some paths => simp [Report.exists_read_iff]

theorem contents_of_loadReport {report : Report}
    (h : source.loadReport tree configuration = .ok report) :
    report.counters = source.countersIn tree configuration ∧
      report.references = source.referencesIn tree configuration := by
  rw [loadReport_eq] at h
  unfold countersIn referencesIn
  cases hopen : tree.open? (reportPath source.directory source.name configuration) with
  | none =>
      rw [hopen] at h
      cases h
      exact ⟨rfl, rfl⟩
  | some bytes =>
      rw [hopen] at h
      refine ⟨Report.counters_of_read h, ?_⟩
      cases hpaths : source.referencePaths? with
      | none =>
          rw [hpaths] at h
          cases h
          rfl
      | some paths =>
          rw [hpaths] at h
          exact Report.references_of_read h

/-- A report that is loaded is read from bytes; where the file is missing there are none. -/
theorem exists_read_of_loadReport {report : Report}
    (h : source.loadReport tree configuration = .ok report) :
    ∃ bytes references, Report.read bytes references = .ok report ∧
      Counters.ofBytes bytes = source.countersIn tree configuration := by
  have hcounters := (contents_of_loadReport h).1
  rw [loadReport_eq] at h
  cases hopen : tree.open? (reportPath source.directory source.name configuration) with
  | none =>
      rw [hopen] at h
      cases h
      exact ⟨[], none, rfl, hcounters⟩
  | some bytes =>
      rw [hopen] at h
      exact ⟨bytes, _, h, (Report.counters_of_read h).symm.trans hcounters⟩

end WorkloadSource

namespace Workload

/-- What may be done to a workload after it is loaded. -/
inductive Change where
  | normalize (metric : String)
  | setMetric (configuration name : String) (value : Quantity)

/-- A change that fails leaves the workload as it is. -/
def Change.apply (workload : Workload) : Change → Workload
  | .normalize metric => (workload.normalize metric).toOption.getD workload
  | .setMetric configuration name value => workload.setMetric configuration name value

def afterChanges (workload : Workload) (changes : List Change) : Workload :=
  changes.foldl Change.apply workload

/-- A workload but for the metrics that are derived or recorded. -/
def withoutDerived (workload : Workload) : Workload :=
  { workload with reports := workload.reports.map fun _ report => report.withoutDerived }

theorem withoutDerived_normalizeReport (metric : String) (divisor : Float) (report : Report) :
    (normalizeReport metric divisor report).withoutDerived = report.withoutDerived := by
  unfold normalizeReport
  cases report.get? metric <;> rfl

theorem withoutDerived_normalize {workload result : Workload} {metric : String}
    (h : workload.normalize metric = .ok result) :
    result.withoutDerived = workload.withoutDerived := by
  obtain ⟨reference, divisor, -, -, rfl⟩ := normalize_cases h
  unfold withoutDerived
  simp only [ExtTreeMap.map_map, withoutDerived_normalizeReport]

theorem withoutDerived_setMetric (workload : Workload) (configuration name : String)
    (value : Quantity) :
    (workload.setMetric configuration name value).withoutDerived = workload.withoutDerived := by
  have hreports : (workload.reports.modify configuration (·.setMetric name value)).map
        (fun _ report => report.withoutDerived) =
      workload.reports.map fun _ report => report.withoutDerived := by
    apply ExtTreeMap.ext_getElem?
    intro other
    rw [ExtTreeMap.getElem?_map, ExtTreeMap.getElem?_map, ExtTreeMap.getElem?_modify]
    split
    next hsame =>
      cases Std.LawfulEqCmp.eq_of_compare hsame
      rw [Option.map_map]
      rfl
    next => rfl
  unfold setMetric withoutDerived
  rw [hreports]

/-- A change is one of metrics. -/
theorem withoutDerived_apply (workload : Workload) (change : Change) :
    (change.apply workload).withoutDerived = workload.withoutDerived := by
  cases change with
  | normalize metric =>
      rw [Change.apply]
      cases hnormalize : workload.normalize metric with
      | error e => rfl
      | ok result => exact withoutDerived_normalize hnormalize
  | setMetric configuration name value => exact withoutDerived_setMetric _ _ _ _

theorem withoutDerived_afterChanges (workload : Workload) (changes : List Change) :
    (workload.afterChanges changes).withoutDerived = workload.withoutDerived := by
  induction changes generalizing workload with
  | nil => rfl
  | cons change rest ih => exact (ih (change.apply workload)).trans (withoutDerived_apply _ _)

variable {tree : FileTree} {source : WorkloadSource} {workload after before : Workload}

theorem getElem?_withoutDerived (workload : Workload) (configuration : String) :
    workload.withoutDerived.reports[configuration]? =
      workload.reports[configuration]?.map Report.withoutDerived :=
  ExtTreeMap.getElem?_map

/-- A workload is the one that is asked for, and has the reports of its files, whatever their
derived metrics are. -/
structure ReadFrom (workload : Workload) (tree : FileTree) (source : WorkloadSource) : Prop where
  name : workload.name = source.name
  configurations : workload.configurations = source.configurations
  reference : workload.reference = source.reference
  programs : workload.programs = source.programs
  listed : source.reference ∈ source.configurations
  held : ∀ configuration : String,
    configuration ∈ workload.reports ↔ configuration ∈ source.configurations
  contents : ∀ (configuration : String) (report : Report),
    workload.reports[configuration]? = some report →
      report.counters = source.countersIn tree configuration ∧
        report.references = source.referencesIn tree configuration

theorem readFrom_of_load (h : source.load tree = .ok workload) :
    workload.ReadFrom tree source := by
  have hreports := WorkloadSource.getElem?_reports_of_load h
  have hheld : ∀ configuration : String,
      configuration ∈ workload.reports ↔ configuration ∈ source.configurations := by
    intro configuration
    constructor
    · intro hmem
      obtain ⟨report, hreport⟩ := exists_report_of_mem hmem
      exact ((hreports configuration report).mp hreport).1
    · intro hlisted
      obtain ⟨report, hreport⟩ := WorkloadSource.exists_report_of_load h hlisted
      exact ExtTreeMap.mem_iff_isSome_getElem?.mpr (by rw [hreport]; rfl)
  have hcontents : ∀ (configuration : String) (report : Report),
      workload.reports[configuration]? = some report →
        report.counters = source.countersIn tree configuration ∧
          report.references = source.referencesIn tree configuration := by
    intro configuration report hreport
    exact WorkloadSource.contents_of_loadReport ((hreports configuration report).mp hreport).2
  obtain ⟨hlisted, _, -, rfl⟩ := WorkloadSource.load_cases h
  exact ⟨rfl, rfl, rfl, rfl, hlisted, hheld, hcontents⟩

theorem ReadFrom.of_withoutDerived_eq (h : before.ReadFrom tree source)
    (hsame : after.withoutDerived = before.withoutDerived) : after.ReadFrom tree source := by
  have hreports : ∀ configuration : String,
      after.reports[configuration]?.map Report.withoutDerived =
        before.reports[configuration]?.map Report.withoutDerived := by
    intro configuration
    rw [← getElem?_withoutDerived, hsame, getElem?_withoutDerived]
  exact {
    name := (congrArg Workload.name hsame :).trans h.name
    configurations := (congrArg Workload.configurations hsame :).trans h.configurations
    reference := (congrArg Workload.reference hsame :).trans h.reference
    programs := (congrArg Workload.programs hsame :).trans h.programs
    listed := h.listed
    held := by
      intro configuration
      rw [← h.held, ExtTreeMap.mem_iff_isSome_getElem?, ExtTreeMap.mem_iff_isSome_getElem?,
        ← Option.isSome_map (f := Report.withoutDerived), hreports, Option.isSome_map]
    contents := by
      intro configuration report hreport
      have hboth := hreports configuration
      rw [hreport] at hboth
      obtain ⟨earlier, hearlier, heq⟩ := Option.map_eq_some_iff.mp hboth.symm
      obtain ⟨hcounters, hreferences⟩ := h.contents configuration earlier hearlier
      exact ⟨(congrArg Report.counters heq :).symm.trans hcounters,
        (congrArg Report.references heq :).symm.trans hreferences⟩ }

theorem ReadFrom.hasReports (h : workload.ReadFrom tree source) : workload.HasReports where
  reference := by
    rw [h.reference, h.held]
    exact h.listed
  configurations := by
    intro configuration hlisted
    rw [h.configurations] at hlisted
    exact (h.held configuration).mpr hlisted

/-- What fails for want of a metric in a report that is held, if at all. -/
def LacksOnly {α : Type} (workload : Workload) (action : Except MetricError α) : Prop :=
  ∀ e, action = .error e → ∃ configuration metric, configuration ∈ workload.reports ∧
    e = workload.lacks configuration metric

/-- No question to a workload asks for a report that is not held. -/
structure FindsReports (workload : Workload) : Prop where
  referenceReport : ∃ report, workload.referenceReport = .ok report
  valuesOf : ∀ metric, workload.LacksOnly (workload.valuesOf metric)
  normalize : ∀ metric, workload.LacksOnly (workload.normalize metric)
  feature : workload.LacksOnly workload.feature
  wide : ∀ metrics sink, workload.LacksOnly (appendTo (workload.wide metrics) sink).1
  tidy : ∀ metrics sink, workload.LacksOnly (appendTo (workload.tidy metrics) sink).1

section Lookup

variable (hreports : workload.HasReports)
include hreports

theorem lacksOnly_valuesOf (metric : String) : workload.LacksOnly (workload.valuesOf metric) := by
  intro e h
  rw [← failure?_eq_some_iff, failure?_valuesOf hreports] at h
  obtain ⟨configuration, hfound, rfl⟩ := Option.map_eq_some_iff.mp h
  exact ⟨configuration, metric,
    hreports.configurations configuration (List.mem_of_find?_eq_some hfound), rfl⟩

theorem lacksOnly_normalize (metric : String) :
    workload.LacksOnly (workload.normalize metric) := by
  intro e h
  obtain ⟨report, hreport⟩ := exists_report_of_mem hreports.reference
  unfold Workload.normalize at h
  rw [(referenceReport_eq_ok_iff report).mpr hreport] at h
  dsimp only [bind, Except.bind] at h
  cases hdivisor : (report.get? metric).bind Quantity.divisor? with
  | none =>
      rw [hdivisor] at h
      cases h
      exact ⟨workload.reference, metric, hreports.reference, rfl⟩
  | some divisor =>
      rw [hdivisor] at h
      cases h

theorem lacksOnly_feature : workload.LacksOnly workload.feature :=
  fun _ h => ⟨workload.reference, _, hreports.reference, error_of_feature hreports.reference h⟩

theorem lacksOnly_allValues (metrics : List String) :
    workload.LacksOnly (workload.allValues metrics) := by
  intro e h
  rw [← failure?_eq_some_iff, failure?_allValues hreports] at h
  obtain ⟨⟨metric, configuration⟩, hmissing, rfl⟩ := Option.map_eq_some_iff.mp h
  have hmem := List.mem_of_find?_eq_some hmissing
  have hlisted : configuration ∈ workload.configurations := by
    simp only [List.mem_flatMap, List.mem_map, Prod.mk.injEq] at hmem
    obtain ⟨_, -, _, hlisted, -, rfl⟩ := hmem
    exact hlisted
  exact ⟨configuration, metric, hreports.configurations configuration hlisted, rfl⟩

/-- Both forms of a table ask for the feature and for values. -/
theorem lacksOnly_table {table : Except MetricError String} {metrics : List String}
    (htable : failure? table =
      (failure? workload.feature).or (failure? (workload.allValues metrics))) (sink : String) :
    workload.LacksOnly (appendTo table sink).1 := by
  intro e h
  have hfailure : failure? table = some e := by
    cases table with
    | error reason => exact congrArg failure? h
    | ok text => cases h
  rw [htable] at hfailure
  rcases Option.or_eq_some_iff.mp hfailure with hfeature | ⟨-, hvalues⟩
  · exact lacksOnly_feature hreports e (failure?_eq_some_iff.mp hfeature)
  · exact lacksOnly_allValues hreports metrics e (failure?_eq_some_iff.mp hvalues)

theorem findsReports : workload.FindsReports where
  referenceReport := by
    obtain ⟨report, hreport⟩ := exists_report_of_mem hreports.reference
    exact ⟨report, (referenceReport_eq_ok_iff report).mpr hreport⟩
  valuesOf := lacksOnly_valuesOf hreports
  normalize := lacksOnly_normalize hreports
  feature := lacksOnly_feature hreports
  wide := fun metrics => lacksOnly_table hreports (failure?_wide metrics)
  tidy := fun metrics => lacksOnly_table hreports (failure?_tidy metrics)

end Lookup

end Workload

/-- Without its reference in the list a workload is not loaded. With it, the workload is loaded
whatever files are missing, unless the references that are there cannot be matched with the cores of
a report; then the run stops. Whatever is normalized or recorded later, a loaded workload has the
reports of its configurations as they were read, and no others, and finds each one that it asks
for. -/
theorem loaded_reports_held (tree : FileTree) (source : WorkloadSource) :
    (source.reference ∉ source.configurations →
      source.load tree = .error (.referenceNotListed source.reference
        (Text.quoteList source.configurations))) ∧
    (source.reference ∈ source.configurations →
      ((∃ loaded, source.load tree = .ok loaded) ↔
        ∀ configuration ∈ source.configurations, ¬source.Unmatched tree configuration) ∧
      ∀ e, source.load tree = .error e → ∃ references cores, e = .referenceCount references cores) ∧
    ∀ loaded, source.load tree = .ok loaded → ∀ changes : List Workload.Change,
      (loaded.afterChanges changes).ReadFrom tree source ∧
        (loaded.afterChanges changes).FindsReports := by
  refine ⟨WorkloadSource.load_of_not_listed, ?_, ?_⟩
  · intro hlisted
    refine ⟨?_, fun e => WorkloadSource.error_of_load hlisted⟩
    rw [WorkloadSource.exists_load_iff]
    simp only [WorkloadSource.exists_loadReport_iff, hlisted, true_and]
  · intro loaded hload changes
    have hread := (Workload.readFrom_of_load hload).of_withoutDerived_eq
      (loaded.withoutDerived_afterChanges changes)
    exact ⟨hread, Workload.findsReports hread.hasReports⟩

/-- The report of two cores in one configuration, and that of one program alone. -/
def halfMixTree : FileTree :=
  let file (lines : List String) := Entry.file (lines.flatMap fun line =>
    Bytes.ofText (line ++ "\n"))
  { entries := .ofList [(["stats"], .directory), (["stats", "mix"], .directory),
      (["stats", "mix", "DDR5.stats"], file ["ramulator.record_insts_core_0 100",
        "ramulator.record_cycs_core_0 100", "ramulator.record_insts_core_1 100",
        "ramulator.record_cycs_core_1 200"]),
      (["stats", "left"], .directory), (["stats", "left", "DDR5.stats"],
        file ["ramulator.record_insts_core_0 100", "ramulator.record_cycs_core_0 50"])] }

/-- A mix of that program with itself. One configuration is listed twice and has no file. -/
def repeatedMix : WorkloadSource where
  directory := ⟨"stats"⟩
  name := "mix"
  configurations := ["DDR4", "DDR5", "DDR4"]
  reference := "DDR5"
  programs := some ["left", "left"]

/-- Changes of which the second one fails, for want of row hits. -/
def fewChanges : List Workload.Change :=
  [.normalize "ipc", .normalize "row_hit_rate", .setMetric "DDR4" "ipc" (.perCore [])]

theorem loaded_reports_held_repeated :
    ∃ loaded, repeatedMix.load halfMixTree = .ok loaded ∧
      (∀ configuration : String, configuration ∈ (loaded.afterChanges fewChanges).reports ↔
        configuration ∈ ["DDR4", "DDR5", "DDR4"]) ∧
      ∀ report, (loaded.afterChanges fewChanges).reports["DDR4"]? = some report →
        report.counters = {} ∧ report.references = [] := by
  obtain ⟨-, -, hheld⟩ := loaded_reports_held halfMixTree repeatedMix
  have hloads : (repeatedMix.load halfMixTree).toOption.isSome := by decide +kernel
  obtain ⟨loaded, hloaded⟩ := Option.isSome_iff_exists.mp hloads
  have hload := toOption_eq_some_iff.mp hloaded
  obtain ⟨hread, -⟩ := hheld loaded hload fewChanges
  have hmissing : halfMixTree.open?
      (reportPath repeatedMix.directory repeatedMix.name "DDR4") = none := by
    decide +kernel
  refine ⟨loaded, hload, hread.held, fun report hreport => ?_⟩
  obtain ⟨hcounters, hreferences⟩ := hread.contents "DDR4" report hreport
  constructor
  · rw [hcounters, WorkloadSource.countersIn, hmissing]
    rfl
  · rw [hreferences, WorkloadSource.referencesIn, hmissing]

/-- A workload with a listed reference is not loaded: a missing file leaves one reference for two
cores. -/
theorem missing_program_stops_load :
    twoCoreMix.reference ∈ twoCoreMix.configurations ∧
      halfMixTree.open? (reportPath ⟨"stats"⟩ "right" "DDR5") = none ∧
      twoCoreMix.load halfMixTree = .error (.referenceCount 1 2) :=
  ⟨by decide, by decide +kernel, failure?_eq_some_iff.mp (by decide +kernel)⟩

end DramSweep
