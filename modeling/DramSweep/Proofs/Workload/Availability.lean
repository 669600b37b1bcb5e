import DramSweep.Proofs.Workload.References

/-!
When the tables of a workload are given. The wide and the tidy form ask for the same values in the
same order, so they are given together, and when they are refused it is for the same reason: the
feature lacks something, or else the first value, metric by metric, that a configuration lacks.
-/

namespace DramSweep.Workload

open Std (ExtTreeMap)
open Traverse

/-- Whether the report of a configuration has a metric. -/
def has (workload : Workload) (metric configuration : String) : Bool :=
  (workload.reports[configuration]?.bind (·.get? metric)).isSome

/-- The first value that is missing from a table, as metric and configuration. -/
def firstMissing? (workload : Workload) (metrics : List String) : Option (String × String) :=
  (metrics.flatMap fun metric => workload.configurations.map (metric, ·)).find?
    fun (metric, configuration) => !workload.has metric configuration

/-- The reference and every listed configuration have a report. -/
structure HasReports (workload : Workload) : Prop where
  reference : workload.reference ∈ workload.reports
  configurations : ∀ configuration ∈ workload.configurations, configuration ∈ workload.reports

theorem exists_report_of_mem {reports : ExtTreeMap String Report} {configuration : String}
    (h : configuration ∈ reports) : ∃ report, reports[configuration]? = some report := by
  rw [ExtTreeMap.mem_iff_isSome_getElem?] at h
  exact Option.isSome_iff_exists.mp h

variable {workload : Workload}

theorem failure?_value (metric : String) {configuration : String}
    (hheld : configuration ∈ workload.reports) :
    failure? (workload.value metric configuration) =
      if workload.has metric configuration then none
      else some (workload.lacks configuration metric) := by
  obtain ⟨report, hreport⟩ := exists_report_of_mem hheld
  unfold value has
  rw [hreport]
  cases hvalue : report.get? metric <;> simp [hvalue]

/-- Values are looked up until the first one that is missing. -/
theorem failure?_valuesOf (hreports : workload.HasReports) (metric : String) :
    failure? (workload.valuesOf metric) =
      (workload.configurations.find? fun configuration =>
        !workload.has metric configuration).map (workload.lacks · metric) := by
  rw [← findSome?_eq_map_find? fun configuration hlisted =>
    failure?_value metric (hreports.configurations configuration hlisted), ← failure?_mapM]
  rfl

theorem failure?_allValues (hreports : workload.HasReports) (metrics : List String) :
    failure? (workload.allValues metrics) =
      (workload.firstMissing? metrics).map fun (metric, configuration) =>
        workload.lacks configuration metric := by
  have hrow : ∀ metric, failure? (do return (metric, ← workload.valuesOf metric)) =
      failure? (workload.valuesOf metric) := by
    intro metric
    cases workload.valuesOf metric <;> rfl
  unfold allValues firstMissing?
  rw [failure?_mapM, List.find?_flatMap, List.map_findSome?]
  congr 1
  funext metric
  rw [hrow, failure?_valuesOf hreports, Function.comp_apply, List.find?_map, Option.map_map]
  rfl

/-- Whether the memory load is known can be told once the reference has a report. -/
theorem memoryLoad_eq_ok (h : workload.reference ∈ workload.reports) :
    workload.memoryLoad = .ok workload.load? := by
  obtain ⟨report, hreport⟩ := exists_report_of_mem h
  have hknown : failure? workload.memoryLoad = none := by
    unfold memoryLoad
    rw [(referenceReport_eq_ok_iff report).mpr hreport]
    cases workload.programs with
    | none => rfl
    | some programs =>
        dsimp only [bind, Except.bind]
        split <;> rfl
  obtain ⟨known, hload⟩ := failure?_eq_none_iff.mp hknown
  unfold load?
  rw [hload]
  rfl

/-- What a workload is measured by: the weighted speedup of several programs, or else the
instructions per cycle over all cores. -/
def measured? (workload : Workload) : Option Float :=
  workload.reports[workload.reference]?.bind fun report =>
    if workload.isMix then report.scalar? "weighted_speedup" else report.ipc?.map Number.sum

/-- A feature is given when the memory load is known and what the workload is measured by is. -/
theorem feature_eq (h : workload.reference ∈ workload.reports) :
    workload.feature = match workload.load?, workload.measured? with
      | none, _ => .error (workload.lacks workload.reference "MPKI")
      | some _, none => .error (workload.lacks workload.reference
          (if workload.isMix then "weighted_speedup" else "ipc"))
      | some load, some measured => .ok ("MPKI_" ++ cell load ++
          (if workload.isMix then "_weighted-speedup_" else "_ipc_") ++ cell measured) := by
  obtain ⟨report, hreport⟩ := exists_report_of_mem h
  unfold feature measured?
  rw [(referenceReport_eq_ok_iff report).mpr hreport, memoryLoad_eq_ok h, hreport]
  cases workload.load? with
  | none => rfl
  | some load =>
      cases workload.isMix with
      | true => cases hspeedup : report.scalar? "weighted_speedup" <;>
          simp [hspeedup, bind, Except.bind, pure, Except.pure]
      | false => cases hipc : report.ipc? <;>
          simp [hipc, bind, Except.bind, pure, Except.pure]

/-- A feature fails for want of the memory load, and next for want of what the workload is measured
by. -/
theorem error_of_feature (h : workload.reference ∈ workload.reports) {e : MetricError}
    (hfeature : workload.feature = .error e) :
    e = workload.lacks workload.reference
      (if workload.load? = none then "MPKI"
        else if workload.isMix then "weighted_speedup" else "ipc") := by
  rw [feature_eq h] at hfeature
  cases hload : workload.load? with
  | none =>
      rw [hload] at hfeature
      cases hfeature
      rfl
  | some load =>
      cases hmeasured : workload.measured? with
      | none =>
          rw [hload, hmeasured] at hfeature
          cases hfeature
          rfl
      | some measured =>
          rw [hload, hmeasured] at hfeature
          cases hfeature

/-- A wide table asks for the feature first, and then for its values. -/
theorem failure?_wide (metrics : List String) :
    failure? (workload.wide metrics) =
      (failure? workload.feature).or (failure? (workload.allValues metrics)) := by
  unfold wide wideRecords
  rw [failure?_map, failure?_bind]
  cases workload.feature with
  | error e => rfl
  | ok text => cases workload.allValues metrics <;> rfl

/-- The memory load that a tidy table asks for besides is known when the feature is. -/
theorem failure?_tidy (metrics : List String) :
    failure? (workload.tidy metrics) =
      (failure? workload.feature).or (failure? (workload.allValues metrics)) := by
  unfold tidy tidyRecords
  rw [failure?_map, failure?_bind]
  cases hfeature : workload.feature with
  | error e => rfl
  | ok text =>
      obtain ⟨load, hload⟩ := exists_load_of_feature hfeature
      rw [hload]
      cases workload.allValues metrics <;> rfl

theorem appendTo_eq_ok_iff (table : Except MetricError String) (sink : String) :
    (appendTo table sink).1 = .ok () ↔ failure? table = none := by
  cases table <;> simp [appendTo]

theorem appendTo_of_failure {table : Except MetricError String} {e : MetricError}
    (h : failure? table = some e) (sink : String) : appendTo table sink = (.error e, sink) := by
  rw [failure?_eq_some_iff.mp h]
  rfl

theorem firstMissing?_eq_none_iff (metrics : List String) :
    workload.firstMissing? metrics = none ↔
      ∀ metric ∈ metrics, ∀ configuration ∈ workload.configurations,
        workload.has metric configuration := by
  unfold firstMissing?
  simp only [List.find?_eq_none, List.mem_flatMap, List.mem_map]
  constructor
  · intro h metric hmetric configuration hlisted
    simpa using h (metric, configuration) ⟨metric, hmetric, configuration, hlisted, rfl⟩
  · rintro h _ ⟨metric, hmetric, configuration, hlisted, rfl⟩
    simp [h metric hmetric configuration hlisted]

/-- Where the reference and every listed configuration have a report, both forms of a table are
given exactly when the feature is and no configuration lacks a metric. Otherwise both are refused
for the same reason and what they were to be written to is as it was. The reason is what the
feature lacks of the reference, or else the first value that is missing. -/
theorem tables_given_or_refused {workload : Workload} (hreports : workload.HasReports)
    (metrics : List String) (sink : String) :
    let wide := appendTo (workload.wide metrics) sink
    let tidy := appendTo (workload.tidy metrics) sink
    let given := (∃ feature, workload.feature = .ok feature) ∧
      ∀ metric ∈ metrics, ∀ configuration ∈ workload.configurations,
        workload.has metric configuration
    (wide.1 = .ok () ↔ given) ∧ (tidy.1 = .ok () ↔ given) ∧
      (¬given → ∃ configuration metric,
        wide = (.error (.metricUnavailable workload.name configuration metric), sink) ∧
        tidy = (.error (.metricUnavailable workload.name configuration metric), sink) ∧
        match workload.feature with
        | .error _ => configuration = workload.reference ∧
            metric = if workload.load? = none then "MPKI"
              else if workload.isMix then "weighted_speedup" else "ipc"
        | .ok _ => workload.firstMissing? metrics = some (metric, configuration)) := by
  intro wide tidy given
  have hgiven : (failure? workload.feature).or (failure? (workload.allValues metrics)) = none ↔
      given := by
    rw [Option.or_eq_none_iff, failure?_eq_none_iff, failure?_allValues hreports,
      Option.map_eq_none_iff, firstMissing?_eq_none_iff]
  refine ⟨?_, ?_, ?_⟩
  · rw [appendTo_eq_ok_iff, failure?_wide, hgiven]
  · rw [appendTo_eq_ok_iff, failure?_tidy, hgiven]
  · intro hrefused
    -- Both tables fail for one reason, so it is enough to find it in the feature or the values.
    have hboth : ∀ configuration metric,
        (failure? workload.feature).or (failure? (workload.allValues metrics)) =
          some (workload.lacks configuration metric) →
        wide = (.error (.metricUnavailable workload.name configuration metric), sink) ∧
          tidy = (.error (.metricUnavailable workload.name configuration metric), sink) := by
      intro configuration metric hreason
      exact ⟨appendTo_of_failure ((failure?_wide metrics).trans hreason) sink,
        appendTo_of_failure ((failure?_tidy metrics).trans hreason) sink⟩
    cases hfeature : workload.feature with
    | error e =>
        have he := error_of_feature hreports.reference hfeature
        obtain ⟨hwide, htidy⟩ := hboth _ _ (by rw [hfeature, he]; rfl)
        exact ⟨_, _, hwide, htidy, rfl, rfl⟩
    | ok feature =>
        cases hmissing : workload.firstMissing? metrics with
        | none =>
            rw [firstMissing?_eq_none_iff] at hmissing
            exact absurd ⟨⟨feature, hfeature⟩, hmissing⟩ hrefused
        | some pair =>
            obtain ⟨metric, configuration⟩ := pair
            obtain ⟨hwide, htidy⟩ := hboth configuration metric (by
              rw [hfeature, failure?_allValues hreports, hmissing]
              rfl)
            exact ⟨configuration, metric, hwide, htidy, rfl⟩

/-- A workload whose second configuration has no counts of row hits. -/
def gappedWorkload : Workload :=
  let report (lines : List String) := Report.ofBytes (lines.flatMap fun line =>
    Bytes.ofText (line ++ "\n"))
  let counts := ["ramulator.record_insts_core_0 2000", "ramulator.record_cycs_core_0 1000",
    "ramulator.incoming_requests_per_channel 100"]
  ofReports "mcf" ["DDR4", "DDR5"] "DDR4" none
    (.ofList [("DDR4", report ("ramulator.row_hits 50" :: counts)), ("DDR5", report counts)])

theorem tables_refused_second_configuration :
    gappedWorkload.HasReports ∧
      appendTo (gappedWorkload.wide ["ipc", "row_hit_rate"]) "kept" =
        (.error (.metricUnavailable "mcf" "DDR5" "row_hit_rate"), "kept") ∧
      appendTo (gappedWorkload.tidy ["ipc", "row_hit_rate"]) "kept" =
        (.error (.metricUnavailable "mcf" "DDR5" "row_hit_rate"), "kept") := by
  have hreports : gappedWorkload.HasReports := ⟨by decide +kernel, by decide +kernel⟩
  have hfeature : gappedWorkload.feature = .ok "MPKI_50.0000_ipc_2.0000" := by decide +kernel
  have hmissing : gappedWorkload.firstMissing? ["ipc", "row_hit_rate"] =
      some ("row_hit_rate", "DDR5") := by
    decide +kernel
  have hgap : ¬∀ metric ∈ ["ipc", "row_hit_rate"],
      ∀ configuration ∈ gappedWorkload.configurations, gappedWorkload.has metric configuration := by
    rw [← firstMissing?_eq_none_iff, hmissing]
    simp
  obtain ⟨-, -, hrefused⟩ := tables_given_or_refused hreports ["ipc", "row_hit_rate"] "kept"
  obtain ⟨configuration, metric, hwide, htidy, hfirst⟩ := hrefused fun h => hgap h.2
  rw [hfeature] at hfirst
  cases hmissing.symm.trans hfirst
  exact ⟨hreports, hwide, htidy⟩

end DramSweep.Workload
