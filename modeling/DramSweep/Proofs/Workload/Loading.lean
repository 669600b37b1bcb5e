import Mathlib.Data.List.Induction
import DramSweep.Proofs.Report.Reading
import DramSweep.Proofs.Traverse
import DramSweep.Workload.Load

/-!
What a loaded workload holds: for every listed configuration the report of its file, and nothing
else. A configuration may be listed twice; its file is read twice with the same result.
-/

namespace DramSweep

open Std (ExtTreeMap)

/-- What a map made from a list holds, the list has. -/
theorem mem_of_getElem?_ofList {α : Type} {pairs : List (String × α)} {key : String} {value : α}
    (h : (ExtTreeMap.ofList pairs)[key]? = some value) : (key, value) ∈ pairs := by
  rw [ExtTreeMap.ofList_eq_foldl] at h
  induction pairs using List.reverseRecOn generalizing value with
  | nil => simp at h
  | append_singleton earlier last ih =>
      rw [List.foldl_append] at h
      simp only [List.foldl_cons, List.foldl_nil, ExtTreeMap.getElem?_insert] at h
      by_cases hkey : compare last.1 key = .eq
      · rw [if_pos hkey] at h
        cases h
        cases Std.LawfulEqCmp.eq_of_compare hkey
        simp
      · rw [if_neg hkey] at h
        exact List.mem_append_left _ (ih h)

namespace Workload

/-- Configurations are given an empty report where they have none. -/
theorem getElem?_foldl_insertIfNew (configurations : List String)
    (held : ExtTreeMap String Report) (configuration : String) :
    (configurations.foldl (fun held c => held.insertIfNew c Report.empty) held)[configuration]? =
      (held[configuration]?).or
        (if configuration ∈ configurations then some Report.empty else none) := by
  induction configurations generalizing held with
  | nil => simp
  | cons first rest ih =>
      rw [List.foldl_cons, ih, ExtTreeMap.getElem?_insertIfNew]
      by_cases hfirst : first = configuration
      · subst hfirst
        cases hheld : held[first]? with
        | none =>
            have hnew : first ∉ held := by
              rw [ExtTreeMap.mem_iff_isSome_getElem?, hheld]
              simp
            simp [hnew]
        | some report =>
            have hold : first ∈ held := by
              rw [ExtTreeMap.mem_iff_isSome_getElem?, hheld]
              rfl
            simp [hold]
      · have hmem : configuration ∈ first :: rest ↔ configuration ∈ rest := by
          simp [Ne.symm hfirst]
        simp [hfirst, hmem]

end Workload

namespace WorkloadSource

variable {tree : FileTree} {source : WorkloadSource} {loaded : Workload}

/-- With its reference listed a workload is made of the reports of its configurations. -/
theorem load_of_listed (hlisted : source.reference ∈ source.configurations) :
    source.load tree = (source.configurations.mapM fun configuration =>
      (source.loadReport tree configuration).map (configuration, ·)).map fun reports =>
        Workload.ofReports source.name source.configurations source.reference source.programs
          (.ofList reports) := by
  unfold load
  simp only [List.contains_iff_mem.mpr hlisted, Bool.not_true, Bool.false_eq_true, if_false]
  rfl

/-- Without it nothing is read. -/
theorem load_of_not_listed (hlisted : source.reference ∉ source.configurations) :
    source.load tree =
      .error (.referenceNotListed source.reference (Text.quoteList source.configurations)) := by
  unfold load
  simp [hlisted, bind, Except.bind, throw, throwThe, MonadExceptOf.throw]

/-- Loading succeeds when the reference is listed and every report can be read. -/
theorem load_cases (h : source.load tree = .ok loaded) :
    source.reference ∈ source.configurations ∧ ∃ reports : List (String × Report),
      source.configurations.mapM (fun configuration =>
        (source.loadReport tree configuration).map (configuration, ·)) = .ok reports ∧
      loaded = Workload.ofReports source.name source.configurations source.reference
        source.programs (.ofList reports) := by
  by_cases hlisted : source.reference ∈ source.configurations
  · refine ⟨hlisted, ?_⟩
    rw [load_of_listed hlisted] at h
    obtain ⟨reports, hreports, heq⟩ := Traverse.map_eq_ok_iff.mp h
    exact ⟨reports, hreports, heq.symm⟩
  · rw [load_of_not_listed hlisted] at h
    cases h

/-- A configuration without a file has an empty report. With one it is read, with the references
that are there for a workload of several programs. -/
theorem loadReport_eq (tree : FileTree) (source : WorkloadSource) (configuration : String) :
    source.loadReport tree configuration =
      match tree.open? (reportPath source.directory source.name configuration) with
      | none => .ok .empty
      | some bytes =>
        Report.read bytes (source.referencePaths?.map (Report.loadReferences tree)) := by
  unfold loadReport Report.load Report.loadAgainst
  dsimp only
  cases source.referencePaths? with
  | none => cases tree.open? (reportPath source.directory source.name configuration) <;> rfl
  | some paths => cases tree.open? (reportPath source.directory source.name configuration) <;> rfl

theorem error_of_loadReport {configuration : String} {e : MetricError}
    (h : source.loadReport tree configuration = .error e) :
    ∃ given cores, e = .referenceCount given cores := by
  rw [loadReport_eq] at h
  cases hopen : tree.open? (reportPath source.directory source.name configuration) with
  | none =>
      rw [hopen] at h
      cases h
  | some bytes =>
      rw [hopen] at h
      exact Report.error_of_read h

theorem error_of_load (hlisted : source.reference ∈ source.configurations) {e : MetricError}
    (h : source.load tree = .error e) : ∃ given cores, e = .referenceCount given cores := by
  rw [load_of_listed hlisted, ← Traverse.failure?_eq_some_iff, Traverse.failure?_map,
    Traverse.failure?_mapM] at h
  obtain ⟨configuration, -, hfails⟩ := List.exists_of_findSome?_eq_some h
  rw [Traverse.failure?_map, Traverse.failure?_eq_some_iff] at hfails
  exact error_of_loadReport hfails

/-- With its reference listed a workload is loaded unless the whole run stops. -/
theorem isFatal_of_load (hlisted : source.reference ∈ source.configurations) {e : MetricError}
    (h : source.load tree = .error e) : e.isFatal = true := by
  obtain ⟨given, cores, rfl⟩ := error_of_load hlisted h
  rfl

/-- Loading needs a listed reference and reports that can be read, be their files there or not. -/
theorem exists_load_iff : (∃ loaded, source.load tree = .ok loaded) ↔
    source.reference ∈ source.configurations ∧
      ∀ configuration ∈ source.configurations,
        ∃ report, source.loadReport tree configuration = .ok report := by
  constructor
  · rintro ⟨loaded, hload⟩
    obtain ⟨hlisted, reports, hreports, -⟩ := load_cases hload
    refine ⟨hlisted, ?_⟩
    intro configuration hconfiguration
    obtain ⟨report, hreport, -⟩ := Traverse.exists_of_mem_keys hreports hconfiguration
    exact ⟨report, hreport⟩
  · rintro ⟨hlisted, hreadable⟩
    have hreports : ∃ reports, source.configurations.mapM (fun configuration =>
        (source.loadReport tree configuration).map (configuration, ·)) = .ok reports := by
      rw [Traverse.exists_mapM_eq_ok_iff]
      intro configuration hconfiguration
      obtain ⟨report, hreport⟩ := hreadable configuration hconfiguration
      exact ⟨_, by rw [hreport]; rfl⟩
    obtain ⟨reports, hreports⟩ := hreports
    rw [load_of_listed hlisted, hreports]
    exact ⟨_, rfl⟩

/-- The reports of a loaded workload are exactly those of the listed configurations. -/
theorem getElem?_reports_of_load (h : source.load tree = .ok loaded) (configuration : String)
    (report : Report) : loaded.reports[configuration]? = some report ↔
      configuration ∈ source.configurations ∧
        source.loadReport tree configuration = .ok report := by
  obtain ⟨-, reports, hreports, rfl⟩ := load_cases h
  have hkeys : configuration ∈ source.configurations →
      configuration ∈ (ExtTreeMap.ofList reports : ExtTreeMap String Report) := by
    intro hlisted
    obtain ⟨found, -, hmem⟩ := Traverse.exists_of_mem_keys hreports hlisted
    rw [ExtTreeMap.mem_ofList, List.contains_iff_mem]
    exact List.mem_map_of_mem hmem
  unfold Workload.ofReports
  rw [Workload.getElem?_foldl_insertIfNew]
  cases hheld : (ExtTreeMap.ofList reports : ExtTreeMap String Report)[configuration]? with
  | none =>
      have habsent : configuration ∉ source.configurations := by
        intro hlisted
        have hmem := hkeys hlisted
        rw [ExtTreeMap.mem_iff_isSome_getElem?, hheld] at hmem
        simp at hmem
      simp [habsent]
  | some found =>
      obtain ⟨hmem, hfound⟩ :=
        (Traverse.mem_keyed_iff hreports _ _).mp (mem_of_getElem?_ofList hheld)
      simp [hmem, hfound]

theorem exists_report_of_load (h : source.load tree = .ok loaded) {configuration : String}
    (hlisted : configuration ∈ source.configurations) :
    ∃ report, loaded.reports[configuration]? = some report := by
  obtain ⟨-, reports, hreports, -⟩ := load_cases h
  obtain ⟨report, hreport, -⟩ := Traverse.exists_of_mem_keys hreports hlisted
  exact ⟨report, (getElem?_reports_of_load h _ _).mpr ⟨hlisted, hreport⟩⟩

end WorkloadSource

end DramSweep
