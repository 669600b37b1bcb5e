import DramSweep.Proofs.Analysis.Gathering
import DramSweep.Proofs.FileTree.Query

/-!
Which files an analysis opens: the report of each of its workloads in every listed configuration
and, once that is there, the reports of the programs alone in the reference configuration. Gathering
reads nothing else.
-/

namespace DramSweep

/-- Opens a report, and then its references where there are any. -/
def Report.query (path : Path) (references? : Option (List Path)) :
    FileQuery (Except MetricError Report) :=
  .opening path fun
    | none => .done (.ok .empty)
    | some bytes =>
      match references? with
      | none => .done (read bytes none)
      | some references => (FileQuery.openEach references).map fun found =>
          read bytes (some ((found.filterMap id).map ofBytes))

theorem Report.run_query (tree : FileTree) (path : Path) (references? : Option (List Path)) :
    (query path references?).run tree = match tree.open? path with
      | none => .ok .empty
      | some bytes => read bytes (references?.map (loadReferences tree)) := by
  unfold query FileQuery.run
  cases tree.open? path with
  | none => rfl
  | some bytes =>
      cases references? with
      | none => rfl
      | some references =>
          dsimp only
          rw [FileQuery.run_map, FileQuery.run_openEach, List.filterMap_map, Function.id_comp,
            Option.map_some, loadReferences_eq_map]

/-- No other path is opened than that of the report and those of its references. -/
theorem Report.mem_opened_query {tree : FileTree} {path opened : Path}
    {references? : Option (List Path)} (h : opened ∈ (query path references?).opened tree) :
    opened = path ∨ ∃ references, references? = some references ∧ opened ∈ references := by
  unfold query FileQuery.opened at h
  rcases List.mem_cons.mp h with hreport | hrest
  · exact Or.inl hreport
  · cases hfound : tree.open? path with
    | none =>
        rw [hfound] at hrest
        cases hrest
    | some bytes =>
        rw [hfound] at hrest
        cases references? with
        | none => cases hrest
        | some references =>
            dsimp only at hrest
            rw [FileQuery.opened_map, FileQuery.opened_openEach] at hrest
            exact Or.inr ⟨references, rfl, hrest⟩

namespace WorkloadSource

variable {tree : FileTree} {source : WorkloadSource}

def reportQuery (source : WorkloadSource) (configuration : String) :
    FileQuery (Except MetricError (String × Report)) :=
  (Report.query (reportPath source.directory source.name configuration)
    source.referencePaths?).map fun report => report.map (configuration, ·)

/-- Opens the reports of all configurations, or none unless the reference is listed. -/
def query (source : WorkloadSource) : FileQuery (Except MetricError Workload) :=
  if source.reference ∈ source.configurations then
    (FileQuery.traverse source.reportQuery source.configurations).map fun reports =>
      reports.map fun reports => Workload.ofReports source.name source.configurations
        source.reference source.programs (.ofList reports)
  else .done (.error (.referenceNotListed source.reference (Text.quoteList source.configurations)))

theorem run_query : source.query.run tree = source.load tree := by
  unfold query
  by_cases hlisted : source.reference ∈ source.configurations
  · have hreport : ∀ configuration, (source.reportQuery configuration).run tree =
        (source.loadReport tree configuration).map (configuration, ·) := by
      intro configuration
      rw [reportQuery, FileQuery.run_map]
      exact congrArg (Except.map _)
        ((Report.run_query tree _ _).trans (loadReport_eq tree source configuration).symm)
    rw [if_pos hlisted, FileQuery.run_map, FileQuery.run_traverse, load_of_listed hlisted]
    simp only [hreport]
  · rw [if_neg hlisted, load_of_not_listed hlisted]
    rfl

/-- What is opened for a workload is a report of its own, or that of one of its programs in the
reference configuration. The reference is listed then. -/
theorem mem_opened_query {path : Path} (h : path ∈ source.query.opened tree) :
    (∃ configuration ∈ source.configurations,
      path = reportPath source.directory source.name configuration) ∨
    source.reference ∈ source.configurations ∧ ∃ programs, source.programs = some programs ∧
      ∃ program ∈ programs, path = reportPath source.directory program source.reference := by
  unfold query at h
  by_cases hlisted : source.reference ∈ source.configurations
  · rw [if_pos hlisted, FileQuery.opened_map] at h
    obtain ⟨configuration, hconfiguration, hopened⟩ := FileQuery.exists_of_mem_opened_traverse h
    rw [reportQuery, FileQuery.opened_map] at hopened
    rcases Report.mem_opened_query hopened with hreport | ⟨references, hreferences, hmem⟩
    · exact Or.inl ⟨configuration, hconfiguration, hreport⟩
    · obtain ⟨programs, hprograms, rfl⟩ := Option.map_eq_some_iff.mp hreferences
      obtain ⟨program, hprogram, rfl⟩ := List.mem_map.mp hmem
      exact Or.inr ⟨hlisted, programs, hprograms, program, hprogram, rfl⟩
  · rw [if_neg hlisted] at h
    cases h

end WorkloadSource

namespace Analysis

variable {tree : FileTree} {plan : AnalysisPlan}

def queryOne (plan : AnalysisPlan) (workload : String × Option (List String)) :
    FileQuery (Except MetricError Workload) :=
  (source plan workload.1 workload.2).query.map fun loaded =>
    loaded.bind (normalizeOrKeep (TableGroup.performance (isMix plan)))

/-- Gathering as a computation that opens files. -/
def query (plan : AnalysisPlan) : FileQuery (Except AnalysisError (List Workload)) :=
  match programLists plan with
  | .error e => .done (.error e)
  | .ok lists =>
    (FileQuery.traverse (queryOne plan) (plan.workloads.zip lists)).map fun gathered =>
      (gathered.mapError .stat).map Workload.heaviestFirst

theorem run_query (tree : FileTree) (plan : AnalysisPlan) :
    (query plan).run tree = gather tree plan := by
  have hone : ∀ workload, (queryOne plan workload).run tree =
      gatherOne tree plan workload.1 workload.2 := by
    intro workload
    rw [queryOne, FileQuery.run_map, WorkloadSource.run_query]
    rfl
  unfold query gather
  cases programLists plan with
  | error e => rfl
  | ok lists =>
      dsimp only [bind, Except.bind]
      rw [FileQuery.run_map, FileQuery.run_traverse]
      simp only [hone]
      cases (plan.workloads.zip lists).mapM fun workload =>
        gatherOne tree plan workload.1 workload.2 <;> rfl

/-- The programs of a workload are one of the lists. -/
theorem mem_programLists {lists : List (Option (List String))} (h : programLists plan = .ok lists)
    {programs : List String} (hprograms : some programs ∈ lists) :
    ∃ given, plan.programLists = some given ∧ programs ∈ given := by
  unfold programLists at h
  cases hgiven : plan.programLists with
  | none =>
      rw [hgiven] at h
      cases h
      cases List.eq_of_mem_replicate hprograms
  | some given =>
      rw [hgiven] at h
      dsimp only at h
      split at h
      · cases h
        exact ⟨given, rfl, by simpa using hprograms⟩
      · cases h

/-- An analysis opens reports of its workloads in listed configurations, and with a listed reference
also the reports of their programs there. -/
theorem mem_opened_query {path : Path} (h : path ∈ (query plan).opened tree) :
    (∃ name ∈ plan.workloads, ∃ configuration ∈ plan.configurations,
      path = reportPath plan.reportDirectory name configuration) ∨
    plan.reference ∈ plan.configurations ∧ ∃ given, plan.programLists = some given ∧
      ∃ programs ∈ given, ∃ program ∈ programs,
        path = reportPath plan.reportDirectory program plan.reference := by
  unfold query at h
  cases hlists : programLists plan with
  | error e =>
      rw [hlists] at h
      cases h
  | ok lists =>
      rw [hlists] at h
      dsimp only at h
      rw [FileQuery.opened_map] at h
      obtain ⟨⟨name, programs?⟩, hpair, hopened⟩ := FileQuery.exists_of_mem_opened_traverse h
      obtain ⟨hname, hprograms⟩ := List.of_mem_zip hpair
      rw [queryOne, FileQuery.opened_map] at hopened
      rcases WorkloadSource.mem_opened_query hopened with
        ⟨configuration, hconfiguration, hreport⟩ |
        ⟨hlisted, programs, hsome, program, hprogram, hreference⟩
      · exact Or.inl ⟨name, hname, configuration, hconfiguration, hreport⟩
      · cases (hsome : programs? = some programs)
        obtain ⟨given, hgiven, hmem⟩ := mem_programLists hlists hprograms
        exact Or.inr ⟨hlisted, given, hgiven, programs, hmem, program, hprogram, hreference⟩

end Analysis

end DramSweep
