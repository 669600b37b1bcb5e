import DramSweep.Proofs.Report.WeightedSpeedup
import DramSweep.Proofs.Workload.Loading
import DramSweep.Proofs.Workload.Normalization
import DramSweep.Workload.Order
import DramSweep.Workload.Table

/-!
References and programs are aligned in every table. Reading leaves out a reference that is not
there, so the references of a report need not line up with the programs. A table of a workload of
several programs is only given when none was left out.
-/

namespace DramSweep

theorem Report.loadReferences_eq_map (tree : FileTree) (paths : List Path) :
    loadReferences tree paths = (paths.filterMap tree.open?).map ofBytes := by
  unfold loadReferences
  rw [List.map_filterMap]

/-- As many references as paths are those of all paths, in order. -/
theorem Report.loadReferences_of_length {tree : FileTree} {paths : List Path}
    (h : (loadReferences tree paths).length = paths.length) :
    ∃ files : List Bytes, paths.map tree.open? = files.map some ∧
      loadReferences tree paths = files.map ofBytes := by
  have hmap := loadReferences_eq_map tree paths
  refine ⟨paths.filterMap tree.open?, ?_, hmap⟩
  rw [hmap, List.length_map, List.filterMap_length_eq_length] at h
  rw [List.map_filterMap_some_eq_filter_map_isSome]
  symm
  rw [List.filter_eq_self, List.forall_mem_map]
  exact h

namespace WorkloadSource

/-- Where the reports of programs alone stand. -/
def alonePaths (source : WorkloadSource) (programs : List String) : List Path :=
  programs.map fun program => reportPath source.directory program source.reference

variable {tree : FileTree} {source : WorkloadSource} {programs : List String}

/-- A report that is read for a workload of several programs is empty, or has the references that
could be opened. -/
theorem loadReport_cases (hprograms : source.programs = some programs) {configuration : String}
    {report : Report} (h : source.loadReport tree configuration = .ok report) :
    report = .empty ∨ ∃ bytes,
      Report.read bytes (some (Report.loadReferences tree (source.alonePaths programs))) =
        .ok report := by
  have hpaths : source.referencePaths? = some (source.alonePaths programs) := by
    rw [referencePaths?, hprograms]
    rfl
  rw [loadReport_eq, hpaths] at h
  cases hopen : tree.open? (reportPath source.directory source.name configuration) with
  | none =>
      rw [hopen] at h
      cases h
      exact Or.inl rfl
  | some bytes =>
      rw [hopen] at h
      exact Or.inr ⟨bytes, h⟩

/-- A report with as many references as programs has one from the file of each program. -/
theorem exists_files_of_length (hprograms : source.programs = some programs)
    {configuration : String} {report : Report}
    (h : source.loadReport tree configuration = .ok report) (hne : report.references ≠ [])
    (hlength : report.references.length = programs.length) :
    ∃ files : List Bytes, (source.alonePaths programs).map tree.open? = files.map some ∧
      Report.loadReferences tree (source.alonePaths programs) = files.map Report.ofBytes ∧
      report.references = files.map Report.ofBytes := by
  rcases loadReport_cases hprograms h with rfl | ⟨bytes, hread⟩
  · exact absurd rfl hne
  · rw [Report.references_of_read hread] at hlength ⊢
    have hpaths : (source.alonePaths programs).length = programs.length := List.length_map _
    obtain ⟨files, hopen, hfiles⟩ := Report.loadReferences_of_length (hlength.trans hpaths.symm)
    exact ⟨files, hopen, hfiles, hfiles⟩

/-- A weighted speedup is over the references that could be opened, as many as there are cores. -/
theorem weightedSpeedup_of_loadReport (hprograms : source.programs = some programs)
    {configuration : String} {report : Report}
    (h : source.loadReport tree configuration = .ok report) {value : Quantity}
    (hvalue : report.get? "weighted_speedup" = some value) :
    ∃ ipc firsts, report.ipc? = some ipc ∧
      (Report.loadReferences tree (source.alonePaths programs)).map Report.firstIpc? =
        firsts.map some ∧
      firsts.length = ipc.length ∧
      value = .single (Number.sum (List.zipWith (· / ·) ipc firsts)) := by
  rcases loadReport_cases hprograms h with rfl | ⟨bytes, hread⟩
  · simp [Report.get?, Report.empty] at hvalue
  · obtain ⟨ipc, firsts, hipc, hfirsts, hlength, -, hsum⟩ :=
      Report.weightedSpeedup_of_read hread hvalue
    exact ⟨ipc, firsts, hipc, hfirsts, hlength, hsum⟩

/-- A report that is held after normalizing was read, and has other normalized metrics at most. -/
theorem exists_loadReport_of_normalizeEach {loaded : Workload}
    (hload : source.load tree = .ok loaded) {normalized : List String} {configuration : String}
    {report : Report}
    (hheld : (loaded.normalizeEach normalized).reports[configuration]? = some report) :
    ∃ earlier, source.loadReport tree configuration = .ok earlier ∧
      report.OnlyNormalized earlier := by
  have honly := Workload.onlyNormalized_normalizeEach loaded normalized
  obtain ⟨earlier, hearlier, hreport⟩ := honly.exists_report hheld
  exact ⟨earlier, ((getElem?_reports_of_load hload _ _).mp hearlier).2, hreport⟩

theorem programs_normalizeEach {loaded : Workload} (hload : source.load tree = .ok loaded)
    (normalized : List String) : (loaded.normalizeEach normalized).programs = source.programs := by
  obtain ⟨-, reports, -, rfl⟩ := load_cases hload
  exact (Workload.onlyNormalized_normalizeEach _ normalized).programs

end WorkloadSource

namespace Workload

variable {workload : Workload}

theorem referenceReport_eq_ok_iff (report : Report) :
    workload.referenceReport = .ok report ↔ workload.reports[workload.reference]? = some report := by
  unfold referenceReport
  cases workload.reports[workload.reference]? <;> simp

/-- A table that is written was given. -/
theorem exists_text_of_appendTo {table : Except MetricError String} {sink : String}
    (h : (appendTo table sink).1 = .ok ()) : ∃ text, table = .ok text := by
  cases table with
  | error e => cases h
  | ok text => exact ⟨text, rfl⟩

/-- A workload without a memory load has no feature. -/
theorem exists_load_of_feature {text : String} (h : workload.feature = .ok text) :
    ∃ load, workload.memoryLoad = .ok (some load) := by
  obtain ⟨reference, -, h⟩ := Traverse.bind_eq_ok_iff.mp h
  obtain ⟨load?, hload, h⟩ := Traverse.bind_eq_ok_iff.mp h
  obtain ⟨load, hdemand, -⟩ := Traverse.bind_eq_ok_iff.mp h
  cases load? with
  | none => cases hdemand
  | some load => exact ⟨load, hload⟩

/-- Both forms begin with the feature. -/
theorem exists_feature_of_table {metrics : List String} {sink : String}
    (h : (appendTo (workload.wide metrics) sink).1 = .ok () ∨
      (appendTo (workload.tidy metrics) sink).1 = .ok ()) :
    ∃ text, workload.feature = .ok text := by
  rcases h with hwide | htidy
  · obtain ⟨text, htable⟩ := exists_text_of_appendTo hwide
    obtain ⟨records, hrecords, -⟩ := Traverse.map_eq_ok_iff.mp htable
    obtain ⟨feature, hfeature, -⟩ := Traverse.bind_eq_ok_iff.mp hrecords
    exact ⟨feature, hfeature⟩
  · obtain ⟨text, htable⟩ := exists_text_of_appendTo htidy
    obtain ⟨records, hrecords, -⟩ := Traverse.map_eq_ok_iff.mp htable
    obtain ⟨feature, hfeature, -⟩ := Traverse.bind_eq_ok_iff.mp hrecords
    exact ⟨feature, hfeature⟩

/-- The memory load of several programs is the sum over their references, one for each program. -/
theorem memoryLoad_of_programs {programs : List String} {load : Float}
    (hprograms : workload.programs = some programs)
    (h : workload.memoryLoad = .ok (some load)) :
    ∃ reference loads, workload.reports[workload.reference]? = some reference ∧
      reference.references ≠ [] ∧ reference.references.length = programs.length ∧
      reference.references.map Report.mpki? = loads.map some ∧ load = Number.sum loads := by
  obtain ⟨reference, hreference, h⟩ := Traverse.bind_eq_ok_iff.mp h
  rw [hprograms] at h
  dsimp only at h
  by_cases hshort : reference.references.isEmpty || reference.references.length != programs.length
  · rw [if_pos hshort] at h
    cases h
  · rw [if_neg hshort] at h
    obtain ⟨loads, hloads, hsum⟩ := Option.map_eq_some_iff.mp (Except.ok.inj h)
    have haligned : reference.references ≠ [] ∧
        reference.references.length = programs.length := by
      simpa using hshort
    exact ⟨reference, loads, (referenceReport_eq_ok_iff reference).mp hreference, haligned.1,
      haligned.2, (Traverse.mapM_eq_some_iff _ _ _).mp hloads, hsum.symm⟩

end Workload

/-- A table of a workload of several programs is only written when the reference report of every
program could be read. Then the memory load is the sum of theirs, in the order of the programs, and
a weighted speedup compares core by core with the program that ran there. Normalizing before does
not change that. -/
theorem written_references_aligned {tree : FileTree} {source : WorkloadSource}
    {programs : List String} (hprograms : source.programs = some programs) {loaded : Workload}
    (hload : source.load tree = .ok loaded) (normalized : List String) {workload : Workload}
    (hworkload : workload = loaded.normalizeEach normalized) {metrics : List String}
    {sink : String} (hwritten : (Workload.appendTo (workload.wide metrics) sink).1 = .ok () ∨
      (Workload.appendTo (workload.tidy metrics) sink).1 = .ok ()) :
    programs ≠ [] ∧ ∃ files : List Bytes,
      programs.map (fun program =>
        tree.open? (reportPath source.directory program source.reference)) = files.map some ∧
      (∃ reference, workload.referenceReport = .ok reference ∧
        reference.references = files.map Report.ofBytes) ∧
      (∃ loads, files.map (fun bytes => (Report.ofBytes bytes).mpki?) = loads.map some ∧
        workload.load? = some (Number.sum loads)) ∧
      ∀ (configuration : String) (report : Report) (value : Quantity),
        workload.reports[configuration]? = some report →
        report.get? "weighted_speedup" = some value →
        ∃ ipc firsts, report.ipc? = some ipc ∧ ipc.length = programs.length ∧
          files.map (fun bytes => (Report.ofBytes bytes).firstIpc?) = firsts.map some ∧
          value = .single (Number.sum (List.zipWith (· / ·) ipc firsts)) := by
  subst hworkload
  have hsource := (WorkloadSource.programs_normalizeEach hload normalized).trans hprograms
  obtain ⟨_, hfeature⟩ := Workload.exists_feature_of_table hwritten
  obtain ⟨load, hmemory⟩ := Workload.exists_load_of_feature hfeature
  obtain ⟨reference, loads, hreference, hne, hlength, hloads, hsum⟩ :=
    Workload.memoryLoad_of_programs hsource hmemory
  obtain ⟨earlier, hearlier, honly⟩ :=
    WorkloadSource.exists_loadReport_of_normalizeEach hload hreference
  rw [honly.references] at hne hlength
  obtain ⟨files, hopen, hfiles, hreferences⟩ :=
    WorkloadSource.exists_files_of_length hprograms hearlier hne hlength
  have hheld := honly.references.trans hreferences
  rw [hreferences] at hne hlength
  rw [List.length_map] at hlength
  refine ⟨?_, files, ?_, ⟨reference, ?_, hheld⟩, ⟨loads, ?_, ?_⟩, ?_⟩
  · rintro rfl
    exact hne (by simpa using hlength)
  · simpa [WorkloadSource.alonePaths, Function.comp_def] using hopen
  · exact (Workload.referenceReport_eq_ok_iff reference).mpr hreference
  · simpa [hheld, Function.comp_def] using hloads
  · simp [Workload.load?, hmemory, hsum, Except.toOption]
  · intro configuration report value hreport hvalue
    obtain ⟨before, hbefore, hsame⟩ :=
      WorkloadSource.exists_loadReport_of_normalizeEach hload hreport
    rw [hsame.get?_eq (Workload.ne_normalizedName (by decide))] at hvalue
    obtain ⟨ipc, firsts, hipc, hfirsts, hcores, hspeedup⟩ :=
      WorkloadSource.weightedSpeedup_of_loadReport hprograms hbefore hvalue
    have halone : files.map (fun bytes => (Report.ofBytes bytes).firstIpc?) =
        firsts.map some := by
      simpa [hfiles, Function.comp_def] using hfirsts
    refine ⟨ipc, firsts, hsame.ipc?_eq.trans hipc, ?_, halone, hspeedup⟩
    calc
      ipc.length = firsts.length := hcores.symm
      _ = files.length := by simpa using (congrArg List.length halone).symm
      _ = programs.length := hlength

/-- The reports of a mix of two programs and of both programs alone. -/
def twoCoreTree : FileTree :=
  let file (lines : List String) := lines.flatMap fun line => Bytes.ofText (line ++ "\n")
  ((FileTree.ofWorkingDirectory []).withFile ⟨"stats/mix/DDR5.stats"⟩
    (file ["ramulator.record_insts_core_0 100", "ramulator.record_cycs_core_0 100",
      "ramulator.record_insts_core_1 100", "ramulator.record_cycs_core_1 200"])
    |>.withFile ⟨"stats/left/DDR5.stats"⟩
      (file ["ramulator.incoming_requests_per_channel 10", "ramulator.record_insts_core_0 100",
        "ramulator.record_cycs_core_0 50"])
    |>.withFile ⟨"stats/right/DDR5.stats"⟩
      (file ["ramulator.incoming_requests_per_channel 10", "ramulator.record_insts_core_0 200",
        "ramulator.record_cycs_core_0 200"]))

def twoCoreMix : WorkloadSource where
  directory := ⟨"stats"⟩
  name := "mix"
  configurations := ["DDR5"]
  reference := "DDR5"
  programs := some ["left", "right"]

theorem written_references_aligned_two_cores :
    ∃ loaded, twoCoreMix.load twoCoreTree = .ok loaded ∧
      (Workload.appendTo ((loaded.normalizeEach ["weighted_speedup"]).wide
        ["normalized_weighted_speedup"]) "").1 = .ok () ∧
      ∃ files : List Bytes,
        ["left", "right"].map (fun program =>
          twoCoreTree.open? (reportPath ⟨"stats"⟩ program "DDR5")) = files.map some ∧
        ∃ loads, files.map (fun bytes => (Report.ofBytes bytes).mpki?) = loads.map some ∧
          (loaded.normalizeEach ["weighted_speedup"]).load? = some (Number.sum loads) := by
  have htable : ((twoCoreMix.load twoCoreTree).toOption.bind fun loaded =>
      ((loaded.normalizeEach ["weighted_speedup"]).wide
        ["normalized_weighted_speedup"]).toOption).isSome := by
    decide +kernel
  obtain ⟨text, htext⟩ := Option.isSome_iff_exists.mp htable
  obtain ⟨loaded, hloaded, hwide⟩ := Option.bind_eq_some_iff.mp htext
  have hload := Traverse.toOption_eq_some_iff.mp hloaded
  have hwritten : (Workload.appendTo ((loaded.normalizeEach ["weighted_speedup"]).wide
      ["normalized_weighted_speedup"]) "").1 = .ok () := by
    rw [Traverse.toOption_eq_some_iff.mp hwide]
    rfl
  obtain ⟨-, files, hfiles, -, hloads, -⟩ :=
    written_references_aligned rfl hload ["weighted_speedup"] rfl (Or.inl hwritten)
  exact ⟨loaded, hload, hwritten, files, hfiles, hloads⟩

end DramSweep
