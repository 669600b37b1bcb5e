import DramSweep.Proofs.Workload.References

/-!
What a weighted speedup from files is over: the references that could be opened, and not the ones
that were listed. A reference that is not there is passed over before references and cores are
counted, so a list that is too long may come out at the right number with every program moved up.
Listed references and cores are aligned exactly when there are equally many of them.
-/

namespace DramSweep

variable {tree : FileTree}

/-- Files that could all be opened are the ones that are kept. -/
theorem filterMap_open?_of_map {paths : List Path} {files : List Bytes}
    (h : paths.map tree.open? = files.map some) : paths.filterMap tree.open? = files := by
  calc
    paths.filterMap tree.open? = (paths.map tree.open?).filterMap id := by simp
    _ = (files.map some).filterMap id := by rw [h]
    _ = files := by simp

namespace Report

/-- None of the listed references is passed over exactly when as many are kept as were listed. -/
theorem length_opened_eq_iff (tree : FileTree) (paths : List Path) :
    (paths.filterMap tree.open?).length = paths.length ↔
      paths.map tree.open? = (paths.filterMap tree.open?).map some := by
  constructor
  · intro h
    have hloaded : (loadReferences tree paths).length = paths.length := by
      rw [loadReferences_eq_map, List.length_map, h]
    obtain ⟨files, hopen, -⟩ := loadReferences_of_length hloaded
    rw [filterMap_open?_of_map hopen, hopen]
  · intro h
    simpa using (congrArg List.length h).symm

/-- A report that has a weighted speedup is read from a file that is there. -/
theorem read_of_loadAgainst {path : Path} {references : List Path} {report : Report}
    (h : loadAgainst tree path references = .ok report) {value : Quantity}
    (hvalue : report.get? "weighted_speedup" = some value) :
    ∃ bytes, tree.open? path = some bytes ∧
      read bytes (some (loadReferences tree references)) = .ok report := by
  unfold loadAgainst at h
  cases hopen : tree.open? path with
  | none =>
      rw [hopen] at h
      cases h
      simp [get?, empty] at hvalue
  | some bytes =>
      rw [hopen] at h
      exact ⟨bytes, rfl, h⟩

end Report

/-- A weighted speedup from files compares core by core with the references that could be opened, in
the order of their list and as many as there are cores. They are the listed references, each at its
position, exactly when as many were listed as there are cores. -/
theorem speedup_over_opened_references {path : Path} {references : List Path} {report : Report}
    (hload : Report.loadAgainst tree path references = .ok report) {value : Quantity}
    (hvalue : report.get? "weighted_speedup" = some value) :
    ∃ ipc firsts opened, report.ipc? = some ipc ∧ opened = references.filterMap tree.open? ∧
      report.references = opened.map Report.ofBytes ∧ opened.length = ipc.length ∧
      opened.map (fun bytes => (Report.ofBytes bytes).firstIpc?) = firsts.map some ∧
      value = .single (Number.sum (List.zipWith (· / ·) ipc firsts)) ∧
      (references.length = ipc.length ↔ references.map tree.open? = opened.map some) := by
  obtain ⟨bytes, -, hread⟩ := Report.read_of_loadAgainst hload hvalue
  obtain ⟨ipc, firsts, hipc, hfirsts, hcores, -, hsum⟩ :=
    Report.weightedSpeedup_of_read hread hvalue
  have hreferences := Report.references_of_read hread
  rw [Report.loadReferences_eq_map] at hreferences hfirsts
  have hopened : (references.filterMap tree.open?).length = ipc.length := by
    rw [← hcores]
    simpa using congrArg List.length hfirsts
  refine ⟨ipc, firsts, _, hipc, rfl, hreferences, hopened, ?_, hsum, ?_⟩
  · simpa [Function.comp_def] using hfirsts
  · rw [← Report.length_opened_eq_iff, hopened, eq_comm]

/-- A single number that is found is the value of its metric. -/
theorem Report.get?_of_scalar? {report : Report} {name : String} {value : Float}
    (h : report.scalar? name = some value) : report.get? name = some (.single value) := by
  unfold scalar? at h
  split at h
  · rename_i found hfound
    cases h
    exact hfound
  · cases h

/-- The report of two cores, those of two programs alone, and none of a third program. -/
def threeProgramTree : FileTree :=
  let counts (core insts : String) := ["ramulator.record_insts_core_" ++ core ++ " " ++ insts,
    "ramulator.record_cycs_core_" ++ core ++ " 100"]
  let file (lines : List String) := Entry.file (lines.flatMap fun line =>
    Bytes.ofText (line ++ "\n"))
  { entries := .ofList [(["mix"], file (counts "0" "100" ++ counts "1" "50")),
      (["left"], file (counts "0" "200")), (["right"], file (counts "0" "100"))] }

/-- What is shown of a report with a speedup: the speedup and the instructions per cycle. -/
def shownSpeedup? (report : Report) : Option (Float × List Float) :=
  (report.scalar? "weighted_speedup").bind fun speedup =>
    report.ipc?.map fun ipc => (speedup, ipc)

theorem exists_report_of_shownSpeedup (references : List Path) (speedup : Float) (ipc : List Float)
    (h : (Report.loadAgainst threeProgramTree ⟨"mix"⟩ references).toOption.bind shownSpeedup? =
      some (speedup, ipc)) :
    ∃ report, Report.loadAgainst threeProgramTree ⟨"mix"⟩ references = .ok report ∧
      report.get? "weighted_speedup" = some (.single speedup) ∧ report.ipc? = some ipc := by
  obtain ⟨report, hreport, hshown⟩ := Option.bind_eq_some_iff.mp h
  obtain ⟨_, hspeedup, hmap⟩ := Option.bind_eq_some_iff.mp hshown
  obtain ⟨_, hipc, hpair⟩ := Option.map_eq_some_iff.mp hmap
  cases hpair
  exact ⟨report, Traverse.toOption_eq_some_iff.mp hreport, Report.get?_of_scalar? hspeedup, hipc⟩

theorem speedup_over_opened_references_two_cores :
    ∃ report, Report.loadAgainst threeProgramTree ⟨"mix"⟩ [⟨"left"⟩, ⟨"right"⟩] = .ok report ∧
      report.get? "weighted_speedup" = some (.single 1) ∧
      ∃ opened : List Bytes,
        [⟨"left"⟩, ⟨"right"⟩].map threeProgramTree.open? = opened.map some ∧
        report.references = opened.map Report.ofBytes := by
  obtain ⟨report, hload, hvalue, hipc⟩ :=
    exists_report_of_shownSpeedup [⟨"left"⟩, ⟨"right"⟩] 1 [1, 0.5] (by decide +kernel)
  obtain ⟨ipc, _, opened, hcores, -, hreferences, -, -, -, haligned⟩ :=
    speedup_over_opened_references hload hvalue
  cases hcores.symm.trans hipc
  exact ⟨report, hload, hvalue, opened, haligned.mp rfl, hreferences⟩

/-- Of three listed references for two cores the first one is not there. The first core is compared
with the second reference and the second core with the third one, and the report has a weighted
speedup all the same. -/
theorem missing_reference_moves_programs_up :
    ∃ report, Report.loadAgainst threeProgramTree ⟨"mix"⟩ [⟨"gone"⟩, ⟨"left"⟩, ⟨"right"⟩] =
        .ok report ∧
      report.get? "weighted_speedup" = some (.single 1) ∧ report.ipc? = some [1, 0.5] ∧
      [⟨"gone"⟩, ⟨"left"⟩, ⟨"right"⟩].map (fun path =>
        (threeProgramTree.open? path).map fun bytes => (Report.ofBytes bytes).firstIpc?) =
          [none, some (some 2), some (some 1)] ∧
      Number.sum [1 / 2, 0.5 / 1] = 1 := by
  obtain ⟨report, hload, hvalue, hipc⟩ :=
    exists_report_of_shownSpeedup [⟨"gone"⟩, ⟨"left"⟩, ⟨"right"⟩] 1 [1, 0.5] (by decide +kernel)
  exact ⟨report, hload, hvalue, hipc, by decide +kernel, by decide +kernel⟩

end DramSweep
