import DramSweep.Proofs.Report.WeightedSpeedup

/-!
What a report does not depend on. Lines about the full system reach their own table and nothing
else, wherever they stand among the other lines, and references bring weighted speedup and nothing
else. A report without a statistic of the simulator has no metric, with or without references.
-/

namespace DramSweep

open Std (ExtTreeMap)
open Traverse

namespace Statistic

/-- A line is foreign when its first word lies outside the simulator's namespace. A blank line has
no first word and counts as well. -/
def isForeign (line : String) : Bool :=
  (Text.words line.toList).head?.all fun first => !Catalog.isSimulatorName (String.ofList first)

/-- A foreign line gives a scalar of the full system or nothing. -/
theorem system_of_foreign {line : String} (h : isForeign line = true) {statistic : Statistic}
    (hstatistic : ofLine? line = some statistic) :
    ∃ name value, statistic = .system name value := by
  obtain ⟨⟨rawName, value⟩, hpair, hgiven⟩ := Option.bind_eq_some_iff.mp hstatistic
  obtain ⟨first, second, rest, hwords, -, -, hname, -⟩ :=
    (readPair?_eq_some_iff _ _ _).mp hpair
  have houtside : Catalog.isSimulatorName rawName = false := by
    simpa [isForeign, hwords, ← hname] using h
  cases (ofPair?_eq_some_iff _ _ _).mp hgiven with
  | memory _ hspace => simp [houtside] at hspace
  | @system canonical _ _ => exact ⟨canonical, value, rfl⟩
  | indexed hmem happend _ =>
      have hinside := Catalog.isSimulatorName_of_stem hmem ⟨_, happend⟩
      simp [houtside] at hinside

end Statistic

/-- Lists of lines that come from each other by putting in and taking out foreign lines. -/
inductive ForeignEdits : List String → List String → Prop where
  | unchanged (lines : List String) : ForeignEdits lines lines
  | inserted {lines before after : List String} {line : String}
      (h : ForeignEdits lines (before ++ after)) (hforeign : Statistic.isForeign line = true) :
      ForeignEdits lines (before ++ line :: after)
  | removed {lines before after : List String} {line : String}
      (h : ForeignEdits lines (before ++ line :: after))
      (hforeign : Statistic.isForeign line = true) : ForeignEdits lines (before ++ after)

namespace Counters

/-- The tables that metrics are derived from. -/
def withoutSystem (counters : Counters) : Counters :=
  { counters with system := ∅ }

theorem ofLines_concat (earlier : List String) (line : String) :
    ofLines (earlier ++ [line]) =
      (Statistic.ofLine? line).elim (ofLines earlier) (ofLines earlier).record := by
  unfold ofLines
  rw [List.filterMap_append]
  cases hline : Statistic.ofLine? line with
  | none => simp [hline]
  | some statistic => simp [hline, ofStatistics_concat]

/-- What a statistic does to the tables of the simulator is decided by these tables. -/
theorem withoutSystem_record {counters other : Counters}
    (h : counters.withoutSystem = other.withoutSystem) (statistic : Statistic) :
    (counters.record statistic).withoutSystem = (other.record statistic).withoutSystem := by
  obtain ⟨memory, system, indexed⟩ := counters
  obtain ⟨otherMemory, otherSystem, otherIndexed⟩ := other
  simp only [withoutSystem, Counters.mk.injEq, true_and] at h
  obtain ⟨rfl, rfl⟩ := h
  cases statistic <;> rfl

/-- A foreign line leaves the tables of the simulator as they would be without it, whatever comes
before and after. -/
theorem withoutSystem_ofLines_insert {line : String} (h : Statistic.isForeign line = true)
    (before after : List String) :
    (ofLines (before ++ line :: after)).withoutSystem =
      (ofLines (before ++ after)).withoutSystem := by
  induction after using List.reverseRecOn with
  | nil =>
      rw [List.append_nil, ofLines_concat]
      cases hline : Statistic.ofLine? line with
      | none => rfl
      | some statistic =>
          obtain ⟨name, value, rfl⟩ := Statistic.system_of_foreign h hline
          rfl
  | append_singleton after last ih =>
      rw [← List.cons_append, ← List.append_assoc, ← List.append_assoc, ofLines_concat,
        ofLines_concat]
      cases Statistic.ofLine? last with
      | none => exact ih
      | some statistic => exact withoutSystem_record ih statistic

/-- Any number of foreign lines put in or taken out leaves the tables of the simulator as they
are. -/
theorem withoutSystem_ofLines {lines edited : List String} (h : ForeignEdits lines edited) :
    (ofLines edited).withoutSystem = (ofLines lines).withoutSystem := by
  induction h with
  | unchanged => rfl
  | inserted _ hforeign ih => exact (withoutSystem_ofLines_insert hforeign _ _).trans ih
  | removed _ hforeign ih => exact (withoutSystem_ofLines_insert hforeign _ _).symm.trans ih

/-- No metric reads the scalars of the full system. -/
theorem derived_withoutSystem (counters : Counters) :
    counters.withoutSystem.derived = counters.derived := rfl

/-- Nothing can be derived where the simulator left no statistic. -/
theorem derived_of_no_statistic {counters : Counters} (hmemory : counters.memory = ∅)
    (hindexed : counters.indexed = ∅) : counters.derived = ∅ := by
  obtain ⟨memory, system, indexed⟩ := counters
  subst hmemory hindexed
  simp [derived, candidates, maxCpuCycles, ipc, requestRate, bankParallelism,
    effectiveBankParallelism, servingRequests, deepest?, depth?, dramLatency,
    absentPacketLatency, bandwidth, bandwidthUtilization, mpki, values?, entries?, ratio]

end Counters

namespace Report

/-- Two reports that differ in the scalars of the full system at most. -/
structure SameButSystem (first second : Report) : Prop where
  memory : first.counters.memory = second.counters.memory
  indexed : first.counters.indexed = second.counters.indexed
  derived : first.derived = second.derived
  references : first.references = second.references

/-- References are matched with the metrics of a report, whatever its tables hold. -/
theorem withReferences_of_counters (report : Report) (counters : Counters)
    (references : List Report) :
    ({ report with counters } : Report).withReferences references =
      (report.withReferences references).map fun result => { result with counters } := by
  unfold withReferences
  have hipc : ({ report with counters } : Report).ipc? = report.ipc? := rfl
  rw [hipc]
  cases report.ipc? with
  | none => rfl
  | some ipc =>
      dsimp only
      cases weightedSpeedup ipc (references.map firstIpc?) with
      | error e => rfl
      | ok speedup? => cases speedup? <;> rfl

/-- A file from which the same metrics are derived is read alike, whatever else its tables hold. -/
theorem read_of_derived {file edited : Bytes}
    (h : (Counters.ofBytes edited).derived = (Counters.ofBytes file).derived)
    (references : Option (List Report)) :
    read edited references = (read file references).map fun report =>
      { report with counters := .ofBytes edited } := by
  have hreport : ofBytes edited = { ofBytes file with counters := .ofBytes edited } := by
    unfold ofBytes ofCounters
    rw [h]
  cases references with
  | none =>
      unfold read
      rw [hreport]
      rfl
  | some references =>
      unfold read
      rw [hreport]
      exact withReferences_of_counters _ _ _

/-- A file without a statistic of the simulator is read whatever the references are, and nothing is
derived from it. -/
theorem read_of_no_statistic {bytes : Bytes} (hmemory : (Counters.ofBytes bytes).memory = ∅)
    (hindexed : (Counters.ofBytes bytes).indexed = ∅) (references : Option (List Report)) :
    read bytes references =
      .ok { counters := .ofBytes bytes, references := references.getD [] } := by
  have hderived := Counters.derived_of_no_statistic hmemory hindexed
  have hreport : ofBytes bytes = { counters := .ofBytes bytes } := by
    unfold ofBytes ofCounters
    rw [hderived]
  cases references with
  | none => exact congrArg Except.ok hreport
  | some references =>
      unfold read
      rw [hreport]
      simp [withReferences, ipc?, pure, Except.pure, bind, Except.bind]

end Report

/-- Statistics of the full system feed no derivation. Two files whose lines come from each other by
putting in and taking out lines outside the simulator's namespace are read alike: both stop the run
for the same reason, or both reports agree in all but the scalars of the full system. -/
theorem foreign_lines_feed_nothing {file edited : Bytes}
    (h : ForeignEdits file.lines edited.lines) (references : Option (List Report)) :
    EndAlike Report.SameButSystem (Report.read file references)
      (Report.read edited references) := by
  have hcounters : (Counters.ofBytes edited).withoutSystem =
      (Counters.ofBytes file).withoutSystem := Counters.withoutSystem_ofLines h
  have hderived : (Counters.ofBytes edited).derived = (Counters.ofBytes file).derived := by
    rw [← Counters.derived_withoutSystem, hcounters, Counters.derived_withoutSystem]
  rw [Report.read_of_derived hderived]
  cases hread : Report.read file references with
  | error e => exact .error e
  | ok report =>
      have htables := Report.counters_of_read hread
      refine .ok ⟨?_, ?_, rfl, rfl⟩
      · rw [htables]
        exact (congrArg Counters.memory hcounters).symm
      · rw [htables]
        exact (congrArg Counters.indexed hcounters).symm

/-- The counts of two cores. -/
def coreLines : List String :=
  ["ramulator.record_insts_core_0 100", "ramulator.record_cycs_core_0 50",
    "ramulator.record_insts_core_1 300", "ramulator.record_cycs_core_1 100"]

/-- The counts behind a bandwidth of the full system. -/
def quietFile : Bytes :=
  ("system.mem_ctrls.bw_read::total 7" :: coreLines).flatMap fun line =>
    Bytes.ofText (line ++ "\n")

/-- The counts in front of an ipc of the full system and a name that only resembles the
simulator's. -/
def crowdedFile : Bytes :=
  (coreLines ++ ["system.cpu.ipc 9", "ramulators.record_cycs_core_2 8"]).flatMap fun line =>
    Bytes.ofText (line ++ "\n")

theorem foreign_lines_feed_nothing_two_cores :
    ForeignEdits quietFile.lines crowdedFile.lines ∧
      EndAlike Report.SameButSystem (Report.read quietFile none)
        (Report.read crowdedFile none) ∧
      EndAlike Report.SameButSystem (Report.read quietFile (some []))
        (Report.read crowdedFile (some [])) ∧
      Report.read crowdedFile (some []) = .error (.referenceCount 0 2) := by
  have hquiet : quietFile.lines = [] ++ "system.mem_ctrls.bw_read::total 7" :: coreLines := by
    decide +kernel
  have hcrowded : crowdedFile.lines =
      (coreLines ++ ["system.cpu.ipc 9"]) ++ ["ramulators.record_cycs_core_2 8"] := by
    decide +kernel
  have hcounts : ForeignEdits quietFile.lines (coreLines ++ []) := by
    rw [List.append_nil, hquiet]
    exact .removed (.unchanged _) (by decide +kernel)
  have hipc : ForeignEdits quietFile.lines (coreLines ++ ["system.cpu.ipc 9"] ++ []) := by
    rw [List.append_nil]
    exact .inserted hcounts (by decide +kernel)
  have hedits : ForeignEdits quietFile.lines crowdedFile.lines := by
    rw [hcrowded]
    exact .inserted hipc (by decide +kernel)
  have hrefused : failure? (Report.read crowdedFile (some [])) = some (.referenceCount 0 2) := by
    decide +kernel
  exact ⟨hedits, foreign_lines_feed_nothing hedits none,
    foreign_lines_feed_nothing hedits (some []), failure?_eq_some_iff.mp hrefused⟩

/-- References influence nothing but weighted speedup. A report that is read with references has the
tables and the metrics of the report without them, weighted speedup aside, which a report without
references never has; and it holds the references as they are given. Where the file has no statistic
of the simulator, both reports have no metric and differ in the references alone. -/
theorem references_bring_speedup_alone {bytes : Bytes} {references : List Report}
    {report : Report} (h : Report.read bytes (some references) = .ok report) :
    ∃ plain, Report.read bytes none = .ok plain ∧
      report.counters = plain.counters ∧
      (∀ name, name ≠ "weighted_speedup" → report.derived[name]? = plain.derived[name]?) ∧
      "weighted_speedup" ∉ plain.derived ∧
      report.references = references ∧ plain.references = [] ∧
      (plain.counters.memory = ∅ → plain.counters.indexed = ∅ →
        plain.derived = ∅ ∧ report = { plain with references }) := by
  refine ⟨.ofBytes bytes, rfl, Report.counters_of_read h, ?_,
    Report.not_mem_derived_weightedSpeedup bytes, Report.references_of_read h, rfl, ?_⟩
  · intro name hname
    exact Report.derived_of_read h hname
  · intro hmemory hindexed
    have hread := Report.read_of_no_statistic hmemory hindexed
    have hplain : Report.ofBytes bytes = { counters := .ofBytes bytes } :=
      Except.ok.inj (hread none)
    have hreport := Except.ok.inj (h.symm.trans (hread (some references)))
    refine ⟨Counters.derived_of_no_statistic hmemory hindexed, ?_⟩
    rw [hplain]
    exact hreport

theorem references_bring_speedup_alone_two_cores :
    ∃ report plain, Report.read quietFile (some [.ofBytes crowdedFile, .ofBytes crowdedFile]) =
        .ok report ∧ Report.read quietFile none = .ok plain ∧
      report.scalar? "weighted_speedup" = some 2.5 ∧ "weighted_speedup" ∉ plain.derived ∧
      report.derived["ipc"]? = plain.derived["ipc"]? := by
  have hspeedup : ((Report.read quietFile
      (some [.ofBytes crowdedFile, .ofBytes crowdedFile])).toOption.bind
        (·.scalar? "weighted_speedup")) = some 2.5 := by
    decide +kernel
  obtain ⟨report, hreport, hvalue⟩ := Option.bind_eq_some_iff.mp hspeedup
  have hread := toOption_eq_some_iff.mp hreport
  obtain ⟨plain, hplain, -, hmetrics, habsent, -⟩ := references_bring_speedup_alone hread
  exact ⟨report, plain, hread, hplain, hvalue, habsent, hmetrics "ipc" (by decide)⟩

end DramSweep
