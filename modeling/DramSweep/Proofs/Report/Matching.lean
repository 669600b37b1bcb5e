import DramSweep.Proofs.Report.WeightedSpeedup

/-!
Whether references match the cores of a report. Reading stops the run exactly when the programs
alone are all known and are not as many as the cores, of which there are several; a report that is
read has a weighted speedup exactly when they are known and none of them is at zero.
-/

namespace DramSweep

open Std (ExtTreeMap)

namespace Report

/-- The cores of a report and references that are all known, but are not as many. -/
def Unmatched (bytes : Bytes) (references : List Report) : Prop :=
  ∃ ipc, (ofBytes bytes).ipc? = some ipc ∧ 1 < ipc.length ∧
    (∀ reference ∈ references, reference.firstIpc?.isSome) ∧ references.length ≠ ipc.length

/-- Nothing else keeps a file from being read. -/
theorem exists_read_iff (bytes : Bytes) (references : List Report) :
    (∃ report, read bytes (some references) = .ok report) ↔ ¬Unmatched bytes references := by
  change (∃ report, (ofBytes bytes).withReferences references = .ok report) ↔ _
  unfold withReferences Unmatched
  cases (ofBytes bytes).ipc? with
  | none => simp [bind, Except.bind, pure, Except.pure]
  | some ipc =>
      have hmapped : (∀ first? ∈ references.map firstIpc?, first?.isSome) ↔
          ∀ reference ∈ references, reference.firstIpc?.isSome := List.forall_mem_map
      cases hspeedup : weightedSpeedup ipc (references.map firstIpc?) with
      | error e =>
          have hunmatched := (weightedSpeedup_eq_error_iff.mp hspeedup).1
          rw [hmapped, List.length_map] at hunmatched
          refine iff_of_false ?_ (not_not_intro ⟨ipc, rfl, hunmatched⟩)
          simp [bind, Except.bind, hspeedup]
      | ok speedup? =>
          have hmatched : ¬(1 < ipc.length ∧
              (∀ reference ∈ references, reference.firstIpc?.isSome) ∧
              references.length ≠ ipc.length) := by
            intro hunmatched
            rw [← hmapped, ← List.length_map firstIpc?] at hunmatched
            cases hspeedup.symm.trans (weightedSpeedup_eq_error_iff.mpr ⟨hunmatched, rfl⟩)
          simp [bind, Except.bind, pure, Except.pure, hspeedup, hmatched]

variable {bytes : Bytes} {references : List Report} {report : Report}

/-- A report that is read with references has the weighted speedup that its cores have over them,
and no other. -/
theorem derived_weightedSpeedup_of_read (h : read bytes (some references) = .ok report) :
    report.derived["weighted_speedup"]? = report.ipc?.bind fun ipc =>
      ((weightedSpeedup ipc (references.map firstIpc?)).toOption.bind id).map .single := by
  have habsent : (ofBytes bytes).derived["weighted_speedup"]? = none :=
    ExtTreeMap.getElem?_eq_none (not_mem_derived_weightedSpeedup bytes)
  rw [ipc?_of_read h]
  change (ofBytes bytes).withReferences references = .ok report at h
  cases hipc : (ofBytes bytes).ipc? with
  | none =>
      unfold withReferences at h
      rw [hipc] at h
      cases h
      exact habsent
  | some ipc =>
      cases hspeedup : weightedSpeedup ipc (references.map firstIpc?) with
      | error e =>
          unfold withReferences at h
          simp [hipc, hspeedup, bind, Except.bind] at h
      | ok speedup? =>
          obtain ⟨result, hresult, hderived⟩ := withReferences_of_speedup hipc hspeedup
          cases hresult.symm.trans h
          rw [hderived, habsent, Option.or_none, Option.bind_some, hspeedup]
          rfl

/-- References with a report are as many as its cores, as soon as all of them are known. -/
theorem length_eq_of_read (h : read bytes (some references) = .ok report) {ipc : List Float}
    (hipc : report.ipc? = some ipc) (hcores : 1 < ipc.length)
    (hknown : ∀ reference ∈ references, reference.firstIpc?.isSome) :
    references.length = ipc.length := by
  by_contra hlength
  rw [ipc?_of_read h] at hipc
  exact (exists_read_iff bytes references).mp ⟨report, h⟩ ⟨ipc, hipc, hcores, hknown, hlength⟩

theorem firstIpc?_eq_some_iff (reference : Report) (first : Float) :
    reference.firstIpc? = some first ↔ ∃ rest, reference.ipc? = some (first :: rest) := by
  unfold firstIpc?
  cases reference.ipc? with
  | none => simp
  | some ipc => simp [List.head?_eq_some_iff]

/-- References that are all known are known by a list of first values. -/
theorem exists_firsts (hknown : ∀ reference ∈ references, reference.firstIpc?.isSome) :
    ∃ firsts, references.map firstIpc? = List.map some firsts := by
  obtain ⟨firsts, hfirsts⟩ := Option.isSome_iff_exists.mp
    ((Traverse.isSome_mapM_iff firstIpc? references).mpr hknown)
  exact ⟨firsts, (Traverse.mapM_eq_some_iff _ _ _).mp hfirsts⟩

/-- A weighted speedup is that of several cores over as many references, known and not at zero. -/
theorem derived_weightedSpeedup_iff (h : read bytes (some references) = .ok report)
    (value : Quantity) : report.derived["weighted_speedup"]? = some value ↔
      ∃ ipc firsts, report.ipc? = some ipc ∧ 1 < ipc.length ∧
        references.map firstIpc? = List.map some firsts ∧ firsts.length = ipc.length ∧
        (∀ first ∈ firsts, first != 0) ∧
        value = .single (Number.sum (List.zipWith (· / ·) ipc firsts)) := by
  have hspeedup : ∀ ipc, ((weightedSpeedup ipc (references.map firstIpc?)).toOption.bind id).map
      Quantity.single = some value ↔ ∃ speedup, weightedSpeedup ipc (references.map firstIpc?) =
        .ok (some speedup) ∧ .single speedup = value := by
    intro ipc
    cases weightedSpeedup ipc (references.map firstIpc?) with
    | error e => simp [Except.toOption]
    | ok speedup? => simp [Except.toOption, Option.map_eq_some_iff]
  rw [derived_weightedSpeedup_of_read h, Option.bind_eq_some_iff]
  simp only [hspeedup, weightedSpeedup_eq_some_iff]
  constructor
  · rintro ⟨ipc, hipc, _, ⟨hcores, firsts, hfirsts, hlength, hnonzero, rfl⟩, rfl⟩
    exact ⟨ipc, firsts, hipc, hcores, hfirsts, hlength, hnonzero, rfl⟩
  · rintro ⟨ipc, firsts, hipc, hcores, hfirsts, hlength, hnonzero, rfl⟩
    exact ⟨ipc, hipc, _, ⟨hcores, firsts, hfirsts, hlength, hnonzero, rfl⟩, rfl⟩

/-- That there is a reference for each core goes without saying: reading stops where there is
not. -/
theorem mem_derived_weightedSpeedup_iff (h : read bytes (some references) = .ok report) :
    "weighted_speedup" ∈ report.derived ↔ ∃ ipc, report.ipc? = some ipc ∧ 1 < ipc.length ∧
      ∀ reference ∈ references, ∃ first, reference.firstIpc? = some first ∧ first != 0 := by
  rw [ExtTreeMap.mem_iff_isSome_getElem?, Option.isSome_iff_exists]
  simp only [derived_weightedSpeedup_iff h]
  constructor
  · rintro ⟨_, ipc, firsts, hipc, hcores, hfirsts, -, hnonzero, -⟩
    refine ⟨ipc, hipc, hcores, fun reference hreference => ?_⟩
    have hmem : reference.firstIpc? ∈ List.map some firsts := by
      rw [← hfirsts]
      exact List.mem_map_of_mem hreference
    obtain ⟨first, hfirst, heq⟩ := List.mem_map.mp hmem
    exact ⟨first, heq.symm, hnonzero first hfirst⟩
  · rintro ⟨ipc, hipc, hcores, husable⟩
    have hknown : ∀ reference ∈ references, reference.firstIpc?.isSome := by
      intro reference hreference
      obtain ⟨first, hfirst, -⟩ := husable reference hreference
      exact Option.isSome_iff_exists.mpr ⟨first, hfirst⟩
    obtain ⟨firsts, hfirsts⟩ := exists_firsts hknown
    have hlength : firsts.length = ipc.length := by
      rw [← length_eq_of_read h hipc hcores hknown]
      simpa using (congrArg List.length hfirsts).symm
    refine ⟨_, ipc, firsts, hipc, hcores, hfirsts, hlength, ?_, rfl⟩
    intro first hmem
    obtain ⟨reference, hreference, hfirst⟩ := List.mem_map.mp
      (hfirsts ▸ List.mem_map_of_mem hmem : some first ∈ references.map firstIpc?)
    obtain ⟨found, hfound, hnonzero⟩ := husable reference hreference
    cases hfirst.symm.trans hfound
    exact hnonzero

/-- Every file is read or stops the run. -/
theorem exists_error_iff (bytes : Bytes) (references : Option (List Report)) :
    (∃ e, read bytes references = .error e) ↔
      ∃ given, references = some given ∧ Unmatched bytes given := by
  cases references with
  | none => simp [read]
  | some given =>
      simp only [Option.some.injEq, exists_eq_left', ← (exists_read_iff bytes given).not_left]
      cases read bytes (some given) <;> simp

end Report

/-- Reading a file stops the run exactly when references are given, the report has the instructions
per cycle of two or more cores, every reference has those of its first core, and references and
cores are not equally many; without references it never does. A report that is read has a weighted
speedup exactly when references are given, it has those of two or more cores, and every reference
has those of its first core and they are not zero; it is the sum over the cores of their quotients,
from left to right. -/
theorem speedup_or_stop (bytes : Bytes) (references : Option (List Report)) :
    ((∃ e, Report.read bytes references = .error e ∧ e.isFatal = true) ↔
      ∃ given ipc, references = some given ∧ (Report.ofBytes bytes).ipc? = some ipc ∧
        2 ≤ ipc.length ∧
        (∀ reference ∈ given, ∃ first rest, reference.ipc? = some (first :: rest)) ∧
        given.length ≠ ipc.length) ∧
    (∀ e, Report.read bytes references = .error e → e.isFatal = true) ∧
    ∀ report, Report.read bytes references = .ok report →
      ("weighted_speedup" ∈ report.derived ↔
        ∃ given ipc, references = some given ∧ report.ipc? = some ipc ∧ 2 ≤ ipc.length ∧
          ∀ reference ∈ given, ∃ first rest, reference.ipc? = some (first :: rest) ∧ first != 0) ∧
      ∀ value, report.derived["weighted_speedup"]? = some value →
        ∃ given ipc firsts, references = some given ∧ report.ipc? = some ipc ∧
          given.map Report.firstIpc? = List.map some firsts ∧ firsts.length = ipc.length ∧
          value = .single (Number.sum (List.zipWith (· / ·) ipc firsts)) := by
  have hfatal : ∀ e, Report.read bytes references = .error e → e.isFatal = true := by
    intro e h
    obtain ⟨given, cores, rfl⟩ := Report.error_of_read h
    rfl
  refine ⟨?_, hfatal, ?_⟩
  · have hstops : (∃ e, Report.read bytes references = .error e ∧ e.isFatal = true) ↔
        ∃ e, Report.read bytes references = .error e :=
      exists_congr fun e => and_iff_left_of_imp (hfatal e)
    rw [hstops, Report.exists_error_iff]
    simp only [Report.Unmatched, Option.isSome_iff_exists, Report.firstIpc?_eq_some_iff,
      exists_and_left]
    rfl
  · intro report h
    cases references with
    | none =>
        cases h
        have habsent := Report.not_mem_derived_weightedSpeedup bytes
        exact ⟨iff_of_false habsent (by simp), fun value hvalue =>
          absurd (ExtTreeMap.mem_iff_isSome_getElem?.mpr (by rw [hvalue]; rfl)) habsent⟩
    | some given =>
        constructor
        · rw [Report.mem_derived_weightedSpeedup_iff h]
          simp only [Report.firstIpc?_eq_some_iff, exists_and_right, Option.some.injEq,
            exists_and_left, exists_eq_left']
          rfl
        · intro value hvalue
          obtain ⟨ipc, firsts, hipc, -, hfirsts, hlength, -, hsum⟩ :=
            (Report.derived_weightedSpeedup_iff h value).mp hvalue
          exact ⟨given, ipc, firsts, rfl, hipc, hfirsts, hlength, hsum⟩

/-- The counts of two cores. -/
def pairedFile : Bytes :=
  ["ramulator.record_insts_core_0 100", "ramulator.record_cycs_core_0 100",
    "ramulator.record_insts_core_1 50", "ramulator.record_cycs_core_1 100"].flatMap fun line =>
      Bytes.ofText (line ++ "\n")

/-- Two cores stop the run when there is no reference for them. Over two references they have a
weighted speedup, unless one of the references is at zero. -/
theorem speedup_or_stop_two_cores :
    ∃ idle steady : Report, idle.ipc? = some [0] ∧ steady.ipc? = some [0.5] ∧
      (∃ e, Report.read pairedFile (some []) = .error e ∧ e.isFatal = true) ∧
      (∃ report, Report.read pairedFile (some [steady, idle]) = .ok report ∧
        "weighted_speedup" ∉ report.derived) ∧
      ∃ report, Report.read pairedFile (some [steady, steady]) = .ok report ∧
        "weighted_speedup" ∈ report.derived := by
  let alone (insts : String) : Report := .ofBytes
    (["ramulator.record_insts_core_0 " ++ insts, "ramulator.record_cycs_core_0 100"].flatMap
      fun line => Bytes.ofText (line ++ "\n"))
  have hipc : (Report.ofBytes pairedFile).ipc? = some [1, 0.5] := by decide +kernel
  have hidle : (alone "0").ipc? = some [0] := by decide +kernel
  have hsteady : (alone "50").ipc? = some [0.5] := by decide +kernel
  have hreads : ∀ second ∈ ["0", "50"],
      (Report.read pairedFile (some [alone "50", alone second])).toOption.isSome := by
    decide +kernel
  refine ⟨alone "0", alone "50", hidle, hsteady, ?_, ?_, ?_⟩
  · obtain ⟨hstops, -⟩ := speedup_or_stop pairedFile (some [])
    exact hstops.mpr ⟨[], _, rfl, hipc, by decide, by simp, by decide⟩
  · obtain ⟨report, hreport⟩ := Option.isSome_iff_exists.mp (hreads "0" (by simp))
    have hread := Traverse.toOption_eq_some_iff.mp hreport
    obtain ⟨-, -, hderived⟩ := speedup_or_stop pairedFile (some [alone "50", alone "0"])
    refine ⟨report, hread, fun hmem => ?_⟩
    obtain ⟨_, _, hgiven, -, -, husable⟩ := (hderived report hread).1.mp hmem
    cases hgiven
    obtain ⟨first, rest, hfirst, hnonzero⟩ := husable (alone "0") (by simp)
    cases hidle.symm.trans hfirst
    exact absurd hnonzero (by decide)
  · obtain ⟨report, hreport⟩ := Option.isSome_iff_exists.mp (hreads "50" (by simp))
    have hread := Traverse.toOption_eq_some_iff.mp hreport
    obtain ⟨-, -, hderived⟩ := speedup_or_stop pairedFile (some [alone "50", alone "50"])
    refine ⟨report, hread, (hderived report hread).1.mpr
      ⟨_, _, rfl, (Report.ipc?_of_read hread).trans hipc, by decide, ?_⟩⟩
    intro reference hreference
    cases (by simpa using hreference : reference = alone "50")
    exact ⟨0.5, [], hsteady, by decide⟩

end DramSweep
