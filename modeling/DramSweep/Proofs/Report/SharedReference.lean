import DramSweep.Proofs.Report.WeightedSpeedup

/-!
Weighted speedup over one run that stands for every program alone. A report that is read with as
many copies of that run as it has cores derives what a comparison with the run gives, double for
double; neither has a value when the run has no instructions per cycle to divide by.
-/

namespace DramSweep

/-- Quotients by one value are all there or none of them is. -/
theorem mapM_ratio_replicate {nums : List Float} (hsome : 0 < nums.length) (den : Float) :
    ((nums.zip (List.replicate nums.length den)).mapM fun (num, den) =>
        Counters.ratio (some num) (some den)) =
      if den != 0 then some (nums.map (· / den)) else none := by
  have hlength : (List.replicate nums.length den).length = nums.length := List.length_replicate
  by_cases hden : (den != 0) = true
  · rw [if_pos hden, mapM_ratio_eq_some_iff _ _ _ hlength]
    constructor
    · intro other hother
      rw [List.eq_of_mem_replicate hother]
      exact hden
    · apply List.ext_getElem <;> simp
  · rw [if_neg hden, Option.eq_none_iff_forall_ne_some]
    intro quotients hquotients
    obtain ⟨hall, -⟩ := (mapM_ratio_eq_some_iff _ _ _ hlength).mp hquotients
    exact hden (hall den (List.mem_replicate.mpr ⟨hsome.ne', rfl⟩))

/-- Where one program stands for all, its value is asked for and compared with zero only once. -/
theorem weightedSpeedup_replicate {ipc : List Float} (hcores : 1 < ipc.length)
    (first? : Option Float) :
    weightedSpeedup ipc (List.replicate ipc.length first?) =
      .ok ((first?.filter (· != 0)).map fun single => Number.sum (ipc.map (· / single))) := by
  have hcore : 0 < ipc.length := by omega
  unfold weightedSpeedup
  rw [if_neg (Nat.not_le.mpr hcores), Traverse.mapM_replicate hcore]
  cases first? with
  | none => rfl
  | some single =>
      dsimp only [Option.map_some]
      rw [if_neg (not_not.mpr List.length_replicate), mapM_ratio_replicate hcore]
      by_cases hsingle : (single != 0) = true
      · simp [Option.filter, hsingle]
      · simp [Option.filter, hsingle]

namespace Report

/-- A report with instructions per cycle can be compared with any run that has usable ones. -/
theorem speedupOver_of_ipc {multicore : Report} {ipc : List Float}
    (hipc : multicore.ipc? = some ipc) (alone : Report) :
    multicore.speedupOver alone = match alone.firstIpc?.filter (· != 0) with
      | none => .error (.missingIpc .alone)
      | some single => .ok (Number.sum (ipc.map (· / single))) := by
  unfold speedupOver
  cases alone.firstIpc?.filter (· != 0) with
  | none => rfl
  | some single => simp [hipc]

end Report

/-- The two weighted speedups agree. With one copy of a run for each of several cores a file is
always read; its report derives a weighted speedup exactly when the comparison of the report without
references with that run gives one, and it is the same double. There is none exactly when the
comparison finds no usable instructions per cycle in the single-threaded report. -/
theorem speedups_agree (alone : Report) {bytes : Bytes} {multicore : Report}
    (hread : Report.read bytes none = .ok multicore) {ipc : List Float}
    (hipc : multicore.ipc? = some ipc) (hcores : 2 ≤ ipc.length) :
    ∃ report, Report.read bytes (some (List.replicate ipc.length alone)) = .ok report ∧
      report.derived["weighted_speedup"]? =
        (multicore.speedupOver alone).toOption.map .single ∧
      (report.derived["weighted_speedup"]? = none ↔
        ∃ side, multicore.speedupOver alone = .error (.missingIpc side) ∧
          side.name = "single-threaded") := by
  cases hread
  have hspeedup : weightedSpeedup ipc ((List.replicate ipc.length alone).map Report.firstIpc?) =
      .ok ((alone.firstIpc?.filter (· != 0)).map fun single =>
        Number.sum (ipc.map (· / single))) := by
    rw [List.map_replicate]
    exact weightedSpeedup_replicate hcores alone.firstIpc?
  obtain ⟨report, hreport, hderived⟩ := Report.withReferences_of_speedup hipc hspeedup
  have habsent : (Report.ofBytes bytes).derived["weighted_speedup"]? = none := by
    have hfile := Report.get?_weightedSpeedup_ofBytes bytes
    unfold Report.get? at hfile
    exact (Option.or_eq_none_iff.mp hfile).1
  rw [habsent, Option.or_none] at hderived
  refine ⟨report, hreport, ?_⟩
  rw [hderived, Report.speedupOver_of_ipc hipc]
  cases alone.firstIpc?.filter (· != 0) with
  | none => exact ⟨rfl, iff_of_true rfl ⟨.alone, rfl, rfl⟩⟩
  | some single => exact ⟨rfl, by simp⟩

/-- The counts of three cores, of which the second one retired nothing. -/
def threeCoreFile : Bytes :=
  ["ramulator.record_insts_core_0 100", "ramulator.record_cycs_core_0 100",
    "ramulator.record_insts_core_1 0", "ramulator.record_cycs_core_1 100",
    "ramulator.record_insts_core_2 300", "ramulator.record_cycs_core_2 100"].flatMap fun line =>
      Bytes.ofText (line ++ "\n")

/-- A run at a quarter of an instruction per cycle has a speedup, and one that retired nothing, its
count a negative zero, has none. -/
theorem speedups_agree_three_cores :
    ∃ running idle : Report, running.firstIpc? = some 0.25 ∧ idle.firstIpc? = some (-0.0) ∧
      (∃ report, Report.read threeCoreFile (some (List.replicate 3 running)) = .ok report ∧
        report.derived["weighted_speedup"]?.bind Quantity.divisor? = some 16 ∧
        (Report.ofBytes threeCoreFile).speedupOver running = .ok 16) ∧
      ∃ report, Report.read threeCoreFile (some (List.replicate 3 idle)) = .ok report ∧
        report.derived["weighted_speedup"]? = none := by
  let alone (insts : String) : Report := .ofBytes
    (["ramulator.record_insts_core_0 " ++ insts, "ramulator.record_cycs_core_0 400"].flatMap
      fun line => Bytes.ofText (line ++ "\n"))
  have hipc : (Report.ofBytes threeCoreFile).ipc? = some [1, 0, 3] := by decide +kernel
  have hrunningFirst : (alone "100").firstIpc? = some 0.25 := by decide +kernel
  have hidleFirst : (alone "-0").firstIpc? = some (-0.0) := by decide +kernel
  have hrunning : ((Report.ofBytes threeCoreFile).speedupOver (alone "100")).toOption =
      some 16 := by
    rw [Report.speedupOver_of_ipc hipc, hrunningFirst]
    decide +kernel
  have hidle : Traverse.failure? ((Report.ofBytes threeCoreFile).speedupOver (alone "-0")) =
      some (.missingIpc .alone) := by
    rw [Report.speedupOver_of_ipc hipc, hidleFirst]
    decide +kernel
  obtain ⟨first, hfirst, hvalue, -⟩ := speedups_agree (alone "100") rfl hipc (by decide)
  obtain ⟨second, hsecond, -, hnone⟩ := speedups_agree (alone "-0") rfl hipc (by decide)
  refine ⟨alone "100", alone "-0", hrunningFirst, hidleFirst,
    ⟨first, hfirst, ?_, Traverse.toOption_eq_some_iff.mp hrunning⟩, second, hsecond,
    hnone.mpr ⟨.alone, Traverse.failure?_eq_some_iff.mp hidle, rfl⟩⟩
  rw [hvalue, hrunning]
  rfl

end DramSweep
