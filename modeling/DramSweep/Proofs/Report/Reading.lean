import DramSweep.Proofs.Traverse
import DramSweep.Report.Basic

/-!
What references add to a report. A report that is read has the tables of its file and, weighted
speedup aside, the metrics derived from them; the references are kept as they are given.
-/

namespace DramSweep

/-- A speedup has no answer when the programs alone are known and are not as many as the cores. -/
theorem weightedSpeedup_eq_error_iff {ipc : List Float} {alone : List (Option Float)}
    {e : MetricError} :
    weightedSpeedup ipc alone = .error e ↔
      (1 < ipc.length ∧ (∀ first? ∈ alone, first?.isSome) ∧ alone.length ≠ ipc.length) ∧
        e = .referenceCount alone.length ipc.length := by
  have hknown : (∀ first? ∈ alone, first?.isSome) ↔ (alone.mapM id).isSome :=
    (Traverse.isSome_mapM_iff id alone).symm
  rw [hknown]
  unfold weightedSpeedup
  by_cases hcores : ipc.length ≤ 1
  · simp [hcores, Nat.not_lt.mpr hcores]
  · cases hfirsts : alone.mapM id with
    | none => simp [hcores]
    | some firsts =>
        rw [← Traverse.length_of_mapM_eq_some hfirsts]
        by_cases hlength : firsts.length = ipc.length
        · simp [hcores, hlength]
        · simp [hcores, hlength, Nat.lt_of_not_le hcores, eq_comm]

namespace Report

/-- A report with references is the report without them, with weighted speedup where the cores and
the programs alone have one. -/
theorem withReferences_cases {report result : Report} {references : List Report}
    (h : report.withReferences references = .ok result) :
    result = { report with references } ∨
      ∃ ipc speedup, report.ipc? = some ipc ∧
        weightedSpeedup ipc (references.map firstIpc?) = .ok (some speedup) ∧
        result = { report.setMetric "weighted_speedup" (.single speedup) with references } := by
  unfold withReferences at h
  cases hipc : report.ipc? with
  | none =>
      rw [hipc] at h
      cases h
      exact Or.inl rfl
  | some ipc =>
      rw [hipc] at h
      cases hspeedup : weightedSpeedup ipc (references.map firstIpc?) with
      | error e => simp [hspeedup, bind, Except.bind] at h
      | ok speedup? =>
          cases speedup? with
          | none =>
              simp only [hspeedup, bind, Except.bind, pure, Except.pure, Except.ok.injEq] at h
              exact Or.inl h.symm
          | some speedup =>
              simp only [hspeedup, bind, Except.bind, pure, Except.pure, Except.ok.injEq] at h
              exact Or.inr ⟨ipc, speedup, rfl, hspeedup, h.symm⟩

/-- A report with instructions per cycle is given references as soon as its speedup over them can be
told, be there one or not. -/
theorem withReferences_of_speedup {report : Report} {ipc : List Float}
    (hipc : report.ipc? = some ipc) {references : List Report} {speedup? : Option Float}
    (hspeedup : weightedSpeedup ipc (references.map firstIpc?) = .ok speedup?) :
    ∃ result, report.withReferences references = .ok result ∧
      result.derived["weighted_speedup"]? =
        (speedup?.map .single).or report.derived["weighted_speedup"]? := by
  unfold withReferences
  rw [hipc]
  simp only [bind, Except.bind, hspeedup]
  cases speedup? with
  | none => exact ⟨_, rfl, rfl⟩
  | some speedup => exact ⟨_, rfl, by simp [setMetric]⟩

/-- The tables of a report are those of its file, whatever is derived and whatever the references
are. -/
theorem counters_of_read {bytes : Bytes} {references : Option (List Report)} {report : Report}
    (h : read bytes references = .ok report) : report.counters = .ofBytes bytes := by
  cases references with
  | none =>
      cases h
      rfl
  | some references =>
      rcases withReferences_cases h with heq | ⟨_, _, _, _, heq⟩
      · rw [heq]
        rfl
      · rw [heq]
        rfl

/-- References bring no metric but weighted speedup. -/
theorem derived_of_read {bytes : Bytes} {references : Option (List Report)} {report : Report}
    (h : read bytes references = .ok report) {name : String} (hname : name ≠ "weighted_speedup") :
    report.derived[name]? = (Counters.ofBytes bytes).derived[name]? := by
  cases references with
  | none =>
      cases h
      rfl
  | some references =>
      rcases withReferences_cases h with heq | ⟨_, speedup, _, _, heq⟩
      · rw [heq]
        rfl
      · rw [heq]
        have hother : "weighted_speedup" ≠ name := hname.symm
        simp [setMetric, Std.ExtTreeMap.getElem?_insert, hother, ofBytes, ofCounters]

/-- A file cannot be read for want of as many references as cores, and for no other reason. -/
theorem error_of_read {bytes : Bytes} {references : Option (List Report)} {e : MetricError}
    (h : read bytes references = .error e) :
    ∃ given cores, e = .referenceCount given cores := by
  cases references with
  | none => cases h
  | some references =>
      change (ofBytes bytes).withReferences references = .error e at h
      unfold withReferences at h
      cases hipc : (ofBytes bytes).ipc? with
      | none =>
          rw [hipc] at h
          cases h
      | some ipc =>
          rw [hipc] at h
          cases hspeedup : weightedSpeedup ipc (references.map firstIpc?) with
          | error reason =>
              simp only [hspeedup, bind, Except.bind, Except.error.injEq] at h
              obtain ⟨-, rfl⟩ := weightedSpeedup_eq_error_iff.mp hspeedup
              exact ⟨_, _, h.symm⟩
          | ok speedup? =>
              cases speedup? <;> simp [hspeedup, bind, Except.bind, pure, Except.pure] at h

theorem references_of_read {bytes : Bytes} {references : List Report} {report : Report}
    (h : read bytes (some references) = .ok report) : report.references = references := by
  rcases withReferences_cases h with rfl | ⟨_, _, _, _, rfl⟩
  · rfl
  · rfl

end Report

end DramSweep
