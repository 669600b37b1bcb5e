import DramSweep.Proofs.Report.DerivedMetrics
import DramSweep.Proofs.Report.ScalarTables

/-!
When a report has a weighted speedup. It takes references: their first instructions per cycle are
all known, one for each core, and none of them is zero.
-/

namespace DramSweep

open Std (ExtTreeMap)

theorem ratio_eq_some_iff (num den quotient : Float) :
    Counters.ratio (some num) (some den) = some quotient ↔ den != 0 ∧ num / den = quotient := by
  by_cases hzero : (den == 0) = true <;> simp [Counters.ratio, hzero, bne]

theorem mapM_ratio_eq_some_iff (nums dens quotients : List Float)
    (hlength : dens.length = nums.length) :
    ((nums.zip dens).mapM fun (num, den) => Counters.ratio (some num) (some den)) =
        some quotients ↔
      (∀ den ∈ dens, den != 0) ∧ List.zipWith (· / ·) nums dens = quotients := by
  induction nums generalizing dens quotients with
  | nil =>
      cases List.length_eq_zero_iff.mp hlength
      simp
  | cons num restNums ih =>
      cases dens with
      | nil => simp at hlength
      | cons den restDens =>
          have hrest : restDens.length = restNums.length := by simpa using hlength
          rw [List.zip_cons_cons, List.mapM_cons, List.forall_mem_cons, List.zipWith_cons_cons]
          simp only [bind, Option.bind_eq_some_iff, ratio_eq_some_iff, ih _ _ hrest]
          constructor
          · rintro ⟨quotient, ⟨hden, rfl⟩, tail, ⟨hdens, rfl⟩, heq⟩
            cases heq
            exact ⟨⟨hden, hdens⟩, rfl⟩
          · rintro ⟨⟨hden, hdens⟩, rfl⟩
            exact ⟨num / den, ⟨hden, rfl⟩, _, ⟨hdens, rfl⟩, rfl⟩

/-- Weighted speedup compares several cores with as many known programs, none of them at zero. -/
theorem weightedSpeedup_eq_some_iff (ipc : List Float) (alone : List (Option Float))
    (speedup : Float) :
    weightedSpeedup ipc alone = .ok (some speedup) ↔
      1 < ipc.length ∧ ∃ firsts, alone = firsts.map some ∧ firsts.length = ipc.length ∧
        (∀ first ∈ firsts, first != 0) ∧
        Number.sum (List.zipWith (· / ·) ipc firsts) = speedup := by
  have hfirsts : ∀ firsts, alone = firsts.map some ↔ alone.mapM id = some firsts := by
    intro firsts
    rw [Traverse.mapM_eq_some_iff, List.map_id]
  simp only [hfirsts]
  unfold weightedSpeedup
  by_cases hcores : ipc.length ≤ 1
  · simp [hcores, Nat.not_lt.mpr hcores]
  · simp only [hcores, if_false, Nat.lt_of_not_le hcores, true_and]
    cases alone.mapM id with
    | none => simp
    | some firsts =>
        by_cases hlength : firsts.length = ipc.length
        · simp [hlength, Option.map_eq_some_iff, mapM_ratio_eq_some_iff _ _ _ hlength]
        · simp [hlength]

namespace Report

variable {bytes : Bytes} {references : List Report} {report : Report}

/-- No scalar and no metric of a file is called weighted speedup. -/
theorem get?_weightedSpeedup_ofBytes (bytes : Bytes) :
    (ofBytes bytes).get? "weighted_speedup" = none := by
  have hderived : "weighted_speedup" ∉ (Counters.ofBytes bytes).derived := by
    intro hmem
    have hname := Counters.mem_derivedNames_of_mem_derived hmem
    revert hname
    decide
  have hscalar : "weighted_speedup" ∉ (Counters.ofBytes bytes).memory := by
    rw [Counters.ofBytes_eq_ofPairs]
    intro hmem
    obtain ⟨rawName, hlisted, -⟩ := Counters.exists_rawName_of_scalar true hmem
    have hcatalog : ∀ entry ∈ Catalog.scalars, entry.2 ≠ "weighted_speedup" := by
      decide
    exact hcatalog _ hlisted rfl
  simp [get?, ofBytes, ofCounters, ExtTreeMap.getElem?_eq_none hderived,
    ExtTreeMap.getElem?_eq_none hscalar]

theorem not_mem_derived_weightedSpeedup (bytes : Bytes) :
    "weighted_speedup" ∉ (ofBytes bytes).derived := by
  have habsent := get?_weightedSpeedup_ofBytes bytes
  unfold get? at habsent
  rw [Option.or_eq_none_iff] at habsent
  rw [ExtTreeMap.mem_iff_isSome_getElem?, habsent.1]
  exact Bool.false_ne_true

/-- References leave the instructions per cycle of a report as they are. -/
theorem ipc?_of_read {references : Option (List Report)}
    (h : read bytes references = .ok report) : report.ipc? = (ofBytes bytes).ipc? := by
  unfold ipc?
  rw [derived_of_read h (by decide)]
  rfl

/-- A weighted speedup is that of the cores over the references that were given. -/
theorem weightedSpeedup_of_read (h : read bytes (some references) = .ok report)
    {value : Quantity} (hvalue : report.get? "weighted_speedup" = some value) :
    ∃ ipc firsts, report.ipc? = some ipc ∧ references.map firstIpc? = firsts.map some ∧
      firsts.length = ipc.length ∧ (∀ first ∈ firsts, first != 0) ∧
      value = .single (Number.sum (List.zipWith (· / ·) ipc firsts)) := by
  have hipc := ipc?_of_read h
  rcases withReferences_cases h with rfl | ⟨ipc, speedup, hcores, hspeedup, rfl⟩
  · cases hvalue.symm.trans (get?_weightedSpeedup_ofBytes bytes)
  · obtain ⟨-, firsts, hfirsts, hlength, hnonzero, hsum⟩ :=
      (weightedSpeedup_eq_some_iff _ _ _).mp hspeedup
    refine ⟨ipc, firsts, hipc.trans hcores, hfirsts, hlength, hnonzero, ?_⟩
    have hfound := get?_setMetric_self (ofBytes bytes) "weighted_speedup" (.single speedup)
    rw [hsum]
    exact Option.some.inj (hvalue.symm.trans hfound)

end Report

end DramSweep
