import DramSweep.Proofs.Report.Matching

/-!
The divisions behind the metrics of a report. Every metric that is a quotient asks for divisions
of what the tables and the references hold; it is there exactly when all that they take was found
and none of them is by zero, and then it is made of their quotients. The same goes for a speedup
over one run alone.
-/

namespace DramSweep

open Std (ExtTreeMap)

/-- A division that is asked for. -/
structure Division where
  num : Float
  den : Float

def Division.quotient (division : Division) : Float :=
  division.num / division.den

/-- Divisions whose results are one value: a quotient alone, one for each core, or the sum of
those. -/
inductive Quotients where
  | single (division : Division)
  | perCore (divisions : List Division)
  | summed (divisions : List Division)

namespace Quotients

def divisions : Quotients → List Division
  | single division => [division]
  | perCore divisions | summed divisions => divisions

/-- What the divisions give. -/
def value : Quotients → Quantity
  | single division => .single division.quotient
  | perCore divisions => .perCore (divisions.map Division.quotient)
  | summed divisions => .single (Number.sum (divisions.map Division.quotient))

/-- No division is by zero. -/
def isSound (quotients : Quotients) : Bool :=
  quotients.divisions.all (·.den != 0)

def ofValues (num den : Option Float) : Option Quotients :=
  num.bind fun num => den.map fun den => single ⟨num, den⟩

/-- Every part of a value by the same double. -/
def ofQuantity (divisor : Float) : Quantity → Quotients
  | .single num => single ⟨num, divisor⟩
  | .perCore nums => perCore (nums.map (⟨·, divisor⟩))

theorem value_ofQuantity (divisor : Float) (value : Quantity) :
    (ofQuantity divisor value).value = value.divideBy divisor := by
  cases value with
  | single num => rfl
  | perCore nums => simp [ofQuantity, Quotients.value, Quantity.divideBy, Division.quotient]

theorem den_of_mem_ofQuantity {divisor : Float} {value : Quantity} {division : Division}
    (h : division ∈ (ofQuantity divisor value).divisions) : division.den = divisor := by
  cases value with
  | single num =>
      cases List.mem_singleton.mp h
      rfl
  | perCore nums =>
      obtain ⟨num, -, rfl⟩ := List.mem_map.mp h
      rfl

/-- Where there is something to divide by, there is a division. -/
theorem exists_mem_ofQuantity {value : Quantity} {first : Float} (h : value.divisor? = some first)
    (divisor : Float) : ∃ division, division ∈ (ofQuantity divisor value).divisions := by
  cases value with
  | single num => exact ⟨_, List.mem_singleton_self _⟩
  | perCore nums =>
      obtain ⟨rest, rfl⟩ := List.head?_eq_some_iff.mp h
      exact ⟨_, List.mem_cons_self⟩

end Quotients

/-- The ways in which a request can find the row buffer of its bank. -/
inductive RowOutcome where
  | hit
  | miss
  | conflict
  deriving Repr, DecidableEq

def RowOutcome.countName : RowOutcome → String
  | hit => "row_hits"
  | miss => "row_misses"
  | conflict => "row_conflicts"

/-- The metrics that are quotients. -/
inductive QuotientMetric where
  | ipc
  | weightedSpeedup
  | rowRate (outcome : RowOutcome)
  | bankParallelism
  | effectiveBankParallelism
  | bandwidthUtilization
  | mpki
  deriving Repr, DecidableEq

def QuotientMetric.name : QuotientMetric → String
  | ipc => "ipc"
  | weightedSpeedup => "weighted_speedup"
  | rowRate .hit => "row_hit_rate"
  | rowRate .miss => "row_miss_rate"
  | rowRate .conflict => "row_conflict_rate"
  | bankParallelism => "BLP"
  | effectiveBankParallelism => "effective_BLP"
  | bandwidthUtilization => "bandwidth_utilization"
  | mpki => "MPKI"

namespace Report

/-- The divisions that a metric of a report asks for, once all that they take is there. -/
def quotients? (report : Report) : QuotientMetric → Option Quotients
  | .ipc =>
    (report.counters.values? "cpu_insts" 0).bind fun insts =>
      (report.counters.values? "cpu_cycles" 0).bind fun cycles =>
        if insts.length = cycles.length then
          some (.perCore (List.zipWith Division.mk insts cycles))
        else none
  | .weightedSpeedup =>
    report.ipc?.bind fun ipc =>
      (report.references.mapM firstIpc?).bind fun firsts =>
        if 1 < ipc.length ∧ firsts.length = ipc.length then
          some (.summed (List.zipWith Division.mk ipc firsts))
        else none
  | .rowRate outcome =>
    Quotients.ofValues report.counters.memory[outcome.countName]?
      report.counters.memory["incoming_requests"]?
  | .bankParallelism =>
    report.counters.servingRequests.bind fun serving =>
      Quotients.ofValues (some (Number.sum serving))
        (report.counters.maxCpuCycles.map (· * serving.length.toFloat))
  | .effectiveBankParallelism =>
    Quotients.ofValues (report.counters.servingRequests.map Number.sum)
      report.counters.memory["DRAM_active_cycles"]?
  | .bandwidthUtilization =>
    Quotients.ofValues report.counters.bandwidth
      ((report.counters.memory["maximum_internal_bandwidth"]?).or
        report.counters.memory["maximum_bandwidth"]?)
  | .mpki =>
    Quotients.ofValues ((report.counters.memory["incoming_requests"]?).map (· * 1000))
      ((report.counters.values? "cpu_insts" 0).bind List.head?)

/-- Every metric that is a quotient is there exactly when what it divides is there and no division
is by zero, and has the value of its divisions. -/
def DividesSoundly (report : Report) : Prop :=
  ∀ metric : QuotientMetric, report.derived[metric.name]? =
    ((report.quotients? metric).filter Quotients.isSound).map Quotients.value

end Report

section Ratio

/-- A guarded quotient is the quotient of the division that is asked for, unless it is by zero. -/
theorem ratio_eq_ofValues (num den : Option Float) :
    (Counters.ratio num den).map Quantity.single =
      ((Quotients.ofValues num den).filter Quotients.isSound).map Quotients.value := by
  cases num with
  | none => rfl
  | some num =>
      cases den with
      | none => rfl
      | some den =>
          by_cases hzero : (den == 0) = true <;>
            simp [Counters.ratio, Quotients.ofValues, Option.filter, Quotients.isSound,
              Quotients.divisions, Quotients.value, Division.quotient, hzero, bne]

/-- Guarded quotients are all there, unless one of the divisions is by zero. -/
theorem mapM_ratio_eq (nums dens : List Float) :
    ((nums.zip dens).mapM fun (num, den) => Counters.ratio (some num) (some den)) =
      if (List.zipWith Division.mk nums dens).all (·.den != 0) then
        some ((List.zipWith Division.mk nums dens).map Division.quotient)
      else none := by
  induction nums generalizing dens with
  | nil => simp
  | cons num restNums ih =>
      cases dens with
      | nil => simp
      | cons den restDens =>
          rw [List.zip_cons_cons, List.mapM_cons, ih, List.zipWith_cons_cons, List.all_cons,
            List.map_cons]
          by_cases hzero : (den == 0) = true
          · simp [Counters.ratio, hzero, bne]
          · rw [Bool.not_eq_true] at hzero
            cases (List.zipWith Division.mk restNums restDens).all (·.den != 0) <;>
              simp [Counters.ratio, hzero, bne, Division.quotient]

/-- A value that is made of guarded quotients is that of their divisions, unless one is by zero. -/
theorem map_mapM_ratio_eq {nums dens : List Float} {make : List Float → Quantity}
    {quotients : Quotients} (hdivisions : quotients.divisions = List.zipWith Division.mk nums dens)
    (hvalue : quotients.value = make (quotients.divisions.map Division.quotient)) :
    ((nums.zip dens).mapM fun (num, den) =>
        Counters.ratio (some num) (some den)).map make =
      ((some quotients).filter Quotients.isSound).map Quotients.value := by
  rw [mapM_ratio_eq, Option.filter_some, Quotients.isSound, hdivisions]
  split
  · rw [Option.map_some, Option.map_some, hvalue, hdivisions]
  · rfl

end Ratio

namespace Report

variable {bytes : Bytes} {references : Option (List Report)} {report : Report}

theorem ipc_eq_quotients (report : Report) :
    report.counters.ipc.map Quantity.perCore =
      ((report.quotients? .ipc).filter Quotients.isSound).map Quotients.value := by
  unfold Counters.ipc quotients?
  cases report.counters.values? "cpu_insts" 0 with
  | none => rfl
  | some insts =>
      cases report.counters.values? "cpu_cycles" 0 with
      | none => rfl
      | some cycles =>
          by_cases hlength : insts.length = cycles.length
          · simp only [Option.bind_some, hlength, if_true]
            exact map_mapM_ratio_eq rfl rfl
          · simp [hlength]

theorem weightedSpeedup_eq_quotients {references : List Report}
    (h : read bytes (some references) = .ok report) :
    report.derived["weighted_speedup"]? =
      ((report.quotients? .weightedSpeedup).filter Quotients.isSound).map Quotients.value := by
  rw [derived_weightedSpeedup_of_read h]
  unfold quotients?
  rw [references_of_read h]
  cases report.ipc? with
  | none => rfl
  | some ipc =>
      simp only [Option.bind_some, weightedSpeedup, List.mapM_map, Function.id_comp]
      by_cases hcores : ipc.length ≤ 1
      · cases references.mapM firstIpc? <;> simp [hcores, Nat.not_lt.mpr hcores, Except.toOption]
      · cases references.mapM firstIpc? with
        | none => simp [hcores, Except.toOption]
        | some firsts =>
            by_cases hlength : firsts.length = ipc.length
            · simp only [hcores, if_false, hlength, Nat.lt_of_not_le hcores, Option.bind_some,
                ne_eq, not_true, and_self, if_true, Except.toOption, id_eq, Option.map_map]
              exact map_mapM_ratio_eq rfl rfl
            · simp [hcores, hlength, Except.toOption]

/-- Every report that is read divides by what is not zero, and by nothing else. -/
theorem dividesSoundly_of_read (h : read bytes references = .ok report) :
    report.DividesSoundly := by
  intro metric
  cases metric with
  | ipc =>
      rw [← ipc_eq_quotients]
      exact getElem?_derived_of_read h (by decide)
        (by simp [Counters.candidates, QuotientMetric.name])
  | weightedSpeedup =>
      cases references with
      | some given => exact weightedSpeedup_eq_quotients h
      | none =>
          cases h
          have habsent : (ofBytes bytes).derived["weighted_speedup"]? = none :=
            ExtTreeMap.getElem?_eq_none (not_mem_derived_weightedSpeedup bytes)
          have hnone : (ofBytes bytes).quotients? .weightedSpeedup = none := by
            simp only [quotients?, ofBytes, ofCounters, List.mapM_nil, Option.pure_def,
              Option.bind_some, List.length_nil, Option.bind_eq_none_iff]
            intro ipc _
            rw [if_neg (by omega)]
          rw [hnone]
          exact habsent
  | rowRate outcome =>
      refine (getElem?_derived_of_read h (by cases outcome <;> decide) ?_).trans
        (ratio_eq_ofValues _ _)
      cases outcome <;>
        simp [Counters.candidates, QuotientMetric.name, Counters.requestRate, RowOutcome.countName]
  | bankParallelism =>
      have hcandidate : ("BLP", report.counters.bankParallelism.map .single) ∈
          report.counters.candidates := by
        simp [Counters.candidates]
      refine (getElem?_derived_of_read h (by decide) hcandidate).trans ?_
      simp only [Counters.bankParallelism, quotients?]
      cases report.counters.servingRequests with
      | none => rfl
      | some serving => exact ratio_eq_ofValues (some (Number.sum serving)) _
  | effectiveBankParallelism =>
      have hcandidate : ("effective_BLP", report.counters.effectiveBankParallelism.map .single) ∈
          report.counters.candidates := by
        simp [Counters.candidates]
      refine (getElem?_derived_of_read h (by decide) hcandidate).trans ?_
      simp only [Counters.effectiveBankParallelism, quotients?]
      cases report.counters.servingRequests with
      | none => rfl
      | some serving => exact ratio_eq_ofValues (some (Number.sum serving)) _
  | bandwidthUtilization =>
      refine (getElem?_derived_of_read h (by decide) ?_).trans (ratio_eq_ofValues _ _)
      simp [Counters.candidates, QuotientMetric.name, Counters.bandwidthUtilization]
  | mpki =>
      refine (getElem?_derived_of_read h (by decide) ?_).trans (ratio_eq_ofValues _ _)
      simp [Counters.candidates, QuotientMetric.name, Counters.mpki]

/-- The divisions of a speedup over one run alone. -/
def quotientsOver? (multicore alone : Report) : Option Quotients :=
  multicore.ipc?.bind fun ipc =>
    alone.firstIpc?.map fun single => .summed (ipc.map (⟨·, single⟩))

/-- A speedup over one run is not given by way of zero. -/
theorem isSound_of_speedupOver {multicore alone : Report} {speedup : Float}
    (h : multicore.speedupOver alone = .ok speedup) :
    ∃ quotients, multicore.quotientsOver? alone = some quotients ∧ quotients.isSound = true ∧
      quotients.value = .single speedup := by
  unfold speedupOver at h
  split at h
  · cases h
  · rename_i single hsingle
    obtain ⟨hfirst, hnonzero⟩ := Option.filter_eq_some_iff.mp hsingle
    split at h
    · cases h
    · rename_i ipc hipc
      cases h
      refine ⟨_, by rw [quotientsOver?, hipc, hfirst]; rfl, ?_, ?_⟩
      · simp [Quotients.isSound, Quotients.divisions, hnonzero]
      · simp [Quotients.value, Division.quotient, Function.comp_def]

end Report

end DramSweep
