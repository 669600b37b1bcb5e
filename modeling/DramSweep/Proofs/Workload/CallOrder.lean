import DramSweep.Proofs.Workload.Isolation
import DramSweep.Proofs.Workload.NormalizedReports

/-!
Normalizing in another order. A call reads one metric and stores its normalized form, so calls of
which none stores what another one reads are out of each other's way: each ends as it would on its
own, their order leaves no trace in any report, and what is called for twice is as if it were called
for once.
-/

namespace DramSweep

open Std (ExtTreeMap)

/-- Values of different metrics can be recorded in either order. -/
theorem Report.setMetric_comm {name other : String} (h : name ≠ other) (report : Report)
    (value otherValue : Quantity) :
    (report.setMetric name value).setMetric other otherValue =
      (report.setMetric other otherValue).setMetric name value := by
  have hderived : (report.derived.insert name value).insert other otherValue =
      (report.derived.insert other otherValue).insert name value := by
    apply ExtTreeMap.ext_getElem?
    intro found
    simp only [ExtTreeMap.getElem?_insert, Std.LawfulEqCmp.compare_eq_iff_eq]
    by_cases hname : name = found
    · simp [hname, show other ≠ found from fun hother => h (hname.trans hother.symm)]
    · simp [hname]
  simp only [setMetric, hderived]

namespace Workload

/-- Neither of two metrics is the normalized form of the other one. -/
def Unrelated (metric other : String) : Prop :=
  metric ≠ normalizedName other ∧ other ≠ normalizedName metric

instance (metric other : String) : Decidable (Unrelated metric other) :=
  inferInstanceAs (Decidable (_ ∧ _))

variable {workload : Workload} {metric other : String}

theorem get?_normalizeReport (h : metric ≠ normalizedName other) (divisor : Float)
    (report : Report) : (normalizeReport other divisor report).get? metric = report.get? metric := by
  have hnormalized := normalizedBy_normalizeReport other divisor report
  rw [Report.get?, Report.get?, hnormalized.counters, hnormalized.others metric h]

theorem normalizeReport_of_get?_eq_none {report : Report} (h : report.get? metric = none)
    (divisor : Float) : normalizeReport metric divisor report = report := by
  simp only [normalizeReport, h]

theorem normalizeReport_of_get?_eq_some {report : Report} {value : Quantity}
    (h : report.get? metric = some value) (divisor : Float) :
    normalizeReport metric divisor report =
      report.setMetric (normalizedName metric) (value.divideBy divisor) := by
  simp only [normalizeReport, h]

/-- Different metrics are normalized in either order: neither division reads what the other one
stores, and both store under names of their own. -/
theorem normalizeReport_comm (h : Unrelated metric other) (hne : metric ≠ other)
    (divisor otherDivisor : Float) (report : Report) :
    normalizeReport metric divisor (normalizeReport other otherDivisor report) =
      normalizeReport other otherDivisor (normalizeReport metric divisor report) := by
  have hmetric := get?_normalizeReport h.1 otherDivisor report
  have hother := get?_normalizeReport h.2 divisor report
  cases hvalue : report.get? metric with
  | none =>
      rw [normalizeReport_of_get?_eq_none hvalue,
        normalizeReport_of_get?_eq_none (hmetric.trans hvalue)]
  | some value =>
      cases hotherValue : report.get? other with
      | none =>
          rw [normalizeReport_of_get?_eq_none hotherValue,
            normalizeReport_of_get?_eq_none (hother.trans hotherValue)]
      | some otherValue =>
          rw [normalizeReport_of_get?_eq_some (hmetric.trans hvalue),
            normalizeReport_of_get?_eq_some (hother.trans hotherValue),
            normalizeReport_of_get?_eq_some hvalue, normalizeReport_of_get?_eq_some hotherValue]
          exact Report.setMetric_comm (fun hname => hne (normalizedName_inj hname).symm) _ _ _

theorem normalizeEach_cons (workload : Workload) (metric : String) (rest : List String) :
    workload.normalizeEach (metric :: rest) =
      (workload.normalizeEach [metric]).normalizeEach rest := rfl

/-- With nothing to divide by, a call leaves everything as it is. -/
theorem normalizeEach_of_divisor?_eq_none (h : workload.divisor? metric = none) :
    workload.normalizeEach [metric] = workload := by
  cases hcall : workload.normalize metric with
  | error e => simp [normalizeEach, hcall, Except.toOption]
  | ok result =>
      obtain ⟨divisor, hdivisor, -⟩ := normalize_eq_ok_iff.mp hcall
      simp [h] at hdivisor

theorem normalizeEach_of_divisor?_eq_some {divisor : Float}
    (h : workload.divisor? metric = some divisor) :
    workload.normalizeEach [metric] =
      { workload with reports := workload.reports.map fun _ report =>
          normalizeReport metric divisor report } := by
  have hcall := normalize_eq_ok_iff.mpr ⟨divisor, h, rfl⟩
  simp [normalizeEach, hcall, Except.toOption]

/-- What a call divides by is not touched by a call for another metric that stores something
else. -/
theorem divisor?_normalizeEach (h : metric ≠ normalizedName other) (workload : Workload) :
    (workload.normalizeEach [other]).divisor? metric = workload.divisor? metric := by
  cases hdivisor : workload.divisor? other with
  | none => rw [normalizeEach_of_divisor?_eq_none hdivisor]
  | some divisor =>
      rw [normalizeEach_of_divisor?_eq_some hdivisor]
      unfold divisor?
      rw [referenceReport_map workload (normalizeReport other divisor)]
      cases workload.referenceReport with
      | error e => rfl
      | ok reference =>
          simp [Except.map, Except.toOption, get?_normalizeReport h]

/-- Two calls for unrelated metrics leave the same reports in either order. -/
theorem normalizeEach_comm (h : Unrelated metric other) (workload : Workload) :
    workload.normalizeEach [metric, other] = workload.normalizeEach [other, metric] := by
  by_cases hsame : metric = other
  · rw [hsame]
  · have hmetric := divisor?_normalizeEach h.1 workload
    have hother := divisor?_normalizeEach h.2 workload
    rw [normalizeEach_cons, normalizeEach_cons workload other]
    cases hdivisor : workload.divisor? metric with
    | none =>
        rw [normalizeEach_of_divisor?_eq_none hdivisor,
          normalizeEach_of_divisor?_eq_none (hmetric.trans hdivisor)]
    | some divisor =>
        cases hotherDivisor : workload.divisor? other with
        | none =>
            rw [normalizeEach_of_divisor?_eq_none hotherDivisor,
              normalizeEach_of_divisor?_eq_none (hother.trans hotherDivisor)]
        | some otherDivisor =>
            rw [normalizeEach_of_divisor?_eq_some (hother.trans hotherDivisor),
              normalizeEach_of_divisor?_eq_some (hmetric.trans hdivisor),
              normalizeEach_of_divisor?_eq_some hdivisor,
              normalizeEach_of_divisor?_eq_some hotherDivisor]
            simp only [ExtTreeMap.map_map, normalizeReport_comm h hsame]

/-- How one call ends, without the reports that it leaves. -/
def outcome (workload : Workload) (metric : String) : Except MetricError Unit :=
  (workload.normalize metric).map fun _ => ()

/-- A call fails where the reference has no report, or has nothing to divide by. -/
theorem outcome_eq (workload : Workload) (metric : String) :
    workload.outcome metric = workload.referenceReport.bind fun _ =>
      if (workload.divisor? metric).isSome then .ok ()
      else .error (workload.lacks workload.reference metric) := by
  unfold outcome normalize divisor?
  cases workload.referenceReport with
  | error e => rfl
  | ok reference =>
      cases hdivisor : (reference.get? metric).bind Quantity.divisor? <;>
        simp [bind, Except.bind, Except.map, Except.toOption, hdivisor, throw, throwThe,
          MonadExceptOf.throw, pure, Except.pure]

/-- A call ends as it would have before a call that stores something else. -/
theorem outcome_normalizeEach (h : metric ≠ normalizedName other) (workload : Workload) :
    (workload.normalizeEach [other]).outcome metric = workload.outcome metric := by
  rw [outcome_eq, outcome_eq, divisor?_normalizeEach h]
  cases hdivisor : workload.divisor? other with
  | none => rw [normalizeEach_of_divisor?_eq_none hdivisor]
  | some divisor =>
      rw [normalizeEach_of_divisor?_eq_some hdivisor,
        referenceReport_map workload (normalizeReport other divisor)]
      cases workload.referenceReport <;> rfl

/-- In a row of calls of which none stores what another one reads, each ends as it would on its
own. -/
theorem normalizeOutcomes_eq_map {metrics : List String}
    (h : ∀ metric ∈ metrics, ∀ other ∈ metrics, metric ≠ normalizedName other)
    (workload : Workload) :
    workload.normalizeOutcomes metrics = metrics.map workload.outcome := by
  -- The calls of the rest start from the reports that the first one leaves.
  induction metrics generalizing workload with
  | nil => rfl
  | cons first rest ih =>
      have hrest := ih (fun metric hmetric other hother =>
        h metric (List.mem_cons_of_mem _ hmetric) other (List.mem_cons_of_mem _ hother))
        (workload.normalizeEach [first])
      have hfirst : rest.map (workload.normalizeEach [first]).outcome =
          rest.map workload.outcome :=
        List.map_congr_left fun metric hmetric => outcome_normalizeEach
          (h metric (List.mem_cons_of_mem _ hmetric) first List.mem_cons_self) workload
      exact congrArg (workload.outcome first :: ·) (hrest.trans hfirst)

/-- Such a row of calls leaves the same reports in any order. -/
theorem normalizeEach_perm {metrics others : List String} (hperm : metrics.Perm others)
    (h : ∀ metric ∈ metrics, ∀ other ∈ metrics, metric ≠ normalizedName other)
    (workload : Workload) : workload.normalizeEach metrics = workload.normalizeEach others := by
  refine hperm.foldl_eq' ?_ workload
  intro metric hmetric other hother held
  exact normalizeEach_comm ⟨h metric hmetric other hother, h other hother metric hmetric⟩ held

theorem normalizeEach_twice (workload : Workload) (metric : String) :
    workload.normalizeEach [metric, metric] = workload.normalizeEach [metric] := by
  rw [normalizeEach_cons]
  cases hcall : workload.normalize metric with
  | error e => simp [normalizeEach, hcall, Except.toOption]
  | ok result =>
      have hfirst : workload.normalizeEach [metric] = result := by
        simp [normalizeEach, hcall, Except.toOption]
      rw [hfirst]
      simp [normalizeEach, normalize_of_normalize hcall, Except.toOption]

/-- Calling for a metric twice leaves the same reports as calling for it once, and both calls end
alike. Two metrics of which neither is the normalized form of the other can be called for in either
order: the reports are the same, and so is the outcome of each of the two calls, a failure for want
of a metric among them. -/
theorem normalizing_commutes (workload : Workload) {metric other : String}
    (h : Unrelated metric other) :
    workload.normalizeEach [metric, metric] = workload.normalizeEach [metric] ∧
    workload.normalizeOutcomes [metric, metric] =
      [workload.outcome metric, workload.outcome metric] ∧
    workload.normalizeEach [metric, other] = workload.normalizeEach [other, metric] ∧
    workload.normalizeOutcomes [metric, other] =
      [workload.outcome metric, workload.outcome other] ∧
    workload.normalizeOutcomes [other, metric] =
      [workload.outcome other, workload.outcome metric] := by
  have htwice : ∀ a ∈ [metric, metric], ∀ b ∈ [metric, metric], a ≠ normalizedName b := by
    simp [ne_normalizedName_self]
  have hboth : ∀ a ∈ [metric, other], ∀ b ∈ [metric, other], a ≠ normalizedName b := by
    simp [ne_normalizedName_self, h.1, h.2]
  have hswapped : ∀ a ∈ [other, metric], ∀ b ∈ [other, metric], a ≠ normalizedName b := by
    simp [ne_normalizedName_self, h.1, h.2]
  exact ⟨normalizeEach_twice workload metric, normalizeOutcomes_eq_map htwice workload,
    normalizeEach_perm (.swap other metric []) hboth workload,
    normalizeOutcomes_eq_map hboth workload, normalizeOutcomes_eq_map hswapped workload⟩

theorem normalizing_commutes_uneven :
    Unrelated "ipc" "bandwidth" ∧
      unevenWorkload.normalizeEach ["ipc", "ipc"] = unevenWorkload.normalizeEach ["ipc"] ∧
      unevenWorkload.normalizeEach ["ipc", "bandwidth"] =
        unevenWorkload.normalizeEach ["bandwidth", "ipc"] ∧
      unevenWorkload.normalizeOutcomes ["ipc", "bandwidth"] =
        [.ok (), .error (.metricUnavailable "mcf" "DDR3" "bandwidth")] ∧
      unevenWorkload.normalizeOutcomes ["bandwidth", "ipc"] =
        [.error (.metricUnavailable "mcf" "DDR3" "bandwidth"), .ok ()] := by
  have hunrelated : Unrelated "ipc" "bandwidth" := by decide
  obtain ⟨htwice, -, hreports, hfirst, hsecond⟩ := normalizing_commutes unevenWorkload hunrelated
  have hipc : unevenWorkload.outcome "ipc" = .ok () := by decide +kernel
  have hbandwidth : unevenWorkload.outcome "bandwidth" =
      .error (.metricUnavailable "mcf" "DDR3" "bandwidth") := by
    decide +kernel
  rw [hipc, hbandwidth] at hfirst hsecond
  exact ⟨hunrelated, htwice, hreports, hfirst, hsecond⟩

/-- A metric and its normalized form are in each other's way: only after the one is normalized does
the reference have the other. -/
example : unevenWorkload.normalizeOutcomes ["ipc", "normalized_ipc"] = [.ok (), .ok ()] ∧
    unevenWorkload.normalizeOutcomes ["normalized_ipc", "ipc"] =
      [.error (.metricUnavailable "mcf" "DDR3" "normalized_ipc"), .ok ()] := by
  decide +kernel

end Workload

end DramSweep
