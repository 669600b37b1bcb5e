import DramSweep.Proofs.Workload.Quotients

/-!
What one call of normalize does to each report. It fails where the reference has nothing to divide
by, and then nothing has changed. Else every report that has the metric, listed or not, is given its
quotient by what the reference had; nothing else in any report changes, and a second call finds the
same values and changes nothing.
-/

namespace DramSweep

open Std (ExtTreeMap)

/-- A value whose parts are those of another value, each divided by the same double. -/
inductive Quantity.IsQuotient (divisor : Float) : Quantity → Quantity → Prop
  | single (value : Float) : IsQuotient divisor (.single (value / divisor)) (.single value)
  | perCore {parts values : List Float}
      (parts_eq : List.Forall₂ (fun part value => part = value / divisor) parts values) :
      IsQuotient divisor (.perCore parts) (.perCore values)

theorem Quantity.isQuotient_divideBy (divisor : Float) (value : Quantity) :
    (value.divideBy divisor).IsQuotient divisor value := by
  cases value with
  | single value => exact .single value
  | perCore values =>
      refine .perCore ?_
      rw [List.forall₂_map_left_iff, List.forall₂_same]
      exact fun _ _ => rfl

theorem Quantity.divisor?_eq_some_iff {value : Quantity} {divisor : Float} :
    value.divisor? = some divisor ↔
      value = .single divisor ∨ ∃ rest, value = .perCore (divisor :: rest) := by
  rcases value with value | _ | ⟨first, rest⟩ <;> simp [Quantity.divisor?]

/-- A report with the quotient of a metric, if it has the metric, and with nothing else that was
not there. -/
structure Report.NormalizedBy (metric : String) (divisor : Float) (after before : Report) :
    Prop where
  counters : after.counters = before.counters
  references : after.references = before.references
  others : ∀ name, name ≠ Workload.normalizedName metric →
    after.derived[name]? = before.derived[name]?
  divided : ∀ value, before.get? metric = some value →
    ∃ quotient, after.get? (Workload.normalizedName metric) = some quotient ∧
      quotient.IsQuotient divisor value
  kept : before.get? metric = none → after = before

/-- The same workload with each of its reports normalized, and no others. -/
structure Workload.NormalizedBy (metric : String) (divisor : Float) (after before : Workload) :
    Prop where
  name : after.name = before.name
  configurations : after.configurations = before.configurations
  reference : after.reference = before.reference
  programs : after.programs = before.programs
  reports : ∀ configuration : String, Option.Rel (Report.NormalizedBy metric divisor)
    after.reports[configuration]? before.reports[configuration]?

namespace Workload

variable {workload result : Workload} {metric : String} {divisor : Float}

theorem ne_normalizedName_self (metric : String) : metric ≠ normalizedName metric := by
  intro h
  have hlength := congrArg String.length h
  simp [normalizedName] at hlength

theorem normalizedBy_normalizeReport (metric : String) (divisor : Float) (report : Report) :
    (normalizeReport metric divisor report).NormalizedBy metric divisor report := by
  unfold normalizeReport
  cases hvalue : report.get? metric with
  | none => exact ⟨rfl, rfl, fun _ _ => rfl, fun _ hfound => by simp [hvalue] at hfound,
      fun _ => rfl⟩
  | some value =>
      refine ⟨rfl, rfl, ?_, ?_, fun habsent => by simp [hvalue] at habsent⟩
      · intro name hname
        simp [Report.setMetric, ExtTreeMap.getElem?_insert, hname.symm]
      · intro found hfound
        obtain rfl : value = found := by simpa [hvalue] using hfound
        exact ⟨_, Report.get?_setMetric_self _ _ _, value.isQuotient_divideBy divisor⟩

theorem normalizedBy_normalize (h : workload.normalize metric = .ok result)
    (hdivisor : workload.divisor? metric = some divisor) :
    result.NormalizedBy metric divisor workload := by
  obtain ⟨other, hother, rfl⟩ := normalize_eq_ok_iff.mp h
  obtain rfl : divisor = other := by simpa [hdivisor] using hother
  refine ⟨rfl, rfl, rfl, rfl, ?_⟩
  intro configuration
  dsimp only
  rw [ExtTreeMap.getElem?_map]
  cases workload.reports[configuration]? with
  | none => exact .none
  | some report => exact .some (normalizedBy_normalizeReport metric divisor report)

theorem NormalizedBy.exists_report (h : result.NormalizedBy metric divisor workload)
    {configuration : String} {report : Report}
    (hheld : workload.reports[configuration]? = some report) :
    ∃ after, result.reports[configuration]? = some after ∧
      after.NormalizedBy metric divisor report :=
  exists_of_rel_right (h.reports configuration) hheld

section Held

variable {reference : Report} (hheld : workload.reports[workload.reference]? = some reference)
include hheld

theorem divisor?_of_held (metric : String) :
    workload.divisor? metric = (reference.get? metric).bind Quantity.divisor? := by
  rw [divisor?, (referenceReport_eq_ok_iff reference).mpr hheld]
  rfl

theorem divisor?_eq_some_iff : workload.divisor? metric = some divisor ↔
    reference.get? metric = some (.single divisor) ∨
      ∃ rest, reference.get? metric = some (.perCore (divisor :: rest)) := by
  rw [divisor?_of_held hheld]
  cases reference.get? metric with
  | none => simp
  | some value => simp [Quantity.divisor?_eq_some_iff]

theorem normalize_eq_error_iff {e : MetricError} : workload.normalize metric = .error e ↔
    (reference.get? metric = none ∨ reference.get? metric = some (.perCore [])) ∧
      e = .metricUnavailable workload.name workload.reference metric := by
  rw [normalize, (referenceReport_eq_ok_iff reference).mpr hheld]
  rcases hvalue : reference.get? metric with _ | ⟨value | ⟨_ | _⟩⟩ <;>
    simp [bind, Except.bind, hvalue, Quantity.divisor?, lacks, throw, throwThe,
      MonadExceptOf.throw, pure, Except.pure, eq_comm]

end Held

/-- What is normalized is still found, so it is normalized the same way again. -/
theorem normalizeReport_normalizeReport (metric : String) (divisor : Float) (report : Report) :
    normalizeReport metric divisor (normalizeReport metric divisor report) =
      normalizeReport metric divisor report := by
  cases hvalue : report.get? metric with
  | none => simp only [normalizeReport, hvalue]
  | some value =>
      have hstill := (report.get?_setMetric_of_ne (ne_normalizedName_self metric).symm
        (value.divideBy divisor)).trans hvalue
      have htwice : ∀ derived : ExtTreeMap String Quantity, ∀ name quantity,
          (derived.insert name quantity).insert name quantity = derived.insert name quantity :=
        fun derived name quantity => ExtTreeMap.ext_getElem? fun other => by
          simp only [ExtTreeMap.getElem?_insert]
          split <;> rfl
      simp only [normalizeReport, hvalue, hstill]
      simp only [Report.setMetric, htwice]

/-- A second call divides by what the first one divided by, though the first one changed the
reference. It changes nothing. -/
theorem normalize_of_normalize (h : workload.normalize metric = .ok result) :
    result.normalize metric = .ok result := by
  obtain ⟨divisor, hdivisor, rfl⟩ := normalize_eq_ok_iff.mp h
  refine normalize_eq_ok_iff.mpr ⟨divisor, ?_, ?_⟩
  · obtain ⟨reference, hreference, hvalue⟩ := Option.bind_eq_some_iff.mp hdivisor
    have hheld := (referenceReport_eq_ok_iff reference).mp
      (Traverse.toOption_eq_some_iff.mp hreference)
    obtain ⟨after, hafter, hreport⟩ := (normalizedBy_normalize h hdivisor).exists_report hheld
    rw [divisor?_of_held hafter, ← hvalue, Report.get?, Report.get?, hreport.counters,
      hreport.others metric (ne_normalizedName_self metric)]
  · simp only [ExtTreeMap.map_map, normalizeReport_normalizeReport]

end Workload

/-- Normalizing fails exactly where the reference lacks the metric or has it of no core, and changes
nothing then. Else it divides by what the reference had before the call, that of the first core for
a metric of the cores: every report that is held and has the metric is given the quotient, of the
same form and part by part, and whatever else there is stays as it was. -/
theorem normalize_divides_reports {workload : Workload} {reference : Report}
    (hheld : workload.reports[workload.reference]? = some reference) (metric : String) :
    ((∃ e, workload.normalize metric = .error e) ↔
      reference.get? metric = none ∨ reference.get? metric = some (.perCore [])) ∧
    (∀ e, workload.normalize metric = .error e →
      e = .metricUnavailable workload.name workload.reference metric ∧
        (Workload.Change.normalize metric).apply workload = workload) ∧
    ∀ divisor, (reference.get? metric = some (.single divisor) ∨
        ∃ rest, reference.get? metric = some (.perCore (divisor :: rest))) →
      ∃ result, workload.normalize metric = .ok result ∧
        (Workload.Change.normalize metric).apply workload = result ∧
        result.NormalizedBy metric divisor workload := by
  refine ⟨?_, ?_, ?_⟩
  · simp [Workload.normalize_eq_error_iff hheld]
  · intro e he
    exact ⟨((Workload.normalize_eq_error_iff hheld).mp he).2, by
      rw [Workload.Change.apply, he]
      rfl⟩
  · intro divisor hvalue
    have hdivisor := (Workload.divisor?_eq_some_iff hheld).mpr hvalue
    have hcall := Workload.normalize_eq_ok_iff.mpr ⟨divisor, hdivisor, rfl⟩
    exact ⟨_, hcall, by rw [Workload.Change.apply, hcall]; rfl,
      Workload.normalizedBy_normalize hcall hdivisor⟩

/-- Values of two cores, and a single number where another one is normalized already. The last
report has neither. -/
def unevenReports : List (String × Report) :=
  [("DDR3", Report.empty.setMetric "ipc" (.perCore [2, 4])),
    ("DDR4", (Report.empty.setMetric "normalized_ipc" (.single 9)).setMetric "ipc" (.single 1)),
    ("DDR5", Report.empty.setMetric "bandwidth" (.single 3))]

/-- A workload that lists two of the three reports that it holds. -/
def unevenWorkload : Workload where
  name := "mcf"
  configurations := ["DDR3", "DDR4"]
  reference := "DDR3"
  programs := none
  reports := .ofList unevenReports

theorem normalize_divides_reports_uneven :
    ∃ result here there, unevenWorkload.normalize "ipc" = .ok result ∧
      result.reports["DDR3"]? = some here ∧
        here.get? "normalized_ipc" = some (.perCore [2 / 2, 4 / 2]) ∧
      result.reports["DDR4"]? = some there ∧
        there.get? "normalized_ipc" = some (.single (1 / 2)) ∧
      result.reports["DDR5"]? = unevenWorkload.reports["DDR5"]? := by
  have hheld : ∀ configuration report, (configuration, report) ∈ unevenReports →
      unevenWorkload.reports[configuration]? = some report :=
    fun _ _ hmem => ExtTreeMap.getElem?_ofList_of_mem Std.ReflCmp.compare_self
      (by simp [unevenReports]) hmem
  have hhere := hheld "DDR3" _ (.head _)
  have hthere := hheld "DDR4" _ (.tail _ (.head _))
  have hlast := hheld "DDR5" _ (.tail _ (.tail _ (.head _)))
  obtain ⟨-, -, hsucceeds⟩ := normalize_divides_reports hhere "ipc"
  obtain ⟨result, hresult, -, hnormalized⟩ :=
    hsucceeds 2 (.inr ⟨[4], Report.get?_setMetric_self _ _ _⟩)
  obtain ⟨here, hhereHeld, hhereReport⟩ := hnormalized.exists_report hhere
  obtain ⟨there, hthereHeld, hthereReport⟩ := hnormalized.exists_report hthere
  obtain ⟨last, hlastHeld, hlastReport⟩ := hnormalized.exists_report hlast
  refine ⟨result, here, there, hresult, hhereHeld, ?_, hthereHeld, ?_, ?_⟩
  · obtain ⟨quotient, hfound, hquotient⟩ :=
      hhereReport.divided _ (Report.get?_setMetric_self _ _ _)
    cases hquotient with
    | perCore hparts =>
        simp only [List.forall₂_cons_right_iff, List.forall₂_nil_right_iff] at hparts
        obtain ⟨_, _, rfl, ⟨_, _, rfl, rfl, rfl⟩, rfl⟩ := hparts
        exact hfound
  · obtain ⟨quotient, hfound, hquotient⟩ :=
      hthereReport.divided _ (Report.get?_setMetric_self _ _ _)
    cases hquotient
    exact hfound
  · rw [hlastHeld, hlast, hlastReport.kept (by simp [Report.get?, Report.setMetric, Report.empty])]

end DramSweep
