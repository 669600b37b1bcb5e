import DramSweep.Proofs.Traverse
import DramSweep.Workload.Basic

/-!
What normalizing changes. One call adds a normalized metric to the reports that have the metric, or
fails and changes nothing; so any number of calls leaves everything but normalized metrics as it
was.
-/

namespace DramSweep

open Std (ExtTreeMap)

section Related

variable {α β : Type} {related : α → β → Prop} {a? : Option α} {b? : Option β}
  (h : Option.Rel related a? b?)
include h

theorem exists_of_rel_left {a : α} (ha : a? = some a) : ∃ b, b? = some b ∧ related a b := by
  subst ha
  cases h with
  | some hrelated => exact ⟨_, rfl, hrelated⟩

theorem exists_of_rel_right {b : β} (hb : b? = some b) : ∃ a, a? = some a ∧ related a b := by
  subst hb
  cases h with
  | some hrelated => exact ⟨_, rfl, hrelated⟩

end Related

theorem Workload.ne_normalizedName {name : String} (h : name.toList.head? ≠ some 'n')
    (metric : String) : name ≠ normalizedName metric := by
  rintro rfl
  simp [normalizedName] at h

/-- A report that differs from an earlier one in normalized metrics at most. -/
structure Report.OnlyNormalized (after before : Report) : Prop where
  counters : after.counters = before.counters
  references : after.references = before.references
  derived : ∀ name, (∀ metric, name ≠ Workload.normalizedName metric) →
    after.derived[name]? = before.derived[name]?

namespace Report.OnlyNormalized

variable {after between before : Report}

theorem refl (report : Report) : report.OnlyNormalized report where
  counters := rfl
  references := rfl
  derived := fun _ _ => rfl

theorem trans (hlater : after.OnlyNormalized between) (hearlier : between.OnlyNormalized before) :
    after.OnlyNormalized before where
  counters := hlater.counters.trans hearlier.counters
  references := hlater.references.trans hearlier.references
  derived := fun name hname => (hlater.derived name hname).trans (hearlier.derived name hname)

theorem rel_trans {after between before : Option Report}
    (hlater : Option.Rel Report.OnlyNormalized after between)
    (hearlier : Option.Rel Report.OnlyNormalized between before) :
    Option.Rel Report.OnlyNormalized after before := by
  cases hlater with
  | none => exact hearlier
  | some hreport =>
      cases hearlier with
      | some hbefore => exact .some (hreport.trans hbefore)

theorem get?_eq (h : after.OnlyNormalized before) {name : String}
    (hname : ∀ metric, name ≠ Workload.normalizedName metric) :
    after.get? name = before.get? name := by
  unfold get?
  rw [h.counters, h.derived name hname]

theorem ipc?_eq (h : after.OnlyNormalized before) : after.ipc? = before.ipc? := by
  unfold ipc?
  rw [h.derived "ipc" (Workload.ne_normalizedName (by decide))]

end Report.OnlyNormalized

namespace Workload

theorem onlyNormalized_normalizeReport (metric : String) (divisor : Float) (report : Report) :
    (normalizeReport metric divisor report).OnlyNormalized report := by
  unfold normalizeReport
  cases report.get? metric with
  | none => exact .refl report
  | some value =>
      refine ⟨rfl, rfl, ?_⟩
      intro name hname
      simp [Report.setMetric, ExtTreeMap.getElem?_insert, (hname metric).symm]

/-- Normalizing succeeds when the reference has a value to divide by, and then every report held is
normalized by it. -/
theorem normalize_cases {workload result : Workload} {metric : String}
    (h : workload.normalize metric = .ok result) :
    ∃ reference divisor, workload.referenceReport = .ok reference ∧
      (reference.get? metric).bind Quantity.divisor? = some divisor ∧
      result = { workload with
        reports := workload.reports.map fun _ report => normalizeReport metric divisor report } := by
  obtain ⟨reference, hreference, hrest⟩ := Traverse.bind_eq_ok_iff.mp h
  cases hdivisor : (reference.get? metric).bind Quantity.divisor? with
  | none =>
      rw [hdivisor] at hrest
      cases hrest
  | some divisor =>
      rw [hdivisor] at hrest
      cases hrest
      exact ⟨reference, divisor, hreference, hdivisor, rfl⟩

/-- A workload that differs from an earlier one in normalized metrics at most. -/
structure OnlyNormalized (after before : Workload) : Prop where
  name : after.name = before.name
  configurations : after.configurations = before.configurations
  reference : after.reference = before.reference
  programs : after.programs = before.programs
  reports : ∀ configuration : String,
    Option.Rel Report.OnlyNormalized after.reports[configuration]? before.reports[configuration]?

/-- A workload after calls that normalize, one for each metric. A call that fails changes
nothing. -/
def normalizeEach (workload : Workload) (metrics : List String) : Workload :=
  metrics.foldl (fun held metric => (held.normalize metric).toOption.getD held) workload

namespace OnlyNormalized

variable {after between before : Workload}

theorem refl (workload : Workload) : workload.OnlyNormalized workload where
  name := rfl
  configurations := rfl
  reference := rfl
  programs := rfl
  reports := by
    intro configuration
    cases workload.reports[configuration]? with
    | none => exact .none
    | some report => exact .some (.refl report)

theorem trans (hlater : after.OnlyNormalized between) (hearlier : between.OnlyNormalized before) :
    after.OnlyNormalized before where
  name := hlater.name.trans hearlier.name
  configurations := hlater.configurations.trans hearlier.configurations
  reference := hlater.reference.trans hearlier.reference
  programs := hlater.programs.trans hearlier.programs
  reports := fun configuration =>
    Report.OnlyNormalized.rel_trans (hlater.reports configuration) (hearlier.reports configuration)

/-- A report that is held was held before, with other normalized metrics at most. -/
theorem exists_report (h : after.OnlyNormalized before) {configuration : String}
    {report : Report} (hheld : after.reports[configuration]? = some report) :
    ∃ earlier, before.reports[configuration]? = some earlier ∧ report.OnlyNormalized earlier :=
  exists_of_rel_left (h.reports configuration) hheld

/-- A report that was held before is still held. -/
theorem exists_report_after (h : after.OnlyNormalized before) {configuration : String}
    {earlier : Report} (hheld : before.reports[configuration]? = some earlier) :
    ∃ report, after.reports[configuration]? = some report := by
  obtain ⟨report, hreport, -⟩ := exists_of_rel_right (h.reports configuration) hheld
  exact ⟨report, hreport⟩

end OnlyNormalized

/-- One call of normalize touches normalized metrics alone. -/
theorem onlyNormalized_normalize {workload result : Workload} {metric : String}
    (h : workload.normalize metric = .ok result) : result.OnlyNormalized workload := by
  obtain ⟨reference, divisor, -, -, rfl⟩ := normalize_cases h
  refine ⟨rfl, rfl, rfl, rfl, ?_⟩
  intro configuration
  dsimp only
  rw [ExtTreeMap.getElem?_map]
  cases workload.reports[configuration]? with
  | none => exact .none
  | some report => exact .some (onlyNormalized_normalizeReport metric divisor report)

/-- Any number of calls, failing ones among them, touches normalized metrics alone. -/
theorem onlyNormalized_normalizeEach (workload : Workload) (metrics : List String) :
    (workload.normalizeEach metrics).OnlyNormalized workload := by
  induction metrics generalizing workload with
  | nil => exact .refl workload
  | cons metric rest ih =>
      change ((((workload.normalize metric).toOption.getD workload)).normalizeEach
        rest).OnlyNormalized workload
      cases hcall : workload.normalize metric with
      | error e => exact ih workload
      | ok result => exact (ih result).trans (onlyNormalized_normalize hcall)

end Workload

end DramSweep
