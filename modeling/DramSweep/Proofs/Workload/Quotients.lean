import DramSweep.Proofs.Report.Quotients
import DramSweep.Proofs.Workload.Holding

/-!
What is divided by zero and what is not. Reading a file, loading a workload and comparing two runs
never divide by zero: a metric with such a division is absent, and the comparison fails. Normalizing
divides by what the reference has of the metric, whatever it is; where that is zero, quotients by
zero are stored as those by any other value.
-/

namespace DramSweep

open Std (ExtTreeMap)

/-- No quotient is a normalized metric. -/
theorem QuotientMetric.name_ne_normalizedName (metric : QuotientMetric) (other : String) :
    metric.name ≠ Workload.normalizedName other := by
  apply Workload.ne_normalizedName
  cases metric with
  | rowRate outcome => cases outcome <;> decide
  | _ => decide

/-- Normalizing leaves the divisions of a report as they were. -/
theorem Report.OnlyNormalized.dividesSoundly {after before : Report}
    (h : after.OnlyNormalized before) (hbefore : before.DividesSoundly) :
    after.DividesSoundly := by
  intro metric
  have hquotients : after.quotients? metric = before.quotients? metric := by
    unfold Report.quotients?
    rw [h.counters, h.references, h.ipc?_eq]
  rw [h.derived metric.name metric.name_ne_normalizedName, hquotients, hbefore metric]

namespace Workload

variable {tree : FileTree} {source : WorkloadSource} {loaded : Workload}

/-- What normalizing a metric divides by: what the reference has of it. -/
def divisor? (workload : Workload) (metric : String) : Option Float :=
  workload.referenceReport.toOption.bind fun reference =>
    (reference.get? metric).bind Quantity.divisor?

theorem normalizedName_inj {metric other : String}
    (h : normalizedName metric = normalizedName other) : metric = other := by
  simpa [normalizedName] using h

/-- Normalizing fails for want of something to divide by, and for no other reason. -/
theorem normalize_eq_ok_iff {workload result : Workload} {metric : String} :
    workload.normalize metric = .ok result ↔ ∃ divisor, workload.divisor? metric = some divisor ∧
      result = { workload with
        reports := workload.reports.map fun _ report =>
          normalizeReport metric divisor report } := by
  unfold normalize divisor?
  cases workload.referenceReport with
  | error e => simp [bind, Except.bind, Except.toOption]
  | ok reference =>
      cases hdivisor : (reference.get? metric).bind Quantity.divisor? with
      | none => simp [bind, Except.bind, Except.toOption, hdivisor, throw, throwThe,
          MonadExceptOf.throw]
      | some divisor =>
          simp [bind, Except.bind, Except.toOption, hdivisor, pure, Except.pure, eq_comm]

theorem normalizeEach_concat (workload : Workload) (metrics : List String) (last : String) :
    workload.normalizeEach (metrics ++ [last]) =
      ((workload.normalizeEach metrics).normalize last).toOption.getD
        (workload.normalizeEach metrics) := by
  simp [normalizeEach]

/-- No report has a normalized metric when it is loaded. -/
theorem not_mem_normalized_of_load (hload : source.load tree = .ok loaded)
    {configuration : String} {report : Report}
    (hheld : loaded.reports[configuration]? = some report) (metric : String) :
    normalizedName metric ∉ report.derived := by
  obtain ⟨bytes, references, hread, -⟩ := WorkloadSource.exists_read_of_loadReport
    ((WorkloadSource.getElem?_reports_of_load hload _ _).mp hheld).2
  have hnames : ∀ name ∈ "weighted_speedup" :: Counters.derivedNames,
      name.toList.head? ≠ some 'n' := by
    decide
  have hspeedup := ne_normalizedName (hnames "weighted_speedup" (by simp)) metric
  rw [ExtTreeMap.mem_iff_isSome_getElem?, Report.derived_of_read hread hspeedup.symm,
    ← ExtTreeMap.mem_iff_isSome_getElem?]
  intro hmem
  have hname := hnames _ (List.mem_cons_of_mem _ (Counters.mem_derivedNames_of_mem_derived hmem))
  exact ne_normalizedName hname metric rfl

/-- What a call divides in the report of a configuration: what the report has of the metric by what
the reference has of it. -/
def Divides (workload : Workload) (configuration metric : String) (divisor : Float)
    (part : Quantity) : Prop :=
  workload.divisor? metric = some divisor ∧
    (workload.reports[configuration]?).bind (·.get? metric) = some part

/-- A call divides by zero exactly when what the reference has of the metric is zero: the reference
is one of the reports that it divides. -/
theorem divides_soundly_iff (workload : Workload) (metric : String) :
    (∀ configuration divisor part, workload.Divides configuration metric divisor part →
        (Quotients.ofQuantity divisor part).isSound = true) ↔
      ∀ divisor, workload.divisor? metric = some divisor → (divisor != 0) = true := by
  constructor
  · intro hsound divisor hdivisor
    obtain ⟨reference, hreference, hpart⟩ := Option.bind_eq_some_iff.mp hdivisor
    obtain ⟨part, hpart, hfirst⟩ := Option.bind_eq_some_iff.mp hpart
    have hheld : workload.reports[workload.reference]? = some reference := by
      unfold referenceReport at hreference
      split at hreference
      · rename_i report hheld
        cases hreference
        exact hheld
      · cases hreference
    have hsoundReference :=
      hsound workload.reference divisor part ⟨hdivisor, by rw [hheld]; exact hpart⟩
    obtain ⟨division, hdivision⟩ := Quotients.exists_mem_ofQuantity hfirst divisor
    rw [← Quotients.den_of_mem_ofQuantity hdivision]
    exact List.all_eq_true.mp hsoundReference division hdivision
  · intro hnonzero configuration divisor part hdivides
    rw [Quotients.isSound, List.all_eq_true]
    intro division hdivision
    rw [Quotients.den_of_mem_ofQuantity hdivision]
    exact hnonzero divisor hdivides.1

/-- Every normalized metric comes from one of the calls. -/
theorem exists_call_of_normalized (hload : source.load tree = .ok loaded) (metrics : List String)
    {configuration : String} {report : Report}
    (hheld : (loaded.normalizeEach metrics).reports[configuration]? = some report)
    {metric : String} {value : Quantity}
    (hvalue : report.derived[normalizedName metric]? = some value) :
    ∃ earlier later divisor part, metrics = earlier ++ metric :: later ∧
      (loaded.normalizeEach earlier).Divides configuration metric divisor part ∧
      value = (Quotients.ofQuantity divisor part).value := by
  induction metrics using List.reverseRecOn generalizing report with
  | nil =>
      have habsent := not_mem_normalized_of_load hload hheld metric
      rw [ExtTreeMap.mem_iff_isSome_getElem?, hvalue] at habsent
      exact absurd rfl habsent
  | append_singleton metrics last ih =>
      -- a value that was there before the last call comes from an earlier one
      have hearlier : ∀ before, (loaded.normalizeEach metrics).reports[configuration]? =
          some before → before.derived[normalizedName metric]? = some value →
          ∃ earlier later divisor part, metrics ++ [last] = earlier ++ metric :: later ∧
            (loaded.normalizeEach earlier).Divides configuration metric divisor part ∧
            value = (Quotients.ofQuantity divisor part).value := by
        intro before hheld hvalue
        obtain ⟨earlier, later, divisor, part, rfl, hcall⟩ := ih hheld hvalue
        exact ⟨earlier, later ++ [last], divisor, part, by simp, hcall⟩
      rw [normalizeEach_concat] at hheld
      cases hcall : (loaded.normalizeEach metrics).normalize last with
      | error e =>
          rw [hcall] at hheld
          exact hearlier report hheld hvalue
      | ok result =>
          obtain ⟨divisor, hdivisor, hresult⟩ := normalize_eq_ok_iff.mp hcall
          rw [hcall, hresult] at hheld
          obtain ⟨before, hbefore, hreport⟩ := Option.map_eq_some_iff.mp
            ((ExtTreeMap.getElem?_map).symm.trans hheld)
          cases hpart : before.get? last with
          | none =>
              simp only [normalizeReport, hpart] at hreport
              subst hreport
              exact hearlier before hbefore hvalue
          | some part =>
              simp only [normalizeReport, hpart] at hreport
              subst hreport
              simp only [Report.setMetric, ExtTreeMap.getElem?_insert] at hvalue
              by_cases hsame : last = metric
              · subst hsame
                rw [if_pos (by simp), ← Quotients.value_ofQuantity] at hvalue
                exact ⟨metrics, [], divisor, part, rfl, ⟨hdivisor, by rw [hbefore]; exact hpart⟩,
                  (Option.some.inj hvalue).symm⟩
              · rw [if_neg (by simpa using mt normalizedName_inj hsame)] at hvalue
                exact hearlier before hbefore hvalue

end Workload

/-- Divisions by zero come from normalizing alone. In a report that is read or loaded, whatever is
normalized later, every metric that is a quotient is there exactly when what it divides was found
and no division is by zero; a speedup over one run is not given by way of zero. A normalized metric
is what a call divided, by what the reference had of the metric then. A call fails exactly where the
reference has nothing to divide by, and divides by zero exactly where that is zero. -/
theorem zero_divides_normalized_alone (bytes : Bytes) (references : Option (List Report))
    (multicore alone : Report) (tree : FileTree) (source : WorkloadSource)
    (metrics : List String) :
    (∀ report, Report.read bytes references = .ok report → report.DividesSoundly) ∧
    (∀ speedup, multicore.speedupOver alone = .ok speedup →
      ∃ quotients, multicore.quotientsOver? alone = some quotients ∧ quotients.isSound = true ∧
        quotients.value = .single speedup) ∧
    ∀ loaded, source.load tree = .ok loaded →
      (∀ (configuration : String) report,
        (loaded.normalizeEach metrics).reports[configuration]? = some report →
          report.DividesSoundly ∧
          ∀ metric value, report.derived[Workload.normalizedName metric]? = some value →
            ∃ earlier later divisor part, metrics = earlier ++ metric :: later ∧
              (loaded.normalizeEach earlier).Divides configuration metric divisor part ∧
              value = (Quotients.ofQuantity divisor part).value) ∧
      ∀ metric,
        ((∃ result, (loaded.normalizeEach metrics).normalize metric = .ok result) ↔
          ((loaded.normalizeEach metrics).divisor? metric).isSome) ∧
        ((∀ configuration divisor part,
            (loaded.normalizeEach metrics).Divides configuration metric divisor part →
              (Quotients.ofQuantity divisor part).isSound = true) ↔
          ∀ divisor, (loaded.normalizeEach metrics).divisor? metric = some divisor →
            (divisor != 0) = true) := by
  refine ⟨fun _ => Report.dividesSoundly_of_read, fun _ => Report.isSound_of_speedupOver,
    fun loaded hload => ⟨?_, ?_⟩⟩
  · intro configuration report hheld
    constructor
    · obtain ⟨before, hbefore, honly⟩ :=
        WorkloadSource.exists_loadReport_of_normalizeEach hload hheld
      obtain ⟨bytes, references, hread, -⟩ := WorkloadSource.exists_read_of_loadReport hbefore
      exact honly.dividesSoundly (Report.dividesSoundly_of_read hread)
    · intro metric value hvalue
      exact Workload.exists_call_of_normalized hload metrics hheld hvalue
  · intro metric
    refine ⟨?_, Workload.divides_soundly_iff _ metric⟩
    simp only [Workload.normalize_eq_ok_iff, Option.isSome_iff_exists]
    exact ⟨fun ⟨_, divisor, hdivisor, _⟩ => ⟨divisor, hdivisor⟩,
      fun ⟨divisor, hdivisor⟩ => ⟨_, divisor, hdivisor, rfl⟩⟩

/-- A program that runs no instruction in one configuration and some in the other. -/
def idleTree : FileTree :=
  let file (lines : List String) := Entry.file (lines.flatMap fun line =>
    Bytes.ofText (line ++ "\n"))
  { entries := .ofList [(["stats"], .directory), (["stats", "mcf"], .directory),
      (["stats", "mcf", "DDR3.stats"], file ["ramulator.record_insts_core_0 0",
        "ramulator.record_cycs_core_0 100"]),
      (["stats", "mcf", "DDR4.stats"], file ["ramulator.record_insts_core_0 100",
        "ramulator.record_cycs_core_0 100"])] }

def idleSource (reference : String) : WorkloadSource where
  directory := ⟨"stats"⟩
  name := "mcf"
  configurations := ["DDR3", "DDR4"]
  reference := reference
  programs := none

/-- The parts of a metric of one configuration. -/
def Workload.parts? (workload : Workload) (configuration metric : String) : Option (List Float) :=
  ((workload.reports[configuration]?).bind (·.derived[metric]?)).bind Quantity.perCore?

theorem Workload.parts?_eq_some_iff {workload : Workload} {configuration metric : String}
    {parts : List Float} : workload.parts? configuration metric = some parts ↔
      ∃ report, workload.reports[configuration]? = some report ∧
        report.derived[metric]? = some (.perCore parts) := by
  have hperCore : ∀ value : Quantity, value.perCore? = some parts ↔ value = .perCore parts := by
    rintro (value | values) <;> simp [Quantity.perCore?]
  simp only [parts?, Option.bind_eq_some_iff, hperCore]
  constructor
  · rintro ⟨_, ⟨report, hheld, hvalue⟩, rfl⟩
    exact ⟨report, hheld, hvalue⟩
  · rintro ⟨report, hheld, hvalue⟩
    exact ⟨_, ⟨report, hheld, hvalue⟩, rfl⟩

theorem zero_divides_normalized_alone_busy :
    ∃ loaded report, (idleSource "DDR4").load idleTree = .ok loaded ∧
      (loaded.normalizeEach ["row_hit_rate", "ipc"]).reports["DDR3"]? = some report ∧
      report.derived[Workload.normalizedName "ipc"]? = some (.perCore [0]) ∧
      report.DividesSoundly ∧
      ∃ earlier divisor part, (loaded.normalizeEach earlier).Divides "DDR3" "ipc" divisor part ∧
        .perCore [0] = (Quotients.ofQuantity divisor part).value := by
  have hparts : ((idleSource "DDR4").load idleTree).toOption.bind (fun loaded =>
      (loaded.normalizeEach ["row_hit_rate", "ipc"]).parts? "DDR3" "normalized_ipc") =
        some [0] := by
    decide +kernel
  obtain ⟨loaded, hloaded, hvalue⟩ := Option.bind_eq_some_iff.mp hparts
  obtain ⟨report, hheld, hvalue⟩ := Workload.parts?_eq_some_iff.mp hvalue
  have hload := Traverse.toOption_eq_some_iff.mp hloaded
  obtain ⟨-, -, hloads⟩ := zero_divides_normalized_alone [] none .empty .empty idleTree
    (idleSource "DDR4") ["row_hit_rate", "ipc"]
  obtain ⟨hreports, -⟩ := hloads loaded hload
  obtain ⟨hsound, hcalls⟩ := hreports "DDR3" report hheld
  obtain ⟨earlier, _, divisor, part, -, hcall, hquotients⟩ := hcalls "ipc" _ hvalue
  exact ⟨loaded, report, hload, hheld, hvalue, hsound, earlier, divisor, part, hcall, hquotients⟩

/-- The reference runs no instruction, so its ipc is zero. Normalizing divides by it and goes
through: zero by zero is stored for the reference, and one by zero for the other configuration. -/
theorem normalizing_divides_by_zero :
    ∃ loaded result here there, (idleSource "DDR3").load idleTree = .ok loaded ∧
      loaded.normalize "ipc" = .ok result ∧ loaded.divisor? "ipc" = some 0 ∧
      result.reports["DDR3"]? = some here ∧
        here.derived["normalized_ipc"]? = some (.perCore [0 / 0]) ∧
      result.reports["DDR4"]? = some there ∧
        there.derived["normalized_ipc"]? = some (.perCore [1 / 0]) ∧
      (0 / 0 : Float).isNaN ∧ (1 / 0 : Float).isInf := by
  have hshown : ((idleSource "DDR3").load idleTree).toOption.bind (fun loaded =>
      (loaded.normalize "ipc").toOption.map fun result => (loaded.divisor? "ipc",
        result.parts? "DDR3" "normalized_ipc", result.parts? "DDR4" "normalized_ipc")) =
      some (some 0, some [0 / 0], some [1 / 0]) := by
    decide +kernel
  obtain ⟨loaded, hloaded, hshown⟩ := Option.bind_eq_some_iff.mp hshown
  obtain ⟨result, hresult, hshown⟩ := Option.map_eq_some_iff.mp hshown
  simp only [Prod.mk.injEq, Workload.parts?_eq_some_iff] at hshown
  obtain ⟨hdivisor, ⟨here, hhere, hhereValue⟩, ⟨there, hthere, hthereValue⟩⟩ := hshown
  exact ⟨loaded, result, here, there, Traverse.toOption_eq_some_iff.mp hloaded,
    Traverse.toOption_eq_some_iff.mp hresult, hdivisor, hhere, hhereValue, hthere, hthereValue,
    by decide +kernel, by decide +kernel⟩

end DramSweep
