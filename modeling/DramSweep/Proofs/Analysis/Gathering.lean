import DramSweep.Analysis
import DramSweep.Proofs.Workload.Availability
import DramSweep.Proofs.Workload.Sorting

/-!
What an analysis gathers. Every listed workload is loaded with its own programs, also where a name
is listed twice and where files are missing; then all are put in order, and none is lost.
-/

namespace DramSweep

namespace WorkloadSource

variable {tree : FileTree} {source : WorkloadSource}

theorem reference_mem_of_load {loaded : Workload} (h : source.load tree = .ok loaded) :
    loaded.reference ∈ loaded.reports := by
  obtain ⟨hlisted, hreadable⟩ := exists_load_iff.mp ⟨loaded, h⟩
  obtain ⟨report, hreport⟩ := hreadable _ hlisted
  have hheld := (getElem?_reports_of_load h _ _).mpr ⟨hlisted, hreport⟩
  have hreference : loaded.reference = source.reference := by
    obtain ⟨-, reports, -, rfl⟩ := load_cases h
    rfl
  rw [hreference, Std.ExtTreeMap.mem_iff_isSome_getElem?, hheld]
  rfl

end WorkloadSource

namespace Analysis

variable {tree : FileTree} {plan : AnalysisPlan}

/-- The programs of the workload at a position. -/
def programsAt (plan : AnalysisPlan) (position : Nat) : Option (List String) :=
  plan.programLists.bind (·[position]?)

/-- No report that the analysis reads comes with references that cannot be matched with its cores.
None is read where the lists of programs are not as many as the workloads, and none without a listed
reference. -/
def Readable (tree : FileTree) (plan : AnalysisPlan) : Prop :=
  (∀ lists, plan.programLists = some lists → lists.length = plan.workloads.length) →
    plan.reference ∈ plan.configurations →
      ∀ (position : Nat) (name : String), plan.workloads[position]? = some name →
        ∀ configuration ∈ plan.configurations, ∃ report,
          (source plan name (programsAt plan position)).loadReport tree configuration = .ok report

/-- Where there are lists of programs, there is one for each workload. -/
theorem exists_programLists_iff : (∃ lists, programLists plan = .ok lists) ↔
    ∀ lists, plan.programLists = some lists → lists.length = plan.workloads.length := by
  unfold programLists
  cases plan.programLists with
  | none => simp
  | some lists => by_cases hlength : lists.length = plan.workloads.length <;> simp [hlength]

/-- Each workload stands beside its own programs. -/
theorem getElem?_zip_programLists {lists : List (Option (List String))}
    (h : programLists plan = .ok lists) (position : Nat) :
    (plan.workloads.zip lists)[position]? =
      plan.workloads[position]?.map fun name => (name, programsAt plan position) := by
  have hlist : ∀ name, plan.workloads[position]? = some name →
      lists[position]? = some (programsAt plan position) := by
    intro name hname
    obtain ⟨hposition, -⟩ := List.getElem?_eq_some_iff.mp hname
    unfold programLists at h
    unfold programsAt
    cases hgiven : plan.programLists with
    | none =>
        rw [hgiven] at h
        cases h
        simp [hposition]
    | some given =>
        rw [hgiven] at h
        dsimp only at h
        by_cases hlength : given.length = plan.workloads.length
        · rw [if_pos hlength] at h
          cases h
          simp [hlength, hposition]
        · rw [if_neg hlength] at h
          cases h
  rw [List.zip_eq_zipWith, List.getElem?_zipWith]
  cases hname : plan.workloads[position]? with
  | none => rfl
  | some name =>
      rw [hlist name hname]
      rfl

/-- A workload with a reference report is normalized, or stays as it is. -/
theorem normalizeOrKeep_eq (metric : String) {workload : Workload}
    (h : workload.reference ∈ workload.reports) :
    normalizeOrKeep metric workload = .ok ((workload.normalize metric).toOption.getD workload) := by
  obtain ⟨report, hreport⟩ := Workload.exists_report_of_mem h
  have hreference := (Workload.referenceReport_eq_ok_iff report).mpr hreport
  unfold normalizeOrKeep
  cases hcall : workload.normalize metric with
  | ok normalized => rfl
  | error e =>
      unfold Workload.normalize at hcall
      rw [hreference] at hcall
      dsimp only [bind, Except.bind] at hcall
      split at hcall
      · cases hcall
        rfl
      · cases hcall

/-- A workload is gathered when it can be loaded. -/
theorem gatherOne_eq_ok_iff {name : String} {programs : Option (List String)}
    {gathered : Workload} : gatherOne tree plan name programs = .ok gathered ↔
      ∃ loaded, (source plan name programs).load tree = .ok loaded ∧
        (loaded.normalize (TableGroup.performance (isMix plan))).toOption.getD loaded =
          gathered := by
  unfold gatherOne
  rw [Traverse.bind_eq_ok_iff]
  constructor
  · rintro ⟨loaded, hload, hnormalize⟩
    rw [normalizeOrKeep_eq _ (WorkloadSource.reference_mem_of_load hload)] at hnormalize
    exact ⟨loaded, hload, Except.ok.inj hnormalize⟩
  · rintro ⟨loaded, hload, rfl⟩
    exact ⟨loaded, hload, normalizeOrKeep_eq _ (WorkloadSource.reference_mem_of_load hload)⟩

/-- Gathering lists the programs, gathers one workload after the other, and puts them in order. -/
theorem gather_eq_ok_iff {workloads : List Workload} : gather tree plan = .ok workloads ↔
    ∃ lists gathered, programLists plan = .ok lists ∧
      (plan.workloads.zip lists).mapM (fun (name, programs) =>
        gatherOne tree plan name programs) = .ok gathered ∧
      Workload.heaviestFirst gathered = workloads := by
  unfold gather
  simp only [Traverse.bind_eq_ok_iff]
  constructor
  · rintro ⟨lists, hlists, gathered, hgathered, hsorted⟩
    refine ⟨lists, gathered, hlists, ?_, Except.ok.inj hsorted⟩
    revert hgathered
    cases (plan.workloads.zip lists).mapM fun (name, programs) =>
      gatherOne tree plan name programs <;> simp [Except.mapError]
  · rintro ⟨lists, gathered, hlists, hgathered, rfl⟩
    exact ⟨lists, hlists, gathered, by rw [hgathered]; rfl, rfl⟩

/-- All workloads are gathered when the reference is listed, and it need not be where there are
none. -/
theorem exists_gathered_iff (hreadable : Readable tree plan)
    {lists : List (Option (List String))} (hlists : programLists plan = .ok lists) :
    (∃ gathered, (plan.workloads.zip lists).mapM (fun (name, programs) =>
        gatherOne tree plan name programs) = .ok gathered) ↔
      plan.workloads = [] ∨ plan.reference ∈ plan.configurations := by
  rw [Traverse.exists_mapM_eq_ok_iff]
  constructor
  · intro hall
    cases hworkloads : plan.workloads with
    | nil => exact Or.inl rfl
    | cons name rest =>
        have hfirst := getElem?_zip_programLists hlists 0
        rw [hworkloads] at hfirst hall
        obtain ⟨gathered, hgathered⟩ := hall _ (List.mem_of_getElem? hfirst)
        obtain ⟨loaded, hload, -⟩ := gatherOne_eq_ok_iff.mp hgathered
        exact Or.inr (WorkloadSource.exists_load_iff.mp ⟨loaded, hload⟩).1
  · have hfit := exists_programLists_iff.mp ⟨lists, hlists⟩
    rintro (hnone | hlisted) ⟨name, programs⟩ hpair
    · simp [hnone] at hpair
    · obtain ⟨position, hposition⟩ := List.mem_iff_getElem?.mp hpair
      rw [getElem?_zip_programLists hlists] at hposition
      obtain ⟨_, hname, heq⟩ := Option.map_eq_some_iff.mp hposition
      cases heq
      have hloads : ∃ loaded, (source plan name (programsAt plan position)).load tree =
          .ok loaded :=
        WorkloadSource.exists_load_iff.mpr ⟨hlisted, hreadable hfit hlisted position name hname⟩
      obtain ⟨loaded, hload⟩ := hloads
      exact ⟨_, gatherOne_eq_ok_iff.mpr ⟨loaded, hload, rfl⟩⟩

/-- Where every report can be read, an analysis gathers its workloads exactly when there is a list
of programs for each of them or no list at all, and the reference is listed unless there is no
workload. What it gathers is, up to its order, each workload as it is loaded with the programs at
its position, normalized where that can be done. -/
theorem gathered_exactly (hreadable : Readable tree plan) :
    ((∃ workloads, gather tree plan = .ok workloads) ↔
      (∀ lists, plan.programLists = some lists → lists.length = plan.workloads.length) ∧
        (plan.workloads = [] ∨ plan.reference ∈ plan.configurations)) ∧
    ∀ workloads, gather tree plan = .ok workloads → ∃ gathered : List Workload,
      workloads.Perm gathered ∧ gathered.length = plan.workloads.length ∧
      ∀ (position : Nat) (name : String), plan.workloads[position]? = some name →
        ∃ loaded, (source plan name (programsAt plan position)).load tree = .ok loaded ∧
          gathered[position]? = some ((loaded.normalize
            (if plan.programLists.isSome then "weighted_speedup" else "ipc")).toOption.getD
              loaded) := by
  constructor
  · constructor
    · rintro ⟨workloads, hgather⟩
      obtain ⟨lists, gathered, hlists, hgathered, -⟩ := gather_eq_ok_iff.mp hgather
      exact ⟨exists_programLists_iff.mp ⟨lists, hlists⟩,
        (exists_gathered_iff hreadable hlists).mp ⟨gathered, hgathered⟩⟩
    · rintro ⟨hlengths, hlisted⟩
      obtain ⟨lists, hlists⟩ := exists_programLists_iff.mpr hlengths
      obtain ⟨gathered, hgathered⟩ := (exists_gathered_iff hreadable hlists).mpr hlisted
      exact ⟨_, gather_eq_ok_iff.mpr ⟨lists, gathered, hlists, hgathered, rfl⟩⟩
  · intro workloads hgather
    obtain ⟨lists, gathered, hlists, hgathered, rfl⟩ := gather_eq_ok_iff.mp hgather
    refine ⟨gathered, Workload.perm_heaviestFirst gathered, ?_, ?_⟩
    · have hnames : (plan.workloads.zip lists).map Prod.fst = plan.workloads := by
        refine List.ext_getElem? ?_
        intro position
        simp [List.getElem?_map, getElem?_zip_programLists hlists, Function.comp_def]
      rw [Traverse.length_of_mapM_eq_ok hgathered, ← List.length_map Prod.fst, hnames]
    · intro position name hname
      have hpair := getElem?_zip_programLists hlists position
      rw [hname] at hpair
      obtain ⟨result, hresult, hone⟩ := Traverse.getElem?_of_mapM_eq_ok hgathered hpair
      obtain ⟨loaded, hload, rfl⟩ := gatherOne_eq_ok_iff.mp hone
      exact ⟨loaded, hload, hresult⟩

/-- A mix listed twice, with its programs in either order, and a workload without files between. -/
def repeatedMixPlan : AnalysisPlan where
  reportDirectory := ⟨"stats"⟩
  workloads := ["mix", "gone", "mix"]
  configurations := ["DDR5", "DDR4"]
  reference := "DDR5"
  programLists := some [["left", "right"], ["left"], ["right", "left"]]
  outputDirectory := ⟨"tables"⟩

theorem gathered_exactly_repeated_mix :
    Readable twoCoreTree repeatedMixPlan ∧
      ∃ workloads gathered : List Workload, gather twoCoreTree repeatedMixPlan = .ok workloads ∧
        workloads.Perm gathered ∧ gathered.length = 3 ∧
        ∃ loaded, (source repeatedMixPlan "mix" (some ["right", "left"])).load twoCoreTree =
            .ok loaded ∧
          gathered[2]? = some ((loaded.normalize "weighted_speedup").toOption.getD loaded) := by
  have hall : ∀ position ∈ [0, 1, 2], ∀ configuration ∈ repeatedMixPlan.configurations,
      ((source repeatedMixPlan (repeatedMixPlan.workloads[position]?.getD "")
        (programsAt repeatedMixPlan position)).loadReport twoCoreTree
          configuration).toOption.isSome := by
    decide +kernel
  have hreadable : Readable twoCoreTree repeatedMixPlan := by
    intro _ _ position name hname configuration hlisted
    have hposition : position ∈ [0, 1, 2] := by
      obtain ⟨hlength, -⟩ := List.getElem?_eq_some_iff.mp hname
      simp only [repeatedMixPlan, List.length_cons, List.length_nil] at hlength
      simp only [List.mem_cons, List.not_mem_nil, or_false]
      omega
    obtain ⟨report, hreport⟩ :=
      Option.isSome_iff_exists.mp (hall position hposition configuration hlisted)
    rw [hname] at hreport
    exact ⟨report, Traverse.toOption_eq_some_iff.mp hreport⟩
  obtain ⟨hgathers, hexact⟩ := gathered_exactly hreadable
  obtain ⟨workloads, hworkloads⟩ := hgathers.mpr (by decide)
  obtain ⟨gathered, hperm, hlength, hloaded⟩ := hexact workloads hworkloads
  exact ⟨hreadable, workloads, gathered, hworkloads, hperm, hlength, hloaded 2 "mix" rfl⟩

end Analysis

end DramSweep
