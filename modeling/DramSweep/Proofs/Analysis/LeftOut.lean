import DramSweep.Proofs.Analysis.Publishing

/-!
How many tables publishing leaves out. The wide and the tidy table of a workload and a group ask for
the same values, so they are given together or left out together. Each of the two is counted where
it is left out: the count that publishing returns is twice the number of workloads and groups
without output, however many tables are missing and wherever they stand.
-/

namespace DramSweep.Analysis

open Traverse

/-- Each workload with each group, in the order in which they are written. -/
def pairsOf (workloads : List Workload) (mix : Bool) : List (Workload × TableGroup) :=
  workloads.flatMap fun workload => (TableGroup.all mix).map fun group => (workload, group)

def lacksWide (pair : Workload × TableGroup) : Bool :=
  (failure? (pair.1.wide pair.2.metrics)).isSome

def lacksTidy (pair : Workload × TableGroup) : Bool :=
  (failure? (pair.1.tidy pair.2.metrics)).isSome

/-- Whether a workload has no output for a group, in one form or the other. -/
def isLeftOut (pair : Workload × TableGroup) : Bool :=
  lacksWide pair || lacksTidy pair

/-- Both forms ask for the feature first and then for the same values. -/
theorem lacksTidy_eq (pair : Workload × TableGroup) : lacksTidy pair = lacksWide pair := by
  rw [lacksTidy, lacksWide, Workload.failure?_tidy, Workload.failure?_wide]

theorem lacksWide_eq (pair : Workload × TableGroup) : lacksWide pair = isLeftOut pair := by
  rw [isLeftOut, lacksTidy_eq, Bool.or_self]

/-- A table counts when it cannot be given. -/
theorem missed_of_addTable {outputs later : SheetFolder} {tree after : FileTree} {group : String}
    {table : Except MetricError String} {missed : Nat}
    (h : addTable outputs tree group table = .ok (later, after, missed)) :
    missed = (failure? table).isSome.toNat := by
  unfold addTable at h
  split at h
  next => cases h
  next opened made hopen =>
    cases table with
    | ok text =>
        cases h
        rfl
    | error e =>
        dsimp only at h
        split at h
        next => cases h
        next =>
          cases h
          rfl

theorem failed_writeGroup {outputs later : Outputs} {workload : Workload} {group : TableGroup}
    (h : writeGroup outputs workload group = (later, none)) :
    later.failed = outputs.failed +
      ((lacksWide (workload, group)).toNat + (lacksTidy (workload, group)).toNat) := by
  unfold writeGroup at h
  split at h
  next => cases h
  next wide tree missed hwide =>
    dsimp only at h
    split at h
    next => cases h
    next tidy after others htidy =>
      cases h
      rw [lacksWide, lacksTidy, ← missed_of_addTable hwide, ← missed_of_addTable htidy]
      exact Nat.add_assoc _ _ _

/-- Along a row of workloads and groups both forms are counted on their own. -/
theorem failed_writeGroups {pairs : List (Workload × TableGroup)} {outputs later : Outputs}
    (h : writeGroups outputs pairs = (later, none)) :
    later.failed = outputs.failed + (pairs.countP lacksWide + pairs.countP lacksTidy) := by
  -- The count so far grows with every pair, so the outputs vary in the induction.
  induction pairs generalizing outputs with
  | nil =>
      cases h
      rfl
  | cons pair rest ih =>
      obtain ⟨workload, group⟩ := pair
      unfold writeGroups at h
      split at h
      next between hfirst =>
        have hcount := failed_writeGroup hfirst
        rw [ih h, hcount, List.countP_cons, List.countP_cons]
        cases lacksWide (workload, group) <;> cases lacksTidy (workload, group) <;> simp <;> omega
      next => cases h

theorem failed_of_publish {workloads : List Workload} {mix : Bool} {wide tidy : SheetFolder}
    {before after : FileTree} {failed : Nat}
    (h : publish workloads mix wide tidy before = (after, .ok failed)) :
    failed = (pairsOf workloads mix).countP lacksWide +
      (pairsOf workloads mix).countP lacksTidy := by
  unfold publish at h
  dsimp only at h
  split at h
  next => cases h
  next =>
    split at h
    next => cases h
    next outputs hrun =>
      cases h
      rw [failed_writeGroups hrun]
      exact Nat.zero_add _

/-- When all is published, the number returned counts the wide and the tidy tables that were left
out. Those are of the same workloads and groups, so the number is twice that of the workloads and
groups without output, and it is that number itself only where nothing is left out. -/
theorem tables_left_out_counted {workloads : List Workload} {mix : Bool} {wide tidy : SheetFolder}
    {before after : FileTree} {failed : Nat}
    (h : publish workloads mix wide tidy before = (after, .ok failed)) :
    (∀ pair ∈ pairsOf workloads mix,
      (lacksWide pair = true ↔ isLeftOut pair = true) ∧
        (lacksTidy pair = true ↔ isLeftOut pair = true)) ∧
    failed = 2 * (pairsOf workloads mix).countP isLeftOut ∧
    (failed = (pairsOf workloads mix).countP isLeftOut ↔
      ∀ pair ∈ pairsOf workloads mix, isLeftOut pair = false) := by
  have hwide : lacksWide = isLeftOut := funext lacksWide_eq
  have htidy : lacksTidy = isLeftOut :=
    funext fun pair => (lacksTidy_eq pair).trans (lacksWide_eq pair)
  have htwice : failed = 2 * (pairsOf workloads mix).countP isLeftOut := by
    rw [failed_of_publish h, hwide, htidy, Nat.two_mul]
  refine ⟨fun pair _ => ⟨by rw [hwide], by rw [htidy]⟩, htwice, ?_⟩
  have hnone : (pairsOf workloads mix).countP isLeftOut = 0 ↔
      ∀ pair ∈ pairsOf workloads mix, isLeftOut pair = false := by
    simp [List.countP_eq_zero]
  rw [← hnone]
  omega

/-- A workload with the metrics of two groups. -/
def measuredWorkload : Workload :=
  let report := (Report.empty.setMetric "MPKI" (.single 1)).setMetric "ipc" (.perCore [1])
  .ofReports "mcf" ["DDR4"] "DDR4" none (.ofList [("DDR4", report)])

/-- What publishing several workloads into two empty directories comes to. -/
def runInto (workloads : List Workload) : FileTree × Except AnalysisError Nat :=
  publish workloads false { directory := ⟨"out"⟩ } { directory := tidyFolder ⟨"out"⟩ }
    (((FileTree.ofWorkingDirectory []).withDirectory ⟨"out"⟩).withDirectory (tidyFolder ⟨"out"⟩))

theorem tables_left_out_counted_mixed :
    (runInto [measuredWorkload, idleWorkload]).2 = .ok 20 ∧
      (pairsOf [measuredWorkload, idleWorkload] false).countP isLeftOut = 10 := by
  have hfailed : (runInto [measuredWorkload, idleWorkload]).2 = .ok 20 := by decide +kernel
  have hrun : runInto [measuredWorkload, idleWorkload] =
      ((runInto [measuredWorkload, idleWorkload]).1, .ok 20) := by
    rw [← hfailed, Prod.eta]
  obtain ⟨-, hcount, -⟩ := tables_left_out_counted hrun
  exact ⟨hfailed, by omega⟩

/-- The number returned is not that of the workloads and groups without output. A workload whose
report is empty has none for six groups, and twelve are counted. -/
theorem six_left_out_count_twelve :
    ¬∀ (workloads : List Workload) (mix : Bool) (wide tidy : SheetFolder)
      (before after : FileTree) (failed : Nat),
      publish workloads mix wide tidy before = (after, .ok failed) →
        failed = (pairsOf workloads mix).countP isLeftOut := by
  intro hcounts
  have hfailed : (runInto [idleWorkload]).2 = .ok 12 := by decide +kernel
  have hrun : runInto [idleWorkload] = ((runInto [idleWorkload]).1, .ok 12) := by
    rw [← hfailed, Prod.eta]
  have hpairs : (pairsOf [idleWorkload] false).countP isLeftOut = 6 := by decide +kernel
  have htwelve := hcounts _ _ _ _ _ _ _ hrun
  omega

end DramSweep.Analysis
