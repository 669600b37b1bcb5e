import DramSweep.Proofs.Number.Order
import DramSweep.Proofs.Workload.Sorting

/-!
The order of workloads by load. As long as every load is defined, heavier workloads come before
lighter ones, those without a load come last, and workloads of the same load stay as they are
listed; no other order does that. An undefined load compares with no other: its workload stays where
it is among those with a load and keeps the ones before it apart from the ones behind it. So the
others are in order exactly when it does not stand between a lighter and a heavier one. That is so
for as many workloads as are ordered by insertion; the order of more of them is certain without
undefined loads only.
-/

namespace DramSweep.Workload

def hasLoad (workload : Workload) : Bool :=
  workload.load?.isSome

/-- Whether a workload has a load and the load is undefined. -/
def hasUndefinedLoad (workload : Workload) : Bool :=
  workload.load?.any Float.isNaN

theorem load?_of_not_hasLoad {workload : Workload} (h : workload.hasLoad = false) :
    workload.load? = none := by
  rw [← Option.not_isSome_iff_eq_none, Bool.not_eq_true]
  exact h

theorem load?_of_hasUndefinedLoad {workload : Workload} (h : workload.hasUndefinedLoad = true) :
    ∃ load, workload.load? = some load ∧ load.isNaN = true :=
  (Option.any_eq_true _ _).mp h

theorem hasUndefinedLoad_of_load {workload : Workload} {load : Float}
    (h : workload.load? = some load) : workload.hasUndefinedLoad = load.isNaN := by
  rw [hasUndefinedLoad, h]
  rfl

/-- A load may stand before another that is not heavier, and every load before none. -/
def NotLighter : Option Float → Option Float → Prop
  | some a, some b => b ≤ a
  | _, none => True
  | none, some _ => False

theorem notLighter_none (load : Option Float) : NotLighter load none := by
  cases load <;> trivial

/-- Whether two loads count as the same: they are equal doubles, as both zeros are, or both are
absent. -/
def sameLoad : Option Float → Option Float → Bool
  | some a, some b => a == b
  | none, none => true
  | _, _ => false

/-- Workloads in the order of their loads, those of the same load as they are listed. -/
structure StablyOrdered (sorted workloads : List Workload) : Prop where
  perm : sorted.Perm workloads
  ordered : sorted.Pairwise fun a b => NotLighter a.load? b.load?
  stable : ∀ load : Option Float,
    sorted.filter (fun workload => sameLoad load workload.load?) =
      workloads.filter fun workload => sameLoad load workload.load?

section Weights

/-- Where a load stands in a linear order. Absence is below every load. -/
def weight : Option Float → WithBot Number.Place
  | some load => (Number.place load : Number.Place)
  | none => ⊥

variable {a b : Option Float} (ha : a.any Float.isNaN = false) (hb : b.any Float.isNaN = false)
include ha hb

theorem precedes_eq : precedes a b = decide (weight b < weight a) := by
  cases a with
  | none => simp [precedes, weight]
  | some x =>
      cases b with
      | none => simp [precedes, weight]
      | some y => simp [precedes, weight, Number.lt_iff_place_lt hb ha]

theorem notLighter_iff : NotLighter a b ↔ weight b ≤ weight a := by
  cases a with
  | none => cases b <;> simp [NotLighter, weight]
  | some x =>
      cases b with
      | none => simp [NotLighter, weight]
      | some y => simp [NotLighter, weight, Number.le_iff_place_le hb ha]

theorem sameLoad_eq : sameLoad a b = decide (weight b = weight a) := by
  cases a with
  | none => cases b <;> simp [sameLoad, weight]
  | some x =>
      cases b with
      | none => simp [sameLoad, weight]
      | some y =>
          rw [Bool.eq_iff_iff]
          simp [sameLoad, weight, Number.beq_iff_place_eq ha hb, eq_comm]

end Weights

/-- Of the same loads none precedes another. -/
theorem precedes_of_sameLoad {load a b : Option Float} (ha : sameLoad load a = true)
    (hb : sameLoad load b = true) : precedes a b = false := by
  rcases load with _ | z <;> rcases a with _ | x <;> rcases b with _ | y <;>
    simp only [sameLoad, Bool.false_eq_true] at ha hb
  · rfl
  · obtain ⟨hz, hx⟩ := Number.isNaN_of_beq ha
    obtain ⟨-, hy⟩ := Number.isNaN_of_beq hb
    rw [Number.beq_iff_place_eq hz hx] at ha
    rw [Number.beq_iff_place_eq hz hy] at hb
    simp [precedes, Number.lt_iff_place_lt hy hx, ← ha, ← hb]

section Defined

variable {workloads : List Workload}
  (hdefined : ∀ workload ∈ workloads, workload.hasUndefinedLoad = false)
include hdefined

theorem pairwise_notLighter_iff :
    workloads.Pairwise (fun a b => NotLighter a.load? b.load?) ↔
      workloads.Pairwise fun a b => weight b.load? ≤ weight a.load? :=
  List.Pairwise.iff_of_mem fun ha hb => notLighter_iff (hdefined _ ha) (hdefined _ hb)

theorem hasUndefinedLoad_of_perm {sorted : List Workload} (h : sorted.Perm workloads) :
    ∀ workload ∈ sorted, workload.hasUndefinedLoad = false :=
  fun workload hmem => hdefined workload (h.mem_iff.mp hmem)

theorem heaviestFirst_eq : heaviestFirst workloads =
    stableSort (fun a b => decide (weight b.load? < weight a.load?)) workloads :=
  stableSort_congr fun a ha b hb => precedes_eq (hdefined a ha) (hdefined b hb)

theorem pairwise_heaviestFirst :
    (heaviestFirst workloads).Pairwise fun a b => NotLighter a.load? b.load? := by
  rw [pairwise_notLighter_iff (hasUndefinedLoad_of_perm hdefined (perm_heaviestFirst _)),
    heaviestFirst_eq hdefined]
  exact pairwise_stableSort_key (fun workload => weight workload.load?) workloads

theorem stablyOrdered_heaviestFirst : StablyOrdered (heaviestFirst workloads) workloads where
  perm := perm_heaviestFirst workloads
  ordered := pairwise_heaviestFirst hdefined
  stable := fun _ => filter_stableSort (fun _ _ => precedes_of_sameLoad) workloads

/-- The order is the only one. -/
theorem StablyOrdered.eq {first second : List Workload} (hfirst : StablyOrdered first workloads)
    (hsecond : StablyOrdered second workloads) : first = second := by
  have hperm := hfirst.perm.trans hsecond.perm.symm
  have hdefinedFirst := hasUndefinedLoad_of_perm hdefined hfirst.perm
  have hdefinedSecond := hasUndefinedLoad_of_perm hdefined hsecond.perm
  refine eq_of_pairwise_of_filter_eq (fun workload => weight workload.load?) hperm
    ((pairwise_notLighter_iff hdefinedFirst).mp hfirst.ordered)
    ((pairwise_notLighter_iff hdefinedSecond).mp hsecond.ordered) fun a ha => ?_
  calc
    first.filter (fun b => decide (weight b.load? = weight a.load?))
        = first.filter fun b => sameLoad a.load? b.load? :=
      List.filter_congr fun b hb => (sameLoad_eq (hdefinedFirst a ha) (hdefinedFirst b hb)).symm
    _ = second.filter fun b => sameLoad a.load? b.load? :=
      (hfirst.stable a.load?).trans (hsecond.stable a.load?).symm
    _ = second.filter fun b => decide (weight b.load? = weight a.load?) :=
      List.filter_congr fun b hb => sameLoad_eq (hdefinedFirst a ha) (hdefinedSecond b hb)

end Defined

section Undefined

/-- Workloads without a load come last and in their order, whatever the loads of others are. -/
theorem heaviestFirst_eq_append (workloads : List Workload) : heaviestFirst workloads =
    heaviestFirst (workloads.filter hasLoad) ++
      workloads.filter fun workload => !workload.hasLoad := by
  apply stableSort_of_last
  · intro x y hx hy
    obtain ⟨load, hload⟩ := Option.isSome_iff_exists.mp hx
    rw [hload, load?_of_not_hasLoad hy]
    rfl
  · intro x y hx
    rw [load?_of_not_hasLoad hx]
    rfl

/-- Between workloads with a load, one whose load is undefined stays where it is. -/
theorem heaviestFirst_append_cons {front rest : List Workload} {odd : Workload}
    (hloads : ∀ workload ∈ front, workload.hasLoad = true)
    (hodd : odd.hasUndefinedLoad = true) :
    heaviestFirst (front ++ odd :: rest) = heaviestFirst front ++ odd :: heaviestFirst rest := by
  obtain ⟨undefined, hundefined, hnan⟩ := load?_of_hasUndefinedLoad hodd
  apply stableSort_append_cons
  · intro y hy
    obtain ⟨load, hload⟩ := Option.isSome_iff_exists.mp (hloads y hy)
    rw [hundefined, hload]
    exact decide_eq_false (Number.not_lt_of_isNaN (Or.inr hnan))
  · intro x _
    rw [hundefined]
    cases x.load? with
    | none => rfl
    | some load => exact decide_eq_false (Number.not_lt_of_isNaN (Or.inl hnan))

/-- An undefined load stands between a lighter load and a heavier one. -/
def HeldApart (workloads : List Workload) : Prop :=
  ∃ light odd heavy a b, [light, odd, heavy].Sublist workloads ∧ odd.hasUndefinedLoad = true ∧
    light.load? = some a ∧ heavy.load? = some b ∧ a < b

theorem HeldApart.mono {sublist workloads : List Workload} (h : HeldApart sublist)
    (hsublist : sublist.Sublist workloads) : HeldApart workloads := by
  obtain ⟨light, odd, heavy, a, b, hthree, hrest⟩ := h
  exact ⟨light, odd, heavy, a, b, hthree.trans hsublist, hrest⟩

/-- Where the workloads are not held apart, none before an undefined load is lighter than one behind
it. -/
theorem notLighter_of_not_heldApart {front rest : List Workload} {odd : Workload}
    (h : ¬HeldApart (front ++ odd :: rest)) (hodd : odd.hasUndefinedLoad = true)
    {first second : Workload} (hfirst : first ∈ front) (hsecond : second ∈ rest)
    (hload : first.hasLoad = true) (hfirstDefined : first.hasUndefinedLoad = false)
    (hsecondDefined : second.hasUndefinedLoad = false) :
    NotLighter first.load? second.load? := by
  obtain ⟨a, ha⟩ := Option.isSome_iff_exists.mp hload
  rw [hasUndefinedLoad, ha] at hfirstDefined
  cases hb : second.load? with
  | none => exact notLighter_none _
  | some b =>
      rw [hasUndefinedLoad, hb] at hsecondDefined
      rw [ha, notLighter_iff hfirstDefined hsecondDefined]
      by_contra hlighter
      have hthree : [first, odd, second].Sublist (front ++ odd :: rest) :=
        (List.singleton_sublist.mpr hfirst).append
          ((List.singleton_sublist.mpr hsecond).cons_cons odd)
      refine h ⟨first, odd, second, a, b, hthree, hodd, ha, hb, ?_⟩
      rw [Number.lt_iff_place_lt hfirstDefined hsecondDefined]
      simpa [weight] using hlighter

theorem pairwise_filter_of_hasLoad {workloads : List Workload}
    (hloads : ∀ workload ∈ workloads, workload.hasLoad = true) (h : ¬HeldApart workloads) :
    ((heaviestFirst workloads).filter fun workload => !workload.hasUndefinedLoad).Pairwise
      fun a b => NotLighter a.load? b.load? := by
  induction hlength : workloads.length using Nat.strong_induction_on generalizing workloads with
  | _ length ih =>
    by_cases hdefined : ∀ workload ∈ workloads, workload.hasUndefinedLoad = false
    · exact (pairwise_heaviestFirst hdefined).filter _
    · -- an undefined load parts the list into two sides that are sorted on their own
      simp only [not_forall, Bool.not_eq_false] at hdefined
      obtain ⟨odd, hmem, hodd⟩ := hdefined
      obtain ⟨front, rest, rfl⟩ := List.append_of_mem hmem
      rw [List.length_append, List.length_cons] at hlength
      have hfront : front.Sublist (front ++ odd :: rest) := List.sublist_append_left _ _
      have hrest : rest.Sublist (front ++ odd :: rest) :=
        (List.sublist_cons_self odd rest).trans (List.sublist_append_right _ _)
      have hfrontLoads : ∀ workload ∈ front, workload.hasLoad = true :=
        fun workload hworkload => hloads workload (hfront.subset hworkload)
      have hrestLoads : ∀ workload ∈ rest, workload.hasLoad = true :=
        fun workload hworkload => hloads workload (hrest.subset hworkload)
      rw [heaviestFirst_append_cons hfrontLoads hodd, List.filter_append,
        List.filter_cons_of_neg (by simp [hodd]), List.pairwise_append]
      refine ⟨?_, ?_, ?_⟩
      · exact ih front.length (by omega) hfrontLoads (fun hheld => h (hheld.mono hfront)) rfl
      · exact ih rest.length (by omega) hrestLoads (fun hheld => h (hheld.mono hrest)) rfl
      · intro first hfirst second hsecond
        rw [List.mem_filter, (perm_heaviestFirst _).mem_iff] at hfirst hsecond
        exact notLighter_of_not_heldApart h hodd hfirst.1 hsecond.1 (hfrontLoads first hfirst.1)
          (by simpa using hfirst.2) (by simpa using hsecond.2)

/-- The workloads whose load is not undefined are in order, unless they are held apart. -/
theorem pairwise_filter_heaviestFirst {workloads : List Workload} (h : ¬HeldApart workloads) :
    ((heaviestFirst workloads).filter fun workload => !workload.hasUndefinedLoad).Pairwise
      fun a b => NotLighter a.load? b.load? := by
  have hlast : ∀ (first : Workload), ∀ second ∈ (workloads.filter fun workload =>
      !workload.hasLoad).filter (fun workload => !workload.hasUndefinedLoad),
      NotLighter first.load? second.load? := by
    intro first second hsecond
    have hunloaded : second.hasLoad = false := by
      simpa using (List.mem_filter.mp (List.mem_filter.mp hsecond).1).2
    rw [load?_of_not_hasLoad hunloaded]
    exact notLighter_none _
  rw [heaviestFirst_eq_append, List.filter_append, List.pairwise_append]
  refine ⟨?_, ?_, fun first _ => hlast first⟩
  · exact pairwise_filter_of_hasLoad (fun workload hworkload => (List.mem_filter.mp hworkload).2)
      fun hheld => h (hheld.mono List.filter_sublist)
  · exact List.pairwise_of_forall_mem_list fun first _ => hlast first

/-- Without the undefined loads the others are a stable order of themselves, if they are in
order. -/
theorem stablyOrdered_filter_heaviestFirst {workloads : List Workload}
    (h : ¬HeldApart workloads) :
    StablyOrdered ((heaviestFirst workloads).filter fun workload => !workload.hasUndefinedLoad)
      (workloads.filter fun workload => !workload.hasUndefinedLoad) where
  perm := (perm_heaviestFirst workloads).filter _
  ordered := pairwise_filter_heaviestFirst h
  stable := by
    intro load
    rw [List.filter_filter, List.filter_filter]
    apply filter_stableSort
    intro x y hx hy
    rw [Bool.and_eq_true] at hx hy
    exact precedes_of_sameLoad hx.1 hy.1

theorem exists_split_of_sublist {workloads : List Workload} {first odd second : Workload}
    (h : [first, odd, second].Sublist workloads) :
    ∃ front rest, workloads = front ++ odd :: rest ∧ first ∈ front ∧ second ∈ rest := by
  obtain ⟨front, others, rfl, hfirst, hothers⟩ := List.cons_sublist_iff.mp h
  obtain ⟨middle, rest, rfl, hodd, hsecond⟩ := List.cons_sublist_iff.mp hothers
  obtain ⟨before, behind, rfl⟩ := List.append_of_mem hodd
  refine ⟨front ++ before, behind ++ rest, by simp, by simp [hfirst], ?_⟩
  exact List.mem_append_right _ (List.singleton_sublist.mp hsecond)

/-- Workloads that are held apart stay so: the lighter one is still before the heavier one. -/
theorem HeldApart.not_pairwise {workloads : List Workload} (h : HeldApart workloads) :
    ¬((heaviestFirst workloads).filter fun workload => !workload.hasUndefinedLoad).Pairwise
      fun a b => NotLighter a.load? b.load? := by
  obtain ⟨light, odd, heavy, a, b, hthree, hodd, ha, hb, hlt⟩ := h
  obtain ⟨undefined, hundefined, -⟩ := load?_of_hasUndefinedLoad hodd
  have hdefined := Number.isNaN_of_lt hlt
  have hlightDefined := (hasUndefinedLoad_of_load ha).trans hdefined.1
  have hheavyDefined := (hasUndefinedLoad_of_load hb).trans hdefined.2
  have hloaded : [light, odd, heavy].Sublist (workloads.filter hasLoad) := by
    have hfiltered := hthree.filter hasLoad
    simpa [hasLoad, ha, hb, hundefined] using hfiltered
  obtain ⟨front, rest, hsplit, hlight, hheavy⟩ := exists_split_of_sublist hloaded
  have hloads : ∀ workload ∈ front, workload.hasLoad = true := by
    intro workload hworkload
    have hmem : workload ∈ workloads.filter hasLoad := by
      rw [hsplit]
      exact List.mem_append_left _ hworkload
    exact (List.mem_filter.mp hmem).2
  intro hpairwise
  rw [heaviestFirst_eq_append, hsplit, heaviestFirst_append_cons hloads hodd,
    List.filter_append, List.filter_append, List.filter_cons_of_neg (by simp [hodd])] at hpairwise
  have hboth := (List.pairwise_append.mp (List.pairwise_append.mp hpairwise).1).2.2 light
    (List.mem_filter.mpr ⟨(perm_heaviestFirst front).mem_iff.mpr hlight,
      by simp [hlightDefined]⟩) heavy
    (List.mem_filter.mpr ⟨(perm_heaviestFirst rest).mem_iff.mpr hheavy,
      by simp [hheavyDefined]⟩)
  rw [ha, hb, NotLighter, Number.le_iff_place_le hdefined.2 hdefined.1, ← not_lt,
    ← Number.lt_iff_place_lt hdefined.1 hdefined.2] at hboth
  exact hboth hlt

end Undefined

/-- While no load is undefined, heavier workloads come before lighter ones, those without a load
come last, and workloads of the same load stay as they are listed. There is no other such order, and
ordering workloads that are in order changes nothing. -/
theorem defined_loads_ordered {workloads : List Workload}
    (hdefined : ∀ workload ∈ workloads, workload.hasUndefinedLoad = false) :
    StablyOrdered (heaviestFirst workloads) workloads ∧
      (∀ sorted, StablyOrdered sorted workloads → sorted = heaviestFirst workloads) ∧
      heaviestFirst (heaviestFirst workloads) = heaviestFirst workloads := by
  have hordered := stablyOrdered_heaviestFirst hdefined
  have hstill := hasUndefinedLoad_of_perm hdefined hordered.perm
  refine ⟨hordered, fun sorted hsorted => hsorted.eq hdefined hordered, ?_⟩
  have hself : StablyOrdered (heaviestFirst workloads) (heaviestFirst workloads) :=
    ⟨.refl _, hordered.ordered, fun _ => rfl⟩
  exact (stablyOrdered_heaviestFirst hstill).eq hstill hself

/-- A workload of one configuration, with a load that is recorded or without one. -/
def ofLoad (name : String) (load? : Option Float) : Workload :=
  let report := load?.elim .empty fun load => Report.empty.setMetric "MPKI" (.single load)
  ofReports name ["DDR3"] "DDR3" none (.ofList [("DDR3", report)])

/-- The load of a single program is what its reference report has. -/
theorem load?_of_single {workload : Workload} {report : Report}
    (hreport : workload.reports[workload.reference]? = some report)
    (hprograms : workload.programs = none) : workload.load? = report.mpki? := by
  simp only [load?, memoryLoad, referenceReport, hreport, hprograms]
  rfl

@[simp] theorem load?_ofLoad (name : String) (load? : Option Float) :
    (ofLoad name load?).load? = load? := by
  have hreport : (ofLoad name load?).reports["DDR3"]? =
      some (load?.elim .empty fun load => Report.empty.setMetric "MPKI" (.single load)) := by
    simp [ofLoad, ofReports, Std.ExtTreeMap.getElem_insertIfNew]
  rw [load?_of_single hreport rfl]
  cases load? with
  | none => rfl
  | some load => simp [Report.mpki?, Report.scalar?, Report.get?_setMetric_self]

/-- Workloads with loads of zero of either sign, one load that occurs twice and one that is
absent. -/
def mixedLoads : List Workload :=
  [ofLoad "idle" (some 0), ofLoad "gone" none, ofLoad "busy" (some 2), ofLoad "still" (some (-0)),
    ofLoad "again" (some 2)]

theorem defined_loads_ordered_mixed :
    (∀ workload ∈ mixedLoads, workload.hasUndefinedLoad = false) ∧
      StablyOrdered (heaviestFirst mixedLoads) mixedLoads ∧
      heaviestFirst (heaviestFirst mixedLoads) = heaviestFirst mixedLoads ∧
      (heaviestFirst mixedLoads).map Workload.name =
        ["busy", "again", "idle", "still", "gone"] := by
  have hdefined : ∀ workload ∈ mixedLoads, workload.hasUndefinedLoad = false := by
    have hloads : ∀ load ∈ mixedLoads.map load?, load.any Float.isNaN = false := by
      simp only [mixedLoads, List.map_cons, List.map_nil, load?_ofLoad]
      decide
    exact fun workload hmem => hloads _ (List.mem_map_of_mem hmem)
  have hbelow : (0 : Float) < 2 ∧ (-0 : Float) < 2 ∧ ¬(2 : Float) < 0 ∧ ¬(2 : Float) < -0 := by
    decide
  have hsame : ¬(2 : Float) < 2 ∧ ¬(0 : Float) < -0 ∧ ¬(-0 : Float) < 0 := by
    decide
  obtain ⟨hordered, -, hagain⟩ := defined_loads_ordered hdefined
  refine ⟨hdefined, hordered, hagain, ?_⟩
  simp only [mixedLoads, heaviestFirst, stableSort, List.foldl, load?_ofLoad, precedes,
    insertFromBack, hbelow, hsame, decide_true, decide_false, if_true, Bool.false_eq_true, if_false]
  rfl

/-- What becomes of workloads some of whose loads are undefined, if there are few enough of them to
be ordered by insertion. Those without a load come last and in their order all the same. Among the
others, one whose load is undefined parts those before it from those behind it, and each side is
ordered on its own. So the workloads whose load is not undefined are ordered as they would be
without the rest exactly when no undefined load stands between a lighter load and a heavier one. -/
theorem undefined_loads_hold_apart :
    ∀ workloads : List Workload, workloads.length ≤ insertionLimit →
      heaviestFirst workloads = heaviestFirst (workloads.filter hasLoad) ++
        (workloads.filter fun workload => !workload.hasLoad) ∧
      (∀ front odd rest, workloads.filter hasLoad = front ++ odd :: rest →
        odd.hasUndefinedLoad = true →
          heaviestFirst (workloads.filter hasLoad) =
            heaviestFirst front ++ odd :: heaviestFirst rest) ∧
      (((heaviestFirst workloads).filter fun workload => !workload.hasUndefinedLoad) =
          heaviestFirst (workloads.filter fun workload => !workload.hasUndefinedLoad) ↔
        ¬HeldApart workloads) := by
  -- The limit is where insertion stands for the sort; insertion itself would do the same beyond it.
  intro workloads _
  have hdefined : ∀ workload ∈ workloads.filter fun workload => !workload.hasUndefinedLoad,
      workload.hasUndefinedLoad = false := by
    intro workload hmem
    simpa using (List.mem_filter.mp hmem).2
  refine ⟨heaviestFirst_eq_append workloads, ?_, ?_, ?_⟩
  · intro front odd rest hsplit hodd
    rw [hsplit]
    refine heaviestFirst_append_cons (fun workload hmem => ?_) hodd
    have hloaded : workload ∈ workloads.filter hasLoad := hsplit ▸ List.mem_append_left _ hmem
    exact (List.mem_filter.mp hloaded).2
  · intro hsame hheld
    apply hheld.not_pairwise
    rw [hsame]
    exact pairwise_heaviestFirst hdefined
  · intro h
    exact (stablyOrdered_filter_heaviestFirst h).eq hdefined (stablyOrdered_heaviestFirst hdefined)

/-- An undefined load behind a heavier one and before a lighter one. -/
def partedLoads : List Workload :=
  [ofLoad "heavy" (some 2), ofLoad "odd" (some (0 / 0)), ofLoad "light" (some 1)]

theorem undefined_loads_hold_apart_parted :
    partedLoads.length ≤ insertionLimit ∧ ¬HeldApart partedLoads ∧
      (∃ odd ∈ partedLoads, odd.hasUndefinedLoad = true) ∧
      ((heaviestFirst partedLoads).filter fun workload => !workload.hasUndefinedLoad) =
        heaviestFirst (partedLoads.filter fun workload => !workload.hasUndefinedLoad) := by
  have hheld : ¬HeldApart partedLoads := by
    rintro ⟨light, odd, heavy, a, b, hthree, -, ha, hb, hlt⟩
    have hall := congrArg (List.map load?) (hthree.eq_of_length rfl)
    simp only [partedLoads, List.map_cons, ha, hb, load?_ofLoad, List.cons.injEq,
      Option.some.injEq, List.map_nil, and_true] at hall
    obtain ⟨rfl, -, rfl⟩ := hall
    exact absurd hlt (by decide)
  have hshort : partedLoads.length ≤ insertionLimit := by decide
  obtain ⟨-, -, hsame⟩ := undefined_loads_hold_apart partedLoads hshort
  refine ⟨hshort, hheld, ⟨ofLoad "odd" (some (0 / 0)), by simp [partedLoads], ?_⟩, hsame.mpr hheld⟩
  rw [hasUndefinedLoad_of_load (load?_ofLoad _ _)]
  decide

/-- Of three workloads, one with an undefined load in the middle leaves a lighter one before a
heavier one. -/
theorem heaviestFirst_of_undefined_between {light odd heavy : Workload} {a b : Float}
    (hlight : light.load? = some a) (hodd : odd.hasUndefinedLoad = true)
    (hheavy : heavy.load? = some b) (hlt : a < b) :
    (heaviestFirst [light, odd, heavy]).filter (fun workload => !workload.hasUndefinedLoad) =
        [light, heavy] ∧
      heaviestFirst ([light, odd, heavy].filter fun workload => !workload.hasUndefinedLoad) =
        [heavy, light] := by
  have hdefined := Number.isNaN_of_lt hlt
  have hlightDefined := (hasUndefinedLoad_of_load hlight).trans hdefined.1
  have hheavyDefined := (hasUndefinedLoad_of_load hheavy).trans hdefined.2
  have hloads : ∀ workload ∈ [light], workload.hasLoad = true := by simp [hasLoad, hlight]
  have hparted : heaviestFirst [light, odd, heavy] = [light, odd, heavy] :=
    heaviestFirst_append_cons hloads hodd
  have hpair : heaviestFirst [light, heavy] = [heavy, light] := by
    simp [heaviestFirst, stableSort, insertFromBack, hlight, hheavy, precedes, hlt]
  rw [hparted]
  simp [hlightDefined, hheavyDefined, hodd, hpair]

/-- A workload whose report gives a number of requests for ten thousand instructions. -/
def ofRequests (name requests : String) : Workload :=
  let file := ["ramulator.incoming_requests_per_channel " ++ requests,
    "ramulator.record_insts_core_0 10000"].flatMap fun line => Bytes.ofText (line ++ "\n")
  ofReports name ["DDR3"] "DDR3" none (.ofList [("DDR3", Report.ofBytes file)])

/-- A report with an undefined count gives an undefined load. Between a lighter workload and a
heavier one it leaves them as they are listed; without it the heavier one comes first. -/
theorem undefined_load_keeps_lighter_first :
    ∃ light odd heavy : Workload, light = ofRequests "light" "10" ∧ odd = ofRequests "odd" "nan" ∧
      heavy = ofRequests "heavy" "20" ∧
      light.load? = some 1 ∧ odd.hasUndefinedLoad = true ∧ heavy.load? = some 2 ∧
      (heaviestFirst [light, odd, heavy]).filter (fun workload => !workload.hasUndefinedLoad) =
        [light, heavy] ∧
      heaviestFirst ([light, odd, heavy].filter fun workload => !workload.hasUndefinedLoad) =
        [heavy, light] ∧
      [light, heavy] ≠ [heavy, light] := by
  have hlight : (ofRequests "light" "10").load? = some 1 := by decide +kernel
  have hodd : (ofRequests "odd" "nan").hasUndefinedLoad = true := by decide +kernel
  have hheavy : (ofRequests "heavy" "20").load? = some 2 := by decide +kernel
  obtain ⟨hparted, hpair⟩ := heaviestFirst_of_undefined_between hlight hodd hheavy (by decide)
  refine ⟨_, _, _, rfl, rfl, rfl, hlight, hodd, hheavy, hparted, hpair, ?_⟩
  intro hsame
  rw [(List.cons.inj hsame).1, hheavy] at hlight
  exact absurd (Option.some.inj hlight) (by decide)

end DramSweep.Workload
