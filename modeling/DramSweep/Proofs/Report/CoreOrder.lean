import DramSweep.Proofs.Report.WeightedSpeedup

/-!
Which core a value of a report belongs to. Instructions and cycles are paired as their lines come,
whatever cores the lines name, and the first line of instructions counts as that of core 0. So every
core has its own value when the lines of both families come in the order of the cores, and no other
order of the lines gives that for all values.
-/

namespace DramSweep

open Std (ExtTreeMap)

/-- The lines of a family name each of the cores once, in an order of their own and with one value
for each core. -/
structure OnePerCore (pairs : List (String × Float)) (stem : String) (cores : Nat)
    (order : List Nat) (value : Nat → Float) : Prop where
  entries : pairs.filterMap (entryFor? stem 0) = order.map fun core => ([core], value core)
  complete : order.Perm (List.range cores)

namespace OnePerCore

variable {pairs : List (String × Float)} {stem : String} {cores : Nat} {order : List Nat}
  {value : Nat → Float}

theorem length_eq (h : OnePerCore pairs stem cores order value) : order.length = cores := by
  simpa using h.complete.length_eq

theorem mem_iff (h : OnePerCore pairs stem cores order value) (core : Nat) :
    core ∈ order ↔ core < cores := by
  simpa using h.complete.mem_iff

/-- The table of the family holds the values in the order of the lines. -/
theorem values? (h : OnePerCore pairs stem cores order value) (hcores : 0 < cores)
    {family : String} (hmem : (stem, family) ∈ Catalog.families) :
    (Counters.ofPairs pairs).values? family 0 = some (order.map value) := by
  have hne : order ≠ [] := by
    rw [← List.length_pos_iff, h.length_eq]
    exact hcores
  have hentries : (Counters.ofPairs pairs).entries? family 0 =
      some (order.map fun core => ([core], value core)) := by
    rw [Counters.entries?_ofPairs hmem, h.entries, Counters.filed_eq_some_iff]
    simpa using hne
  unfold Counters.values?
  rw [hentries]
  simp

end OnePerCore

/-- Instructions over cycles, paired as the lines of the two families come. -/
def byLine (insts cycles : Nat → Float) (instsOrder cyclesOrder : List Nat) : List Float :=
  List.zipWith (fun inst cycle => insts inst / cycles cycle) instsOrder cyclesOrder

/-- The instructions of each core over its own cycles. -/
def byCore (insts cycles : Nat → Float) (cores : Nat) : List Float :=
  (List.range cores).map fun core => insts core / cycles core

theorem byLine_range (insts cycles : Nat → Float) (cores : Nat) :
    byLine insts cycles (List.range cores) (List.range cores) = byCore insts cycles cores := by
  simp [byLine, byCore, List.zipWith_self]

theorem length_byLine (insts cycles : Nat → Float) {instsOrder cyclesOrder : List Nat}
    (h : instsOrder.length = cyclesOrder.length) :
    (byLine insts cycles instsOrder cyclesOrder).length = instsOrder.length := by
  simp [byLine, h]

/-- An order of the cores in which each stands at its own place is the ascending one. -/
theorem eq_range_of_forall {order : List Nat} {cores : Nat} (hlength : order.length = cores)
    (h : ∀ (position : Nat) (hposition : position < order.length),
      order[position] = position) : order = List.range cores := by
  apply List.ext_getElem
  · simpa using hlength
  · intro position hposition _
    rw [List.getElem_range]
    exact h position hposition

/-- Pairing by line is pairing by core, whatever the values are, exactly when the lines of both
families come in the order of the cores. -/
theorem byLine_eq_byCore_iff {instsOrder cyclesOrder : List Nat} {cores : Nat}
    (hinsts : instsOrder.length = cores) (hcycles : cyclesOrder.length = cores) :
    (∀ insts cycles : Nat → Float, (∀ core < cores, cycles core != 0) →
      byLine insts cycles instsOrder cyclesOrder = byCore insts cycles cores) ↔
      instsOrder = List.range cores ∧ cyclesOrder = List.range cores := by
  constructor
  · intro h
    have hplace : ∀ (position : Nat) (hi : position < instsOrder.length)
        (hc : position < cyclesOrder.length) (insts cycles : Nat → Float),
        (∀ core < cores, cycles core != 0) →
          insts instsOrder[position] / cycles cyclesOrder[position] =
            insts position / cycles position := by
      intro position hi hc insts cycles hnonzero
      have hvalue := congrArg (·[position]?) (h insts cycles hnonzero)
      simpa [byLine, byCore, List.getElem?_zipWith, hi, hc, hinsts ▸ hi] using hvalue
    -- Values that tell one place from all others show what stands there.
    constructor
    · apply eq_range_of_forall hinsts
      intro position hi
      by_contra hne
      have hvalue := hplace position hi (by omega)
        (fun core => if core = position then 1 else 0) (fun _ => 1)
        (fun _ _ => by decide)
      rw [if_neg hne, if_pos rfl] at hvalue
      exact absurd hvalue (by decide)
    · apply eq_range_of_forall hcycles
      intro position hc
      by_contra hne
      have hvalue := hplace position (by omega) hc (fun _ => 1)
        (fun core => if core = position then 2 else 1)
        (fun core _ => by split <;> decide)
      rw [if_neg hne, if_pos rfl] at hvalue
      exact absurd hvalue (by decide)
  · rintro ⟨rfl, rfl⟩ insts cycles -
    exact byLine_range insts cycles cores

namespace Report

variable {bytes : Bytes} {references : Option (List Report)} {report : Report}

theorem ipc?_eq_counters (h : read bytes references = .ok report) :
    report.ipc? = report.counters.ipc := by
  have hmem : ("ipc", report.counters.ipc.map Quantity.perCore) ∈ report.counters.candidates := by
    simp [Counters.candidates]
  unfold ipc?
  rw [getElem?_derived_of_read h (by decide) hmem]
  cases report.counters.ipc <;> rfl

theorem derived_mpki (h : read bytes references = .ok report) :
    report.derived["MPKI"]? = report.counters.mpki.map .single :=
  getElem?_derived_of_read h (by decide) (by simp [Counters.candidates])

end Report

namespace OnePerCore

variable {pairs : List (String × Float)} {cores : Nat} {instsOrder cyclesOrder : List Nat}
  {insts cycles : Nat → Float}

/-- Instructions per cycle are those of the lines, one value for each core in number. -/
theorem ipc_eq_byLine
    (hinsts : OnePerCore pairs "ramulator.record_insts_core_" cores instsOrder insts)
    (hcycles : OnePerCore pairs "ramulator.record_cycs_core_" cores cyclesOrder cycles)
    (hcores : 0 < cores) (hnonzero : ∀ core < cores, cycles core != 0) :
    (Counters.ofPairs pairs).ipc = some (byLine insts cycles instsOrder cyclesOrder) := by
  have hlength : (cyclesOrder.map cycles).length = (instsOrder.map insts).length := by
    simp [hinsts.length_eq, hcycles.length_eq]
  unfold Counters.ipc
  rw [hinsts.values? hcores (by decide), hcycles.values? hcores (by decide)]
  simp only [Option.bind_some, hlength, if_true]
  rw [mapM_ratio_eq_some_iff _ _ _ hlength, List.forall_mem_map, byLine, List.zipWith_map]
  refine ⟨?_, rfl⟩
  intro core hcore
  exact hnonzero core ((hcycles.mem_iff core).mp hcore)

/-- Requests per thousand instructions are counted by the core on the first line. -/
theorem mpki_eq_some
    (hinsts : OnePerCore pairs "ramulator.record_insts_core_" cores instsOrder insts)
    (hcores : 0 < cores) {value : Float} (h : (Counters.ofPairs pairs).mpki = some value) :
    ∃ first requests, instsOrder.head? = some first ∧
      (Counters.ofPairs pairs).memory["incoming_requests"]? = some requests ∧
      value = requests * 1000 / insts first := by
  unfold Counters.mpki at h
  rw [hinsts.values? hcores (by decide)] at h
  cases hrequests : (Counters.ofPairs pairs).memory["incoming_requests"]? with
  | none => simp [hrequests, Counters.ratio] at h
  | some requests =>
      cases hfirst : instsOrder.head? with
      | none => simp [hfirst, Counters.ratio] at h
      | some first =>
          simp only [hrequests, Option.map_some, Option.bind_some, List.head?_map, hfirst,
            ratio_eq_some_iff] at h
          exact ⟨first, requests, rfl, rfl, h.2.symm⟩

end OnePerCore

/-- Where the values of the cores end up when each family has one line for each core. Instructions
per cycle are paired as the lines come, and requests per thousand instructions are counted by the
core on the first line. With the lines of both families in the order of the cores every value is
that of its core; no other order of the lines gives each core its own quotient for all values. -/
theorem values_follow_lines {bytes : Bytes} {references : Option (List Report)} {report : Report}
    (hread : Report.read bytes references = .ok report) {pairs : List (String × Float)}
    (hlines : AcceptedLines bytes.rawLines pairs) {cores : Nat} (hcores : 0 < cores)
    {instsOrder cyclesOrder : List Nat} {insts cycles : Nat → Float}
    (hinsts : OnePerCore pairs "ramulator.record_insts_core_" cores instsOrder insts)
    (hcycles : OnePerCore pairs "ramulator.record_cycs_core_" cores cyclesOrder cycles)
    (hnonzero : ∀ core < cores, cycles core != 0) :
    (∃ ipc, report.ipc? = some ipc ∧ ipc.length = cores ∧
      ipc = byLine insts cycles instsOrder cyclesOrder ∧
      (instsOrder = List.range cores → cyclesOrder = List.range cores →
        ∀ core < cores, ipc[core]? = some (insts core / cycles core))) ∧
    (∀ value, report.derived["MPKI"]? = some value →
      ∃ first requests, instsOrder.head? = some first ∧
        report.counters.memory["incoming_requests"]? = some requests ∧
        value = .single (requests * 1000 / insts first) ∧
        (instsOrder = List.range cores → first = 0)) ∧
    ((∀ insts' cycles' : Nat → Float, (∀ core < cores, cycles' core != 0) →
      byLine insts' cycles' instsOrder cyclesOrder = byCore insts' cycles' cores) ↔
      instsOrder = List.range cores ∧ cyclesOrder = List.range cores) := by
  have htables : report.counters = .ofPairs pairs := by
    rw [Report.counters_of_read hread, Counters.ofBytes_eq_ofPairs,
      (acceptedLines_iff _ _).mp hlines]
    rfl
  refine ⟨⟨byLine insts cycles instsOrder cyclesOrder, ?_, ?_, rfl, ?_⟩, ?_,
    byLine_eq_byCore_iff hinsts.length_eq hcycles.length_eq⟩
  · rw [Report.ipc?_eq_counters hread, htables]
    exact hinsts.ipc_eq_byLine hcycles hcores hnonzero
  · rw [length_byLine _ _ (hinsts.length_eq.trans hcycles.length_eq.symm), hinsts.length_eq]
  · rintro rfl rfl core hcore
    rw [byLine_range]
    simp [byCore, hcore]
  · intro value hvalue
    rw [Report.derived_mpki hread, htables] at hvalue
    obtain ⟨mpki, hmpki, rfl⟩ := Option.map_eq_some_iff.mp hvalue
    obtain ⟨first, requests, hfirst, hrequests, rfl⟩ := hinsts.mpki_eq_some hcores hmpki
    rw [htables]
    refine ⟨first, requests, hfirst, hrequests, rfl, ?_⟩
    rintro rfl
    simpa [List.head?_range, hcores.ne'] using hfirst.symm

/-- The counts of two cores, with the instructions in a given order. -/
def twoCoreFile (first second : String) : Bytes :=
  ["ramulator.record_cycs_core_0 100", first, second,
    "ramulator.incoming_requests_per_channel 10",
    "ramulator.record_cycs_core_1 400"].flatMap fun line => Bytes.ofText (line ++ "\n")

/-- What the lines of such a file say. -/
def twoCorePairs (first second : String × Float) : List (String × Float) :=
  [("ramulator.record_cycs_core_0", 100), first, second,
    ("ramulator.incoming_requests_per_channel", 10), ("ramulator.record_cycs_core_1", 400)]

def orderedFile : Bytes :=
  twoCoreFile "ramulator.record_insts_core_0 200" "ramulator.record_insts_core_1 100"

def orderedPairs : List (String × Float) :=
  twoCorePairs ("ramulator.record_insts_core_0", 200) ("ramulator.record_insts_core_1", 100)

def swappedFile : Bytes :=
  twoCoreFile "ramulator.record_insts_core_1 100" "ramulator.record_insts_core_0 200"

def swappedPairs : List (String × Float) :=
  twoCorePairs ("ramulator.record_insts_core_1", 100) ("ramulator.record_insts_core_0", 200)

theorem readPairs_orderedFile :
    orderedFile.lines.filterMap Statistic.readPair? = orderedPairs := by
  decide +kernel

theorem readPairs_swappedFile :
    swappedFile.lines.filterMap Statistic.readPair? = swappedPairs := by
  decide +kernel

/-- The instructions of the two cores. -/
def twoInsts (core : Nat) : Float :=
  if core = 0 then 200 else 100

/-- The cycles of the two cores. -/
def twoCycles (core : Nat) : Float :=
  if core = 0 then 100 else 400

theorem values_follow_lines_ordered :
    ∃ ipc, (Report.ofBytes orderedFile).ipc? = some ipc ∧ ipc.length = 2 ∧
      ∀ core < 2, ipc[core]? = some (twoInsts core / twoCycles core) := by
  have hread : Report.read orderedFile none = .ok (.ofBytes orderedFile) := rfl
  have hlines := acceptedLines_of_bytes orderedFile
  rw [readPairs_orderedFile] at hlines
  have hinsts : OnePerCore orderedPairs "ramulator.record_insts_core_" 2 (List.range 2) twoInsts :=
    ⟨by decide +kernel, .refl _⟩
  have hcycles : OnePerCore orderedPairs "ramulator.record_cycs_core_" 2 (List.range 2) twoCycles :=
    ⟨by decide +kernel, .refl _⟩
  obtain ⟨⟨ipc, hipc, hlength, -, hplaced⟩, -⟩ :=
    values_follow_lines hread hlines (by decide) hinsts hcycles (by decide +kernel)
  exact ⟨ipc, hipc, hlength, hplaced rfl rfl⟩

/-- With two lines swapped the first core is given the instructions of the second one, in its
instructions per cycle and in the requests per thousand instructions. -/
theorem swapped_lines_misplace_values :
    ∃ pairs, AcceptedLines swappedFile.rawLines pairs ∧
      OnePerCore pairs "ramulator.record_insts_core_" 2 [1, 0] twoInsts ∧
      OnePerCore pairs "ramulator.record_cycs_core_" 2 [0, 1] twoCycles ∧
      (Report.ofBytes swappedFile).ipc? = some [1, 0.5] ∧
      byCore twoInsts twoCycles 2 = [2, 0.25] ∧
      (Report.ofBytes swappedFile).mpki? = some 100 ∧ 10 * 1000 / twoInsts 0 = 50 := by
  have hreport : Report.ofBytes swappedFile = .ofCounters (.ofPairs swappedPairs) :=
    congrArg Report.ofCounters
      ((Counters.ofBytes_eq_ofPairs _).trans (congrArg _ readPairs_swappedFile))
  have hlines := acceptedLines_of_bytes swappedFile
  rw [readPairs_swappedFile] at hlines
  rw [hreport]
  refine ⟨swappedPairs, hlines, ⟨by decide +kernel, by decide⟩, ⟨by decide +kernel, by decide⟩,
    ?_, ?_, ?_, ?_⟩
  · decide +kernel
  · decide +kernel
  · decide +kernel
  · decide +kernel

end DramSweep
