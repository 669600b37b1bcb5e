import DramSweep.Proofs.Report.AcceptedLines
import DramSweep.Proofs.Report.Reading
import Mathlib.Data.List.Induction

/-!
The scalar tables of a report. A canonical name has the value of the last accepted line with its
raw name, in the table of the namespace that the raw name is in; the two tables share names and
never touch each other.
-/

namespace DramSweep

open Std (ExtTreeMap)

namespace Statistic

/-- The value that a statistic gives to a name in one of the two namespaces, the simulator's own
or the rest. -/
def scalarValue? (simulator : Bool) (name : String) : Statistic → Option Float
  | .memory other value => if simulator = true ∧ other = name then some value else none
  | .system other value => if simulator = false ∧ other = name then some value else none
  | .indexed .. => none

/-- In its namespace a canonical name gets its values under one raw name. -/
theorem scalarValue?_ofPair? {rawName canonical : String}
    (h : (rawName, canonical) ∈ Catalog.scalars) (pair : String × Float) :
    (ofPair? pair.1 pair.2).bind
        (scalarValue? (Catalog.isSimulatorName rawName) canonical) =
      if rawName == pair.1 then some pair.2 else none := by
  by_cases hname : rawName = pair.1
  · subst hname
    rw [if_pos (beq_self_eq_true _), ofPair?_of_scalar pair.2 h]
    cases Catalog.isSimulatorName pair.1 <;> simp [scalarValue?]
  · -- another raw name of the same canonical name lies in the other namespace
    have hother {other : String × String} (hmem : other ∈ Catalog.scalars)
        (hspace : Catalog.isSimulatorName rawName = Catalog.isSimulatorName other.1)
        (hother : other.1 = pair.1) : canonical ≠ other.2 := by
      intro hsame
      have heq := Catalog.scalar_unique h hmem hsame hspace
      exact hname ((congrArg Prod.fst heq).trans hother)
    rw [if_neg (by simpa using hname), Option.bind_eq_none_iff]
    intro statistic hstatistic
    cases (ofPair?_eq_some_iff _ _ _).mp hstatistic with
    | memory hmem hspace =>
        simp only [scalarValue?, ite_eq_right_iff, and_imp]
        intro hsimulator hcanonical
        exact absurd hcanonical.symm (hother hmem (hsimulator.trans hspace.symm) rfl)
    | system hmem hspace =>
        simp only [scalarValue?, ite_eq_right_iff, and_imp]
        intro hsimulator hcanonical
        exact absurd hcanonical.symm (hother hmem (hsimulator.trans hspace.symm) rfl)
    | indexed => rfl

end Statistic

namespace Counters

/-- The scalars of the simulator's namespace, or those of the full system. -/
def scalarsOf (counters : Counters) : Bool → ExtTreeMap String Float
  | true => counters.memory
  | false => counters.system

/-- A statistic writes its value over an earlier one, and changes no other name and no other
namespace. -/
theorem scalarsOf_record (counters : Counters) (statistic : Statistic) (simulator : Bool)
    (name : String) :
    ((counters.record statistic).scalarsOf simulator)[name]? =
      (statistic.scalarValue? simulator name).or (counters.scalarsOf simulator)[name]? := by
  cases statistic with
  | memory other value =>
      cases simulator <;> by_cases hname : other = name <;>
        simp [record, scalarsOf, Statistic.scalarValue?, ExtTreeMap.getElem?_insert, hname]
  | system other value =>
      cases simulator <;> by_cases hname : other = name <;>
        simp [record, scalarsOf, Statistic.scalarValue?, ExtTreeMap.getElem?_insert, hname]
  | indexed family index value => cases simulator <;> rfl

/-- Of the values of a name the last one stands. -/
theorem scalarsOf_ofStatistics (statistics : List Statistic) (simulator : Bool)
    (name : String) :
    ((ofStatistics statistics).scalarsOf simulator)[name]? =
      (statistics.filterMap (Statistic.scalarValue? simulator name)).getLast? := by
  induction statistics using List.reverseRecOn with
  | nil => cases simulator <;> simp [scalarsOf, empty]
  | append_singleton statistics last ih =>
      rw [ofStatistics_concat, scalarsOf_record, ih, List.filterMap_append]
      cases hlast : last.scalarValue? simulator name <;> simp [hlast]

theorem scalarsOf_ofPairs (pairs : List (String × Float)) (simulator : Bool) (name : String) :
    ((ofPairs pairs).scalarsOf simulator)[name]? = (pairs.filterMap fun pair =>
      (Statistic.ofPair? pair.1 pair.2).bind
        (Statistic.scalarValue? simulator name)).getLast? := by
  unfold ofPairs
  rw [scalarsOf_ofStatistics, List.filterMap_filterMap]

/-- A canonical name has the value of the last line with its raw name. -/
theorem scalarsOf_ofPairs_of_mem {rawName canonical : String}
    (h : (rawName, canonical) ∈ Catalog.scalars) (pairs : List (String × Float)) :
    ((ofPairs pairs).scalarsOf (Catalog.isSimulatorName rawName))[canonical]? =
      pairs.reverse.lookup rawName := by
  rw [scalarsOf_ofPairs, List.getLast?_filterMap, List.lookup_eq_findSome?]
  congr 1
  funext pair
  exact Statistic.scalarValue?_ofPair? h pair

/-- A table holds only names that the catalog has in its namespace. -/
theorem exists_rawName_of_scalar {pairs : List (String × Float)} (simulator : Bool)
    {name : String} (h : name ∈ (ofPairs pairs).scalarsOf simulator) :
    ∃ rawName, (rawName, name) ∈ Catalog.scalars ∧
      Catalog.isSimulatorName rawName = simulator := by
  obtain ⟨value, hvalue⟩ := Option.isSome_iff_exists.mp
    (ExtTreeMap.mem_iff_isSome_getElem?.mp h)
  rw [scalarsOf_ofPairs] at hvalue
  have hmem := List.mem_of_getLast? hvalue
  obtain ⟨pair, -, hpair⟩ := List.mem_filterMap.mp hmem
  obtain ⟨statistic, hstatistic, hgives⟩ := Option.bind_eq_some_iff.mp hpair
  cases (Statistic.ofPair?_eq_some_iff _ _ _).mp hstatistic with
  | @memory canonical hscalar hspace =>
      obtain ⟨⟨hsimulator, rfl⟩, -⟩ : (simulator = true ∧ canonical = name) ∧
          pair.2 = value := by
        simpa [Statistic.scalarValue?] using hgives
      exact ⟨pair.1, hscalar, hspace.trans hsimulator.symm⟩
  | @system canonical hscalar hspace =>
      obtain ⟨⟨hsimulator, rfl⟩, -⟩ : (simulator = false ∧ canonical = name) ∧
          pair.2 = value := by
        simpa [Statistic.scalarValue?] using hgives
      exact ⟨pair.1, hscalar, hspace.trans hsimulator.symm⟩
  | indexed => cases hgives

/-- The table of a namespace is the same before and after a line whose name lies outside it. -/
theorem scalarsOf_record_of_ne {rawName : String} {value : Float} {statistic : Statistic}
    (h : Statistic.ofPair? rawName value = some statistic) {simulator : Bool}
    (hspace : Catalog.isSimulatorName rawName ≠ simulator) (counters : Counters) :
    (counters.record statistic).scalarsOf simulator = counters.scalarsOf simulator := by
  cases (Statistic.ofPair?_eq_some_iff _ _ _).mp h with
  | memory _ hmemory =>
      rw [hmemory] at hspace
      cases simulator with
      | true => exact absurd rfl hspace
      | false => rfl
  | system _ hsystem =>
      rw [hsystem] at hspace
      cases simulator with
      | true => rfl
      | false => exact absurd rfl hspace
  | indexed => cases simulator <;> rfl

/-- One more line adds nothing to the namespace that its name lies outside of. -/
theorem scalarsOf_ofLines_concat {line rawName : String} {value : Float}
    (h : Statistic.Gives line rawName value) (simulator : Bool)
    (hspace : Catalog.isSimulatorName rawName ≠ simulator) (earlier : List String) :
    (ofLines (earlier ++ [line])).scalarsOf simulator =
      (ofLines earlier).scalarsOf simulator := by
  have hpair := (Statistic.readPair?_eq_some_iff _ _ _).mpr h
  have hline : Statistic.ofLine? line = Statistic.ofPair? rawName value := by
    simp [Statistic.ofLine?, hpair]
  unfold ofLines
  rw [List.filterMap_append]
  cases hstatistic : Statistic.ofPair? rawName value with
  | none => simp [hline, hstatistic]
  | some statistic =>
      simp only [List.filterMap_cons, hline, hstatistic, List.filterMap_nil]
      rw [ofStatistics_concat, scalarsOf_record_of_ne hstatistic hspace]

end Counters

/-- What the scalar tables of a report hold. A canonical name has the value of the last accepted
line with its raw name of the table's namespace, other names are absent, a line changes nothing in
the other namespace, and deriving metrics changes nothing in either. -/
theorem scalar_tables_exact {bytes : Bytes} {references : Option (List Report)}
    {report : Report} (h : Report.read bytes references = .ok report) :
    ∃ pairs, AcceptedLines bytes.rawLines pairs ∧
      (∀ rawName canonical, (rawName, canonical) ∈ Catalog.scalars →
        Catalog.isSimulatorName rawName = true →
          report.counters.memory[canonical]? = pairs.reverse.lookup rawName) ∧
      (∀ rawName canonical, (rawName, canonical) ∈ Catalog.scalars →
        Catalog.isSimulatorName rawName = false →
          report.counters.system[canonical]? = pairs.reverse.lookup rawName) ∧
      (∀ name ∈ report.counters.memory, ∃ rawName, (rawName, name) ∈ Catalog.scalars ∧
        Catalog.isSimulatorName rawName = true) ∧
      (∀ name ∈ report.counters.system, ∃ rawName, (rawName, name) ∈ Catalog.scalars ∧
        Catalog.isSimulatorName rawName = false) ∧
      (∀ line rawName value, Statistic.Gives line rawName value → ∀ earlier,
        (Catalog.isSimulatorName rawName = false →
          (Counters.ofLines (earlier ++ [line])).memory = (Counters.ofLines earlier).memory) ∧
        (Catalog.isSimulatorName rawName = true →
          (Counters.ofLines (earlier ++ [line])).system = (Counters.ofLines earlier).system)) ∧
      report.counters = .ofBytes bytes := by
  have hread := Report.counters_of_read h
  let pairs := bytes.lines.filterMap Statistic.readPair?
  have htables : report.counters = .ofPairs pairs := by
    rw [hread, Counters.ofBytes_eq_ofPairs]
  refine ⟨pairs, acceptedLines_of_bytes bytes, ?_, ?_, ?_, ?_, ?_, hread⟩
  · intro rawName canonical hmem hspace
    rw [htables, ← Counters.scalarsOf_ofPairs_of_mem hmem, hspace]
    rfl
  · intro rawName canonical hmem hspace
    rw [htables, ← Counters.scalarsOf_ofPairs_of_mem hmem, hspace]
    rfl
  · intro name hname
    rw [htables] at hname
    exact Counters.exists_rawName_of_scalar true hname
  · intro name hname
    rw [htables] at hname
    exact Counters.exists_rawName_of_scalar false hname
  · intro line rawName value hgives earlier
    constructor
    · intro hspace
      exact Counters.scalarsOf_ofLines_concat hgives true (by simp [hspace]) earlier
    · intro hspace
      exact Counters.scalarsOf_ofLines_concat hgives false (by simp [hspace]) earlier

/-- A file in which both namespaces give the same canonical name, one of them twice. -/
def sharedNameFile : Bytes :=
  ["ramulator.read_bandwidth 100",
    "system.mem_ctrls.bw_read::total 7",
    "ramulator.read_bandwidth 250 # MB/s",
    "ramulator.read_bandwidth many",
    "# ramulator.read_bandwidth 1"].flatMap fun line => Bytes.ofText (line ++ "\n")

theorem scalar_tables_exact_shared_name :
    Report.read sharedNameFile none = .ok (.ofBytes sharedNameFile) ∧
      (Report.ofBytes sharedNameFile).counters.memory["read_bandwidth"]? = some 250 ∧
      (Report.ofBytes sharedNameFile).counters.system["read_bandwidth"]? = some 7 := by
  have hread : Report.read sharedNameFile none = .ok (.ofBytes sharedNameFile) := rfl
  obtain ⟨pairs, hlines, hmemory, hsystem, -⟩ := scalar_tables_exact hread
  have hpairs : pairs = [("ramulator.read_bandwidth", 100),
      ("system.mem_ctrls.bw_read::total", 7), ("ramulator.read_bandwidth", 250)] := by
    rw [(acceptedLines_iff _ _).mp hlines]
    decide +kernel
  refine ⟨hread, ?_, ?_⟩
  · rw [hmemory "ramulator.read_bandwidth" _ (by decide) (by decide), hpairs]
    decide +kernel
  · rw [hsystem "system.mem_ctrls.bw_read::total" _ (by decide) (by decide), hpairs]
    decide +kernel

end DramSweep
