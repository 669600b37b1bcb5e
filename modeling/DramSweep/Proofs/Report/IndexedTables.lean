import DramSweep.Proofs.Report.AcceptedLines
import DramSweep.Proofs.Report.Reading
import Mathlib.Data.List.Induction

/-!
The indexed tables of a report. A family holds at each dimension exactly the entries that the
accepted lines give to it, in file order, and there is no key without an entry. The entry of a line
is judged by the stem of one family alone, so that the order in which families and scalars are
tried drops out.
-/

namespace DramSweep

open Std (ExtTreeMap)

/-- The entry that a name and its value give to the family with a stem at a dimension: what follows
the stem are indices, one more than the dimension. -/
def entryFor? (stem : String) (dimension : Nat) (pair : String × Float) : Option IndexedEntry :=
  (stem.toList.isPrefixOf? pair.1.toList).bind fun suffix =>
    (Statistic.readIndices? suffix).bind fun index =>
      if index.length = dimension + 1 then some (index, pair.2) else none

theorem entryFor?_eq_some_iff (stem : String) (dimension : Nat) (pair : String × Float)
    (entry : IndexedEntry) :
    entryFor? stem dimension pair = some entry ↔
      ∃ suffix, stem.toList ++ suffix = pair.1.toList ∧
        Statistic.readIndices? suffix = some entry.1 ∧ entry.1.length = dimension + 1 ∧
        entry.2 = pair.2 := by
  unfold entryFor?
  constructor
  · intro h
    obtain ⟨suffix, hprefix, hrest⟩ := Option.bind_eq_some_iff.mp h
    obtain ⟨index, hindex, hentry⟩ := Option.bind_eq_some_iff.mp hrest
    split at hentry
    · rename_i hlength
      cases hentry
      exact ⟨suffix, List.isPrefixOf?_eq_some_iff_append_eq.mp hprefix, hindex, hlength, rfl⟩
    · cases hentry
  · rintro ⟨suffix, happend, hindex, hlength, hvalue⟩
    rw [List.isPrefixOf?_eq_some_iff_append_eq.mpr happend]
    simp [hindex, hlength, ← hvalue]

/-- A name and its value have an entry in one family and at one dimension at most. -/
theorem entryFor?_unique {a b : String × String} (ha : a ∈ Catalog.families)
    (hb : b ∈ Catalog.families) {m n : Nat} {pair : String × Float} {e e' : IndexedEntry}
    (he : entryFor? a.1 m pair = some e) (he' : entryFor? b.1 n pair = some e') :
    a = b ∧ m = n ∧ e = e' := by
  obtain ⟨suffix, happend, hindex, hlength, hvalue⟩ := (entryFor?_eq_some_iff _ _ _ _).mp he
  obtain ⟨suffix', happend', hindex', hlength', hvalue'⟩ :=
    (entryFor?_eq_some_iff _ _ _ _).mp he'
  have hstem : a = b := Catalog.stem_unique ha hb ⟨suffix, happend⟩ ⟨suffix', happend'⟩
  subst hstem
  have hsuffix : suffix = suffix' := List.append_cancel_left (happend.trans happend'.symm)
  subst hsuffix
  have hsame : e.1 = e'.1 := Option.some.inj (hindex.symm.trans hindex')
  refine ⟨rfl, ?_, Prod.ext hsame (hvalue.trans hvalue'.symm)⟩
  rw [hsame, hlength'] at hlength
  omega

namespace Statistic

/-- The entry that a statistic adds to a family at a dimension. -/
def entryIn? (family : String) (dimension : Nat) : Statistic → Option IndexedEntry
  | .indexed name index value =>
    if name = family ∧ index.length - 1 = dimension then some (index, value) else none
  | _ => none

/-- What a name adds to a family is decided by the stem of that family. -/
theorem entryIn?_ofPair? {stem family : String} (h : (stem, family) ∈ Catalog.families)
    (dimension : Nat) (pair : String × Float) :
    (ofPair? pair.1 pair.2).bind (entryIn? family dimension) = entryFor? stem dimension pair := by
  apply Option.ext
  intro entry
  rw [Option.bind_eq_some_iff, entryFor?_eq_some_iff]
  constructor
  · rintro ⟨statistic, hstatistic, hentry⟩
    cases (ofPair?_eq_some_iff _ _ _).mp hstatistic with
    | memory => cases hentry
    | system => cases hentry
    | @indexed other name suffix index hmem happend hindex =>
        obtain ⟨⟨rfl, hdimension⟩, rfl⟩ : (name = family ∧ index.length - 1 = dimension) ∧
            (index, pair.2) = entry := by
          simpa [entryIn?] using hentry
        have hstem : (other, name) = (stem, name) := Catalog.family_unique hmem h rfl
        cases hstem
        have hpos := length_pos_of_readIndices? hindex
        exact ⟨suffix, happend, hindex, by dsimp only; omega, rfl⟩
  · rintro ⟨suffix, happend, hindex, hlength, hvalue⟩
    refine ⟨.indexed family entry.1 pair.2, ?_, ?_⟩
    · exact (ofPair?_eq_some_iff _ _ _).mpr (.indexed h happend hindex)
    · simp [entryIn?, hlength, ← hvalue]

end Statistic

namespace Counters

/-- A list of entries as a table holds it: not at all when it is empty. -/
def filed (entries : List IndexedEntry) : Option (List IndexedEntry) :=
  if entries.isEmpty then none else some entries

theorem filed_eq_some_iff (entries found : List IndexedEntry) :
    filed entries = some found ↔ found ≠ [] ∧ entries = found := by
  cases entries with
  | nil => simp [filed, eq_comm]
  | cons first rest =>
      simp only [filed, List.isEmpty_cons, Bool.false_eq_true, if_false, Option.some.injEq]
      constructor
      · rintro rfl
        simp
      · exact And.right

@[simp] theorem getD_filed (entries : List IndexedEntry) : (filed entries).getD [] = entries := by
  cases entries <;> rfl

theorem filed_concat (entries : List IndexedEntry) (last : IndexedEntry) :
    filed (entries ++ [last]) = some (entries ++ [last]) := by
  simp [filed]

/-- One more statistic stands behind the entries of its own family and dimension, and no other
entries change. -/
theorem entries?_record (counters : Counters) (statistic : Statistic) (family : String)
    (dimension : Nat) :
    (counters.record statistic).entries? family dimension =
      match statistic.entryIn? family dimension with
      | some entry => some ((counters.entries? family dimension).getD [] ++ [entry])
      | none => counters.entries? family dimension := by
  cases statistic with
  | memory name value => rfl
  | system name value => rfl
  | indexed name index value =>
      simp only [entries?, record, fileEntry, Statistic.entryIn?, ExtTreeMap.getElem?_insert]
      by_cases hname : name = family
      · subst hname
        by_cases hdimension : index.length - 1 = dimension
        · subst hdimension
          cases hfamily : counters.indexed[name]? <;>
            simp [ExtTreeMap.getD_eq_getD_getElem?, hfamily]
        · cases hfamily : counters.indexed[name]? <;>
            simp [ExtTreeMap.getD_eq_getD_getElem?, ExtTreeMap.getElem?_insert, hfamily,
              hdimension]
      · simp [hname]

/-- A family holds at a dimension what the statistics add there, in order. -/
theorem entries?_ofStatistics (statistics : List Statistic) (family : String)
    (dimension : Nat) :
    (ofStatistics statistics).entries? family dimension =
      filed (statistics.filterMap (Statistic.entryIn? family dimension)) := by
  induction statistics using List.reverseRecOn with
  | nil => simp [entries?, filed, empty]
  | append_singleton statistics last ih =>
      rw [ofStatistics_concat, entries?_record, ih, List.filterMap_append]
      cases hlast : last.entryIn? family dimension with
      | none => simp [hlast]
      | some entry => simp [hlast, filed_concat]

/-- No family is without entries. -/
theorem exists_entries_of_family {statistics : List Statistic} {family : String}
    {dimensions : ExtTreeMap Nat (List IndexedEntry)}
    (h : (ofStatistics statistics).indexed[family]? = some dimensions) :
    ∃ (dimension : Nat) (entries : List IndexedEntry),
      dimensions[dimension]? = some entries := by
  induction statistics using List.reverseRecOn generalizing dimensions with
  | nil => simp [empty] at h
  | append_singleton statistics last ih =>
      rw [ofStatistics_concat] at h
      cases last with
      | memory name value => exact ih h
      | system name value => exact ih h
      | indexed name index value =>
          simp only [record, fileEntry, ExtTreeMap.getElem?_insert] at h
          split at h
          · cases h
            exact ⟨index.length - 1, _, ExtTreeMap.getElem?_insert_self⟩
          · exact ih h

/-- The tables of names and values hold the entries of each family by its stem. -/
theorem entries?_ofPairs {stem family : String} (h : (stem, family) ∈ Catalog.families)
    (pairs : List (String × Float)) (dimension : Nat) :
    (ofPairs pairs).entries? family dimension =
      filed (pairs.filterMap (entryFor? stem dimension)) := by
  unfold ofPairs
  rw [entries?_ofStatistics, List.filterMap_filterMap]
  congr 2
  funext pair
  exact Statistic.entryIn?_ofPair? h dimension pair

/-- Only the families of the catalog have tables. -/
theorem exists_stem_of_entries {pairs : List (String × Float)} {family : String}
    {dimension : Nat} {entries : List IndexedEntry}
    (h : (ofPairs pairs).entries? family dimension = some entries) :
    ∃ stem, (stem, family) ∈ Catalog.families := by
  unfold ofPairs at h
  rw [entries?_ofStatistics, filed_eq_some_iff, List.filterMap_filterMap] at h
  obtain ⟨hne, heq⟩ := h
  obtain ⟨entry, hentry⟩ := List.exists_mem_of_ne_nil entries hne
  rw [← heq, List.mem_filterMap] at hentry
  obtain ⟨pair, -, hpair⟩ := hentry
  obtain ⟨statistic, hstatistic, hadds⟩ := Option.bind_eq_some_iff.mp hpair
  cases (Statistic.ofPair?_eq_some_iff _ _ _).mp hstatistic with
  | memory => cases hadds
  | system => cases hadds
  | @indexed stem name suffix index hmem =>
      obtain ⟨⟨rfl, -⟩, -⟩ : (name = family ∧ index.length - 1 = dimension) ∧
          (index, pair.2) = entry := by
        simpa [Statistic.entryIn?] using hadds
      exact ⟨stem, hmem⟩

end Counters

/-- What the indexed tables of a report hold. At each dimension a family has, in file order, the
entries of the accepted lines whose name is its stem and an index, and no key stands for nothing.
A name has an entry in one place at most and is then not a listed scalar. -/
theorem indexed_tables_exact {bytes : Bytes} {references : Option (List Report)}
    {report : Report} (h : Report.read bytes references = .ok report) :
    ∃ pairs, AcceptedLines bytes.rawLines pairs ∧
      (∀ stem family, (stem, family) ∈ Catalog.families → ∀ dimension entries,
        report.counters.entries? family dimension = some entries ↔
          entries ≠ [] ∧ pairs.filterMap (entryFor? stem dimension) = entries) ∧
      (∀ family dimensions, report.counters.indexed[family]? = some dimensions →
        (∃ stem, (stem, family) ∈ Catalog.families) ∧
          ∃ dimension entries, report.counters.entries? family dimension = some entries) ∧
      (∀ family dimension entries, report.counters.entries? family dimension = some entries →
        ∀ entry ∈ entries, entry.1.length = dimension + 1) ∧
      (∀ a ∈ Catalog.families, ∀ b ∈ Catalog.families, ∀ name : List Char,
        a.1.toList <+: name → b.1.toList <+: name → a = b) ∧
      (∀ a ∈ Catalog.families, ∀ b ∈ Catalog.families, ∀ m n pair e e',
        entryFor? a.1 m pair = some e → entryFor? b.1 n pair = some e' →
          a = b ∧ m = n ∧ e = e') ∧
      (∀ a ∈ Catalog.scalars, ∀ b ∈ Catalog.families, ∀ dimension value,
        entryFor? b.1 dimension (a.1, value) = none) := by
  let pairs := bytes.lines.filterMap Statistic.readPair?
  have htables : report.counters = .ofPairs pairs := by
    rw [Report.counters_of_read h, Counters.ofBytes_eq_ofPairs]
  rw [htables]
  refine ⟨pairs, acceptedLines_of_bytes bytes, ?_, ?_, ?_, ?_, ?_, ?_⟩
  · intro stem family hmem dimension entries
    rw [Counters.entries?_ofPairs hmem, Counters.filed_eq_some_iff]
  · intro family dimensions hfamily
    obtain ⟨dimension, entries, hentries⟩ := Counters.exists_entries_of_family hfamily
    have hheld : (Counters.ofPairs pairs).entries? family dimension = some entries := by
      simp [Counters.entries?, hfamily, hentries]
    exact ⟨Counters.exists_stem_of_entries hheld, dimension, entries, hheld⟩
  · intro family dimension entries hentries entry hmem
    obtain ⟨stem, hstem⟩ := Counters.exists_stem_of_entries hentries
    rw [Counters.entries?_ofPairs hstem, Counters.filed_eq_some_iff] at hentries
    rw [← hentries.2, List.mem_filterMap] at hmem
    obtain ⟨pair, -, hpair⟩ := hmem
    obtain ⟨_, _, _, hlength, _⟩ := (entryFor?_eq_some_iff _ _ _ _).mp hpair
    exact hlength
  · intro a ha b hb name
    exact Catalog.stem_unique ha hb
  · intro a ha b hb m n pair e e'
    exact entryFor?_unique ha hb
  · intro a ha b hb dimension value
    rw [Option.eq_none_iff_forall_ne_some]
    intro entry hentry
    obtain ⟨suffix, happend, _⟩ := (entryFor?_eq_some_iff _ _ _ _).mp hentry
    exact Catalog.not_stem_prefix_scalar a ha b hb ⟨suffix, happend⟩

/-- A file with entries of two dimensions, a bare stem, a malformed index, a comment, a
distribution, and a last entry behind a line that is not UTF-8. -/
def mixedFile : Bytes :=
  ["# ramulator.serving_requests_7 1",
    "ramulator.serving_requests_0_1 5",
    "ramulator.serving_requests_ 4",
    "ramulator.serving_requests_0_x 4",
    "ramulator.serving_requests_3 9 # level 0",
    "ramulator.latency-0 12",
    "ramulator.serving_requests_0_0 2"].flatMap (fun line => Bytes.ofText (line ++ "\n")) ++
    [0xff, 10] ++ Bytes.ofText "ramulator.serving_requests_0_2 8"

theorem indexed_tables_exact_mixed :
    Report.read mixedFile none = .ok (.ofBytes mixedFile) ∧
      (Report.ofBytes mixedFile).counters.entries? "total_serving_requests" 1 =
        some [([0, 1], 5), ([0, 0], 2)] ∧
      (Report.ofBytes mixedFile).counters.entries? "total_serving_requests" 0 =
        some [([3], 9)] := by
  have hread : Report.read mixedFile none = .ok (.ofBytes mixedFile) := rfl
  obtain ⟨pairs, hlines, hexact, -⟩ := indexed_tables_exact hread
  have hpairs : pairs = [("ramulator.serving_requests_0_1", 5), ("ramulator.serving_requests_", 4),
      ("ramulator.serving_requests_0_x", 4), ("ramulator.serving_requests_3", 9),
      ("ramulator.serving_requests_0_0", 2)] := by
    rw [(acceptedLines_iff _ _).mp hlines]
    decide +kernel
  have hstem : ("ramulator.serving_requests_", "total_serving_requests") ∈ Catalog.families := by
    decide
  refine ⟨hread, (hexact _ _ hstem 1 _).mpr ⟨by simp, ?_⟩,
    (hexact _ _ hstem 0 _).mpr ⟨by simp, ?_⟩⟩
  · rw [hpairs]
    decide +kernel
  · rw [hpairs]
    decide +kernel

end DramSweep
