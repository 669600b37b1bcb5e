import DramSweep.Proofs.Number.Tokens
import DramSweep.Proofs.Report.Independence
import DramSweep.Proofs.Report.IndexedTables

/-!
Indices as they are written in a report. The numerals of an index, joined by underscores behind the
stem of a family, are read back as that index, and the line puts one entry into the tables and
changes nothing else there. A line whose index has a part that denotes no number below `2 ^ 64` says
nothing at all.
-/

namespace DramSweep

open Std (ExtTreeMap)
open Text (IsUnbroken)

/-- An index as it stands behind a stem. -/
def indexText (index : List Nat) : String :=
  "_".intercalate (index.map Nat.repr)

theorem toList_indexText (index : List Nat) :
    (indexText index).toList = ['_'].intercalate (index.map (Nat.toDigits 10)) := by
  simp [indexText, String.toList_intercalate, Function.comp_def, Nat.toList_repr]

/-- The parts of an index that is written down are its numerals. -/
theorem splitOn_indexText {index : List Nat} (hne : index ≠ []) :
    (indexText index).toList.splitOn '_' = index.map (Nat.toDigits 10) := by
  rw [toList_indexText]
  refine List.splitOn_intercalate '_' ?_ (by simpa using hne)
  intro part hpart hmem
  obtain ⟨n, -, rfl⟩ := List.mem_map.mp hpart
  exact absurd (Number.isDigit_of_mem_toDigits hmem) (by decide)

theorem readIndices?_indexText {index : List Nat} (hne : index ≠ [])
    (hfits : ∀ n ∈ index, n < 2 ^ 64) :
    Statistic.readIndices? (indexText index).toList = some index := by
  rw [Statistic.readIndices?, splitOn_indexText hne, Traverse.mapM_eq_some_iff, List.map_map]
  exact List.map_congr_left fun n hn => Number.readIndex?_toDigits (hfits n hn)

theorem indexText_injective : Function.Injective indexText := by
  have hnumerals : Function.Injective (Nat.toDigits 10) :=
    Function.LeftInverse.injective (g := Number.ofDigits) fun _ => Nat.ofDigitChars_ten_toDigits
  have hempty : ∀ index : List Nat, indexText index = indexText [] → index = [] := by
    intro index hindex
    by_contra hne
    have hparts := splitOn_indexText hne
    obtain ⟨n, rest, rfl⟩ := List.exists_cons_of_ne_nil hne
    rw [hindex, List.map_cons] at hparts
    exact Nat.toDigits_ne_nil (List.cons.inj hparts).1.symm
  intro index other h
  by_cases hindex : index = []
  · rw [hindex, hempty other (by rw [← h, hindex])]
  · by_cases hother : other = []
    · rw [hother, hempty index (by rw [h, hother])]
    · have hparts := splitOn_indexText hindex
      rw [h, splitOn_indexText hother] at hparts
      exact (List.map_injective_iff.mpr hnumerals hparts).symm

theorem mem_of_mem_intercalate {separator : List Char} {pieces : List (List Char)} {c : Char}
    (h : c ∈ separator.intercalate pieces) : c ∈ separator ∨ ∃ piece ∈ pieces, c ∈ piece := by
  induction pieces with
  | nil => cases h
  | cons first rest ih =>
      by_cases hrest : rest = []
      · subst hrest
        exact .inr ⟨first, List.mem_singleton_self first, by simpa using h⟩
      · rw [List.intercalate_cons_of_ne_nil hrest, List.mem_append, List.mem_append] at h
        rcases h with (hfirst | hseparator) | hlater
        · exact .inr ⟨first, List.mem_cons_self, hfirst⟩
        · exact .inl hseparator
        · exact (ih hlater).imp_right fun ⟨piece, hpiece, hc⟩ =>
            ⟨piece, List.mem_cons_of_mem first hpiece, hc⟩

theorem mem_indexText {index : List Nat} {c : Char} (h : c ∈ (indexText index).toList) :
    c = '_' ∨ c.isDigit = true := by
  rw [toList_indexText] at h
  rcases mem_of_mem_intercalate h with hseparator | ⟨part, hpart, hc⟩
  · exact .inl (List.mem_singleton.mp hseparator)
  · obtain ⟨n, -, rfl⟩ := List.mem_map.mp hpart
    exact .inr (Number.isDigit_of_mem_toDigits hc)

/-- An index does not divide a line. -/
theorem isUnbroken_indexText (index : List Nat) : IsUnbroken (indexText index).toList := by
  intro c hc
  rcases mem_indexText hc with rfl | hdigit
  · decide
  · exact Text.isBlank_of_isDigit hdigit

/-- An index makes no distribution of a line. -/
theorem not_mem_indexText (index : List Nat) : '-' ∉ (indexText index).toList := by
  intro hc
  rcases mem_indexText hc with hseparator | hdigit
  · exact absurd hseparator (by decide)
  · exact absurd hdigit (by decide)

/-- A stem is the front of one word, which names a statistic. -/
theorem stem_names : ∀ entry ∈ Catalog.families,
    IsUnbroken entry.1.toList ∧ '-' ∉ entry.1.toList ∧ entry.1.toList.head? = some 'r' := by
  decide +kernel

namespace Statistic

/-- A suffix is no index exactly where one of its parts denotes none. -/
theorem readIndices?_eq_none_iff (suffix : List Char) : readIndices? suffix = none ↔
    ∃ part ∈ suffix.splitOn '_', Number.IsMalformed part := by
  rw [readIndices?, ← Option.not_isSome_iff_eq_none, Traverse.isSome_mapM_iff]
  simp only [← Number.readIndex?_eq_none_iff, not_forall, Option.not_isSome_iff_eq_none,
    exists_prop]

section Lines

variable {stem family : String} (hfamily : (stem, family) ∈ Catalog.families)
include hfamily

theorem words_of_member {suffix : String} (hsuffix : IsUnbroken suffix.toList) (rest : String) :
    Text.words (stem ++ suffix ++ " " ++ rest).toList =
      (stem ++ suffix).toList :: Text.words rest.toList := by
  obtain ⟨hstem, -, hhead⟩ := stem_names _ hfamily
  have hline : (stem ++ suffix ++ " " ++ rest).toList =
      (stem ++ suffix).toList ++ ' ' :: rest.toList := by simp
  rw [hline]
  refine Text.words_append_blank ?_ ?_ (by decide) rest.toList
  · intro hnil
    rw [String.toList_append, List.append_eq_nil_iff] at hnil
    rw [hnil.1] at hhead
    cases hhead
  · rw [String.toList_append]
    exact hstem.append hsuffix

/-- A line with the stem of a family, a whole index and a value gives one entry of the family. -/
theorem ofLine?_of_index {suffix token : String} {index : List Nat} {value : Float}
    (hsuffix : IsUnbroken suffix.toList) (hname : '-' ∉ suffix.toList)
    (hindex : readIndices? suffix.toList = some index)
    (hvalue : Number.readFloat? token.toList = some value) :
    ofLine? (stem ++ suffix ++ " " ++ token) = some (.indexed family index value) := by
  obtain ⟨-, hstem, hhead⟩ := stem_names _ hfamily
  obtain ⟨htoken, hunbroken⟩ := Number.isUnbroken_of_readFloat? hvalue
  have hwords := words_of_member hfamily hsuffix token
  rw [Text.words_of_isUnbroken htoken hunbroken] at hwords
  have hpair : readPair? (stem ++ suffix ++ " " ++ token) = some (stem ++ suffix, value) := by
    refine (readPair?_eq_some_iff _ _ _).mpr ⟨_, _, _, hwords, ?_, ?_, ?_, hvalue⟩
    · simp [hhead]
    · simp [hstem, hname]
    · rw [String.ofList_toList]
  have hstatistic : ofPair? (stem ++ suffix) value = some (.indexed family index value) :=
    (ofPair?_eq_some_iff _ _ _).mpr (.indexed hfamily String.toList_append.symm hindex)
  rw [ofLine?, hpair]
  exact hstatistic

/-- A line with the stem of a family and a part that denotes no index says nothing. -/
theorem ofLine?_of_malformed {suffix : String} (hsuffix : IsUnbroken suffix.toList)
    (hmalformed : ∃ part ∈ suffix.toList.splitOn '_', Number.IsMalformed part) (rest : String) :
    ofLine? (stem ++ suffix ++ " " ++ rest) = none := by
  rw [Option.eq_none_iff_forall_ne_some]
  intro statistic hstatistic
  obtain ⟨⟨rawName, value⟩, hpair, hgiven⟩ := Option.bind_eq_some_iff.mp hstatistic
  obtain ⟨first, _, _, hwords, -, -, rfl, -⟩ := (readPair?_eq_some_iff _ _ _).mp hpair
  rw [words_of_member hfamily hsuffix rest] at hwords
  obtain ⟨rfl, -⟩ := List.cons.inj hwords
  rw [String.ofList_toList] at hgiven
  have hstem : stem.toList ++ suffix.toList = (stem ++ suffix).toList :=
    String.toList_append.symm
  cases (ofPair?_eq_some_iff _ _ _).mp hgiven with
  | memory hscalar =>
      exact Catalog.not_stem_prefix_scalar _ hscalar _ hfamily ⟨_, hstem⟩
  | system hscalar =>
      exact Catalog.not_stem_prefix_scalar _ hscalar _ hfamily ⟨_, hstem⟩
  | indexed hother happend hindex =>
      cases Catalog.stem_unique hother hfamily ⟨_, happend⟩ ⟨_, hstem⟩
      cases List.append_cancel_left (happend.trans hstem.symm)
      rw [(readIndices?_eq_none_iff _).mpr hmalformed] at hindex
      cases hindex

end Lines

end Statistic

namespace Counters

/-- The tables with one entry more, behind those of its family and dimension. -/
structure AppendsOnly (after before : Counters) (family : String) (entry : IndexedEntry) :
    Prop where
  memory : after.memory = before.memory
  system : after.system = before.system
  appended : after.entries? family (entry.1.length - 1) =
    some ((before.entries? family (entry.1.length - 1)).getD [] ++ [entry])
  dimensions : ∀ dimension, dimension ≠ entry.1.length - 1 →
    after.entries? family dimension = before.entries? family dimension
  families : ∀ other, other ≠ family → after.indexed[other]? = before.indexed[other]?

theorem appendsOnly_record (counters : Counters) (family : String) (entry : IndexedEntry) :
    (counters.record (.indexed family entry.1 entry.2)).AppendsOnly counters family entry where
  memory := rfl
  system := rfl
  appended := by
    rw [entries?_record]
    simp [Statistic.entryIn?]
  dimensions := by
    intro dimension hdimension
    rw [entries?_record]
    simp [Statistic.entryIn?, hdimension.symm]
  families := by
    intro other hother
    simp [record, fileEntry, ExtTreeMap.getElem?_insert, hother.symm]

/-- A line that gives no statistic may as well not be there. -/
theorem ofLines_of_none {line : String} (h : Statistic.ofLine? line = none)
    (earlier later : List String) :
    ofLines (earlier ++ line :: later) = ofLines (earlier ++ later) := by
  simp [ofLines, List.filterMap_append, h]

end Counters

/-- Reading an index undoes writing it. The stem of a family, an index of numbers below `2 ^ 64` and
a value put that index and that value behind the entries of the family at the dimension of the
index, and change nothing else in the tables; no two indices are written alike. A line whose index
has a part that denotes no such number leaves the tables as they would be without it. -/
theorem index_decoding_undoes_encoding {stem family : String}
    (hfamily : (stem, family) ∈ Catalog.families) :
    (∀ (index : List Nat) (token : String) (value : Float) (earlier : List String), index ≠ [] →
      (∀ n ∈ index, n < 2 ^ 64) → Number.readFloat? token.toList = some value →
      (Counters.ofLines (earlier ++ [stem ++ indexText index ++ " " ++ token])).AppendsOnly
        (Counters.ofLines earlier) family (index, value)) ∧
    Function.Injective indexText ∧
    ∀ (suffix rest : String) (earlier later : List String), IsUnbroken suffix.toList →
      (∃ part ∈ suffix.toList.splitOn '_', Number.IsMalformed part) →
      Counters.ofLines (earlier ++ (stem ++ suffix ++ " " ++ rest) :: later) =
        Counters.ofLines (earlier ++ later) := by
  refine ⟨?_, indexText_injective, ?_⟩
  · intro index token value earlier hne hfits hvalue
    have hline := Statistic.ofLine?_of_index hfamily (isUnbroken_indexText index)
      (not_mem_indexText index) (readIndices?_indexText hne hfits) hvalue
    rw [Counters.ofLines_concat, hline]
    exact Counters.appendsOnly_record _ family (index, value)
  · intro suffix rest earlier later hsuffix hmalformed
    exact Counters.ofLines_of_none
      (Statistic.ofLine?_of_malformed hfamily hsuffix hmalformed rest) earlier later

/-- The greatest number that an index can have, and the one after it. -/
theorem index_decoding_undoes_encoding_greatest :
    (Counters.ofLines ["ramulator.serving_requests_0_1 5",
        "ramulator.serving_requests_0_18446744073709551615 2.5"]).entries?
          "total_serving_requests" 1 =
        some [([0, 1], 5), ([0, 18446744073709551615], 2.5)] ∧
      Counters.ofLines ["ramulator.serving_requests_0_1 5",
        "ramulator.serving_requests_0_18446744073709551616 2.5"] =
          Counters.ofLines ["ramulator.serving_requests_0_1 5"] := by
  have hfamily : ("ramulator.serving_requests_", "total_serving_requests") ∈ Catalog.families := by
    decide
  obtain ⟨happends, -, hignores⟩ := index_decoding_undoes_encoding hfamily
  let first := "ramulator.serving_requests_0_1 5"
  let line := "ramulator.serving_requests_" ++ indexText [0, 18446744073709551615] ++ " " ++ "2.5"
  have hearlier : (Counters.ofLines [first]).entries? "total_serving_requests" 1 =
      some [([0, 1], 5)] := by
    decide +kernel
  have hline : line = "ramulator.serving_requests_0_18446744073709551615 2.5" := by
    decide +kernel
  have happended : (Counters.ofLines [first, line]).entries? "total_serving_requests" 1 =
      some (((Counters.ofLines [first]).entries? "total_serving_requests" 1).getD [] ++
        [([0, 18446744073709551615], 2.5)]) :=
    (happends _ "2.5" 2.5 [first] (by decide) (by decide) (by decide +kernel)).appended
  constructor
  · rw [hline, hearlier] at happended
    exact happended
  · refine hignores "0_18446744073709551616" "2.5" [first] []
      (by decide) ⟨"18446744073709551616".toList, by decide +kernel, .tooBig ?_ ?_⟩
    · exact List.all_eq_true.mp (by decide +kernel)
    · decide +kernel

end DramSweep
