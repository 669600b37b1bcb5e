import DramSweep.Proofs.Catalog
import DramSweep.Proofs.Traverse
import DramSweep.Report.Basic

/-!
What the lines of a file come to. The accepted lines of a file are described by rules of their own,
and reading a file is shown to follow them: the tables of a report are a function of the names and
values on its accepted lines, in file order. A name and its value are one statistic at most, and
which one can be read off the catalog.
-/

namespace DramSweep

namespace Statistic

/-- A line gives a value to a raw name when its first word is the name of neither a comment nor a
distribution and its second word is a number. -/
def Gives (line rawName : String) (value : Float) : Prop :=
  ∃ first second rest, Text.words line.toList = first :: second :: rest ∧
    first.head? ≠ some '#' ∧ '-' ∉ first ∧ rawName = String.ofList first ∧
    Number.readFloat? second = some value

theorem readPair?_eq_some_iff (line rawName : String) (value : Float) :
    readPair? line = some (rawName, value) ↔ Gives line rawName value := by
  unfold readPair? Gives
  cases hwords : Text.words line.toList with
  | nil => simp
  | cons first others =>
      cases others with
      | nil => simp
      | cons second rest =>
          by_cases hname : isName first = true
          · have hfirst : first.head? ≠ some '#' ∧ '-' ∉ first := by
              simpa [isName] using hname
            constructor
            · intro h
              obtain ⟨hread, rfl⟩ : Number.readFloat? second = some value ∧
                  String.ofList first = rawName := by
                simpa [hname] using h
              exact ⟨first, second, rest, rfl, hfirst.1, hfirst.2, rfl, hread⟩
            · rintro ⟨_, _, _, heq, -, -, rfl, hread⟩
              cases heq
              simp [hname, hread]
          · have hfirst : ¬ (first.head? ≠ some '#' ∧ '-' ∉ first) := by
              simpa [isName] using hname
            simp only [hname, Bool.false_eq_true, if_false, reduceCtorEq, false_iff]
            rintro ⟨_, _, _, heq, hcomment, hdistribution, -⟩
            cases heq
            exact hfirst ⟨hcomment, hdistribution⟩

end Statistic

/-- The names and values on the accepted lines of a file, in file order. A line that gives nothing
is passed over, and reading ends at the first line that is not UTF-8. -/
inductive AcceptedLines : List Bytes → List (String × Float) → Prop where
  | finished : AcceptedLines [] []
  | undecodable {line : Bytes} {rest : List Bytes} (h : line.text? = none) :
      AcceptedLines (line :: rest) []
  | accepted {line : Bytes} {rest : List Bytes} {text rawName : String} {value : Float}
      {pairs : List (String × Float)} (h : line.text? = some text)
      (hgives : Statistic.Gives text rawName value) (hrest : AcceptedLines rest pairs) :
      AcceptedLines (line :: rest) ((rawName, value) :: pairs)
  | passedOver {line : Bytes} {rest : List Bytes} {text : String}
      {pairs : List (String × Float)} (h : line.text? = some text)
      (hgives : ∀ rawName value, ¬ Statistic.Gives text rawName value)
      (hrest : AcceptedLines rest pairs) : AcceptedLines (line :: rest) pairs

/-- The rules determine the accepted lines, and they are the ones that are read. -/
theorem acceptedLines_iff (lines : List Bytes) (pairs : List (String × Float)) :
    AcceptedLines lines pairs ↔
      pairs = (Bytes.decodeLines lines).filterMap Statistic.readPair? := by
  constructor
  · intro h
    induction h with
    | finished => rfl
    | undecodable h => simp [Bytes.decodeLines, h]
    | accepted h hgives _ ih =>
        have hpair := (Statistic.readPair?_eq_some_iff _ _ _).mpr hgives
        simp [Bytes.decodeLines, h, hpair, ih]
    | @passedOver line rest text pairs h hgives _ ih =>
        have hpair : Statistic.readPair? text = none := by
          rw [Option.eq_none_iff_forall_ne_some]
          rintro ⟨rawName, value⟩ hsome
          exact hgives rawName value ((Statistic.readPair?_eq_some_iff _ _ _).mp hsome)
        simp [Bytes.decodeLines, h, hpair, ih]
  · intro h
    subst h
    induction lines with
    | nil => exact .finished
    | cons line rest ih =>
        cases htext : line.text? with
        | none => simpa [Bytes.decodeLines, htext] using AcceptedLines.undecodable htext
        | some text =>
            simp only [Bytes.decodeLines, htext, List.filterMap_cons]
            cases hpair : Statistic.readPair? text with
            | none =>
                refine .passedOver htext ?_ ih
                intro rawName value hgives
                rw [(Statistic.readPair?_eq_some_iff _ _ _).mpr hgives] at hpair
                cases hpair
            | some pair =>
                exact .accepted htext ((Statistic.readPair?_eq_some_iff _ _ _).mp hpair) ih

/-- Every file has its accepted lines. -/
theorem acceptedLines_of_bytes (bytes : Bytes) :
    AcceptedLines bytes.rawLines (bytes.lines.filterMap Statistic.readPair?) :=
  (acceptedLines_iff _ _).mpr rfl

namespace Counters

/-- The tables that names and values come to, the earliest first. -/
def ofPairs (pairs : List (String × Float)) : Counters :=
  ofStatistics (pairs.filterMap fun (rawName, value) => Statistic.ofPair? rawName value)

/-- The tables of a file depend on its accepted lines only. -/
theorem ofBytes_eq_ofPairs (bytes : Bytes) :
    ofBytes bytes = ofPairs (bytes.lines.filterMap Statistic.readPair?) := by
  unfold ofBytes ofLines ofPairs
  rw [List.filterMap_filterMap]
  rfl

end Counters

namespace Statistic

/-- What a name and its value stand for: a scalar of the namespace that the name is in, or a member
of the family whose stem and a whole index make up the name. -/
inductive StandsFor (rawName : String) (value : Float) : Statistic → Prop where
  | memory {canonical : String} (h : (rawName, canonical) ∈ Catalog.scalars)
      (hspace : Catalog.isSimulatorName rawName = true) :
      StandsFor rawName value (.memory canonical value)
  | system {canonical : String} (h : (rawName, canonical) ∈ Catalog.scalars)
      (hspace : Catalog.isSimulatorName rawName = false) :
      StandsFor rawName value (.system canonical value)
  | indexed {stem family : String} {suffix : List Char} {index : List Nat}
      (h : (stem, family) ∈ Catalog.families)
      (happend : stem.toList ++ suffix = rawName.toList)
      (hindex : readIndices? suffix = some index) :
      StandsFor rawName value (.indexed family index value)

theorem ofPair?_of_scalar {rawName canonical : String} (value : Float)
    (h : (rawName, canonical) ∈ Catalog.scalars) :
    ofPair? rawName value =
      some (if Catalog.isSimulatorName rawName then .memory canonical value
        else .system canonical value) := by
  have hlisting := (Catalog.listing?_eq_scalar_iff _ _).mpr h
  unfold ofPair?
  rw [hlisting]
  dsimp only
  split <;> rfl

theorem ofPair?_of_not_scalar {rawName : String} (value : Float)
    (h : ∀ canonical, (rawName, canonical) ∉ Catalog.scalars) :
    ofPair? rawName value = (Catalog.familyOf? rawName).bind fun found =>
      (readIndices? found.2).map fun index => .indexed found.1 index value := by
  unfold ofPair?
  rcases hlisting : Catalog.listing? rawName with _ | (canonical | family)
  · rfl
  · exact absurd ((Catalog.listing?_eq_scalar_iff _ _).mp hlisting) (h canonical)
  · rfl

/-- The reading of a name follows the rules. The listed scalars do not get in the way of a family,
since no stem begins one. -/
theorem ofPair?_eq_some_iff (rawName : String) (value : Float) (statistic : Statistic) :
    ofPair? rawName value = some statistic ↔ StandsFor rawName value statistic := by
  constructor
  · intro h
    by_cases hlisted : ∃ canonical, (rawName, canonical) ∈ Catalog.scalars
    · obtain ⟨canonical, hscalar⟩ := hlisted
      rw [ofPair?_of_scalar value hscalar] at h
      cases hspace : Catalog.isSimulatorName rawName with
      | true =>
          simp only [hspace, if_true, Option.some.injEq] at h
          exact h ▸ .memory hscalar hspace
      | false =>
          simp only [hspace, Bool.false_eq_true, if_false, Option.some.injEq] at h
          exact h ▸ .system hscalar hspace
    · rw [ofPair?_of_not_scalar value (not_exists.mp hlisted)] at h
      obtain ⟨⟨family, suffix⟩, hfound, hindex⟩ := Option.bind_eq_some_iff.mp h
      obtain ⟨index, hindices, heq⟩ := Option.map_eq_some_iff.mp hindex
      obtain ⟨stem, hmem, happend⟩ := (Catalog.familyOf?_eq_some_iff _ _ _).mp hfound
      exact heq ▸ .indexed hmem happend hindices
  · intro h
    cases h with
    | memory h hspace => rw [ofPair?_of_scalar value h, if_pos hspace]
    | system h hspace => rw [ofPair?_of_scalar value h, if_neg (by simp [hspace])]
    | @indexed stem family suffix index h happend hindex =>
        have hunlisted : ∀ canonical, (rawName, canonical) ∉ Catalog.scalars := fun _ hscalar =>
          Catalog.not_stem_prefix_scalar _ hscalar _ h ⟨suffix, happend⟩
        rw [ofPair?_of_not_scalar value hunlisted,
          (Catalog.familyOf?_eq_some_iff _ _ _).mpr ⟨stem, h, happend⟩]
        simp [hindex]

/-- An index has at least one part. -/
theorem length_pos_of_readIndices? {suffix : List Char} {index : List Nat}
    (h : readIndices? suffix = some index) : 0 < index.length := by
  have hlength := Traverse.length_of_mapM_eq_some h
  have hne : suffix.splitOn '_' ≠ [] := List.splitOn_ne_nil _ _
  rw [hlength]
  exact List.length_pos_iff.mpr hne

end Statistic

end DramSweep
