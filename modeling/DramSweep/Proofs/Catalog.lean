import DramSweep.Catalog
import DramSweep.Proofs.Traverse
import Mathlib.Data.List.Infix
import Mathlib.Data.List.Nodup

/-!
The names of the catalog keep out of each other's way: a raw name is listed once, a canonical name
stands for one raw name in each namespace, and no stem begins another stem or a listed scalar. A
raw name can therefore be read in at most one way, whatever the order of the search.
-/

namespace DramSweep.Catalog

/-- No raw name is listed twice, neither as a scalar nor as a stem. -/
theorem nodup_rawNames : ((scalars ++ families).map Prod.fst).Nodup := by
  decide +kernel

theorem nodup_canonicalNames :
    (scalars.map fun entry => (entry.2, isSimulatorName entry.1)).Nodup := by
  decide +kernel

theorem nodup_familyNames : (families.map Prod.snd).Nodup := by
  decide +kernel

/-- Within one namespace a canonical name has one raw name. -/
theorem scalar_unique {a b : String × String} (ha : a ∈ scalars) (hb : b ∈ scalars)
    (hname : a.2 = b.2) (hspace : isSimulatorName a.1 = isSimulatorName b.1) : a = b :=
  List.inj_on_of_nodup_map nodup_canonicalNames ha hb (Prod.ext hname hspace)

/-- The names of the families differ. -/
theorem family_unique {a b : String × String} (ha : a ∈ families) (hb : b ∈ families)
    (hname : a.2 = b.2) : a = b :=
  List.inj_on_of_nodup_map nodup_familyNames ha hb hname

/-- No stem begins another one. -/
theorem stems_prefix_free : ∀ a ∈ families, ∀ b ∈ families,
    a.1.toList <+: b.1.toList → a = b := by
  decide +kernel

/-- No stem begins the raw name of a scalar. -/
theorem not_stem_prefix_scalar : ∀ a ∈ scalars, ∀ b ∈ families,
    ¬ b.1.toList <+: a.1.toList := by
  decide +kernel

/-- Every stem lies in the simulator's namespace. -/
theorem simulatorNamespace_isPrefix_stem : ∀ entry ∈ families,
    (simulatorNamespace.toList ++ ['.']) <+: entry.1.toList := by
  decide +kernel

/-- A name that begins with a stem lies in the simulator's namespace. -/
theorem isSimulatorName_of_stem {entry : String × String} (h : entry ∈ families)
    {rawName : String} (hstem : entry.1.toList <+: rawName.toList) :
    isSimulatorName rawName = true := by
  have hword : simulatorNamespace.toList.all (· ≠ '.') = true := by
    decide +kernel
  obtain ⟨rest, hrest⟩ := (simulatorNamespace_isPrefix_stem entry h).trans hstem
  unfold isSimulatorName
  rw [← hrest, List.append_assoc, List.takeWhile_append_of_pos (List.all_eq_true.mp hword)]
  simp

/-- A raw name is listed as a scalar exactly with the canonical names of the table. -/
theorem listing?_eq_scalar_iff (rawName canonical : String) :
    listing? rawName = some (.scalar canonical) ↔ (rawName, canonical) ∈ scalars := by
  have hnodup : (scalars.map Prod.fst).Nodup := by
    have h := nodup_rawNames
    rw [List.map_append] at h
    exact h.of_append_left
  rw [← Traverse.lookup_eq_some_iff_mem hnodup]
  unfold listing?
  cases scalars.lookup rawName <;> simp

/-- At most one stem begins a name. -/
theorem stem_unique {name : List Char} {a b : String × String} (ha : a ∈ families)
    (hb : b ∈ families) (hpa : a.1.toList <+: name) (hpb : b.1.toList <+: name) : a = b := by
  rcases List.prefix_or_prefix_of_prefix hpa hpb with h | h
  · exact stems_prefix_free a ha b hb h
  · exact (stems_prefix_free b hb a ha h).symm

/-- The search finds the family of any stem that begins the name. Since there is at most one, the
order of the search does not matter. -/
theorem familyOf?_eq_some_iff (rawName family : String) (suffix : List Char) :
    familyOf? rawName = some (family, suffix) ↔
      ∃ stem, (stem, family) ∈ families ∧ stem.toList ++ suffix = rawName.toList := by
  unfold familyOf?
  constructor
  · intro h
    obtain ⟨⟨stem, name⟩, hmem, hfound⟩ := List.exists_of_findSome?_eq_some h
    obtain ⟨rest, hrest, heq⟩ := Option.map_eq_some_iff.mp hfound
    cases heq
    exact ⟨stem, hmem, List.isPrefixOf?_eq_some_iff_append_eq.mp hrest⟩
  · rintro ⟨stem, hmem, happend⟩
    have hprefix : stem.toList <+: rawName.toList := ⟨suffix, happend⟩
    rw [List.findSome?_eq_some_iff]
    obtain ⟨before, after, hsplit⟩ := List.append_of_mem hmem
    refine ⟨before, (stem, family), after, hsplit, ?_, ?_⟩
    · simp [List.isPrefixOf?_eq_some_iff_append_eq.mpr happend]
    · rintro ⟨other, name⟩ hbefore
      rw [Option.map_eq_none_iff, Option.eq_none_iff_forall_ne_some]
      intro rest hrest
      have hother : (other, name) ∈ families := by
        rw [hsplit]
        exact List.mem_append_left _ hbefore
      have heq : (other, name) = (stem, family) :=
        stem_unique hother hmem
          ⟨rest, List.isPrefixOf?_eq_some_iff_append_eq.mp hrest⟩ hprefix
      have hnodup : families.Nodup := by decide
      rw [hsplit] at hnodup
      rw [heq] at hbefore
      exact (List.nodup_append.mp hnodup).2.2 _ hbefore _ List.mem_cons_self rfl

end DramSweep.Catalog
