import Mathlib
import DramSweep.Number.Binary

/-!
Doubles in order. A double that is defined has a place in a linear order, by its class and sign and
then by exponent and significand; comparing two such doubles is comparing their places. Both zeros
have the same place. An undefined double compares with nothing.
-/

namespace DramSweep.Number

open Float.Model (UnpackedFloat)

/-- Places of doubles: class and sign, then exponent, then significand. -/
abbrev Place := ℤ ×ₗ ℤ ×ₗ ℤ

def placeAt (kind exponent significand : ℤ) : Place :=
  toLex (kind, toLex (exponent, significand))

theorem placeAt_lt_iff {kind exponent significand kind' exponent' significand' : ℤ} :
    placeAt kind exponent significand < placeAt kind' exponent' significand' ↔
      kind < kind' ∨ kind = kind' ∧
        (exponent < exponent' ∨ exponent = exponent' ∧ significand < significand') := by
  simp [placeAt, Prod.Lex.toLex_lt_toLex]

theorem placeAt_inj {kind exponent significand kind' exponent' significand' : ℤ} :
    placeAt kind exponent significand = placeAt kind' exponent' significand' ↔
      kind = kind' ∧ exponent = exponent' ∧ significand = significand' := by
  simp [placeAt]

/-- The place of a double that is taken apart. An undefined one has none of its own and is given
that of zero. -/
def unpackedPlace : UnpackedFloat → Place
  | .infinity .negative => placeAt (-2) 0 0
  | .finite .negative significand exponent _ => placeAt (-1) (-exponent) (-significand)
  | .zero _ | .notANumber => placeAt 0 0 0
  | .finite .positive significand exponent _ => placeAt 1 exponent significand
  | .infinity .positive => placeAt 2 0 0

def place (x : Float) : Place :=
  unpackedPlace x.toModel.unpack

theorem compare_sign (s t : UnpackedFloat.Sign) :
    compare s t = compare (s.apply 1) (t.apply 1) := by
  cases s <;> cases t <;> rfl

section Unpacked

variable {a b : UnpackedFloat} (ha : a.isNaN = false) (hb : b.isNaN = false)
include ha hb

theorem compare_eq_lt_iff : a.compare b = some .lt ↔ unpackedPlace a < unpackedPlace b := by
  rcases a with ⟨⟨⟩⟩ | _ | _ | ⟨⟨⟩, m, e, _⟩ <;>
    rcases b with ⟨⟨⟩⟩ | _ | _ | ⟨⟨⟩, m', e', _⟩ <;>
    simp_all [UnpackedFloat.isNaN, UnpackedFloat.compare, unpackedPlace, placeAt_lt_iff,
      compare_sign, UnpackedFloat.Sign.apply, Ordering.then_eq_lt, Ordering.then_eq_gt,
      Int.compare_eq_lt, Int.compare_eq_gt, Nat.compare_eq_lt, Nat.compare_eq_gt]

theorem compare_eq_eq_iff : a.compare b = some .eq ↔ unpackedPlace a = unpackedPlace b := by
  rcases a with ⟨⟨⟩⟩ | _ | _ | ⟨⟨⟩, m, e, _⟩ <;>
    rcases b with ⟨⟨⟩⟩ | _ | _ | ⟨⟨⟩, m', e', _⟩ <;>
    simp_all [UnpackedFloat.isNaN, UnpackedFloat.compare, unpackedPlace, placeAt_inj, compare_sign,
      UnpackedFloat.Sign.apply, Ordering.then_eq_eq]

end Unpacked

theorem compare_eq_none_iff (a b : UnpackedFloat) :
    a.compare b = none ↔ a.isNaN = true ∨ b.isNaN = true := by
  rcases a with ⟨⟨⟩⟩ | _ | _ | ⟨⟨⟩, m, e, _⟩ <;>
    rcases b with ⟨⟨⟩⟩ | _ | _ | ⟨⟨⟩, m', e', _⟩ <;>
    simp [UnpackedFloat.isNaN, UnpackedFloat.compare]

section Compared

variable (x y : Float)

theorem lt_iff_compare : x < y ↔ x.toModel.unpack.compare y.toModel.unpack = some .lt := by
  change decide ((x.toModel.unpack.compare y.toModel.unpack == some .lt) = true) = true ↔ _
  rw [decide_eq_true_iff, beq_iff_eq]

theorem beq_iff_compare : (x == y) = true ↔
    x.toModel.unpack.compare y.toModel.unpack = some .eq := by
  change (x.toModel.unpack.compare y.toModel.unpack == some .eq) = true ↔ _
  rw [beq_iff_eq]

theorem le_iff_lt_or_beq : x ≤ y ↔ x < y ∨ (x == y) = true := by
  rw [lt_iff_compare, beq_iff_compare]
  change decide ((x.toModel.unpack.compare y.toModel.unpack).any (·.isLE) = true) = true ↔ _
  cases x.toModel.unpack.compare y.toModel.unpack with
  | none => simp
  | some ordering => cases ordering <;> simp

end Compared

section Defined

variable {x y : Float} (hx : x.isNaN = false) (hy : y.isNaN = false)
include hx hy

theorem lt_iff_place_lt : x < y ↔ place x < place y := by
  rw [lt_iff_compare]
  exact compare_eq_lt_iff hx hy

/-- Doubles compare equal when they stand at the same place. -/
theorem beq_iff_place_eq : (x == y) = true ↔ place x = place y := by
  rw [beq_iff_compare]
  exact compare_eq_eq_iff hx hy

theorem le_iff_place_le : x ≤ y ↔ place x ≤ place y := by
  rw [le_iff_lt_or_beq, le_iff_lt_or_eq, lt_iff_place_lt hx hy, beq_iff_place_eq hx hy]

end Defined

/-- An undefined double is neither below nor above another. -/
theorem not_lt_of_isNaN {x y : Float} (h : x.isNaN = true ∨ y.isNaN = true) : ¬x < y := by
  rw [lt_iff_compare, (compare_eq_none_iff _ _).mpr h]
  simp

/-- A double that is below another is defined, and so is the other. -/
theorem isNaN_of_lt {x y : Float} (h : x < y) : x.isNaN = false ∧ y.isNaN = false := by
  have hdefined := mt not_lt_of_isNaN (not_not.mpr h)
  rwa [not_or, Bool.not_eq_true, Bool.not_eq_true] at hdefined

/-- Doubles that compare equal are defined. -/
theorem isNaN_of_beq {x y : Float} (h : (x == y) = true) :
    x.isNaN = false ∧ y.isNaN = false := by
  obtain ⟨hx, hy, -⟩ := Float.beq_iff_ne_nan_and_eq.mp h
  simp [hx, hy]

section Largest

/-- The larger of two doubles is undefined only if both are. -/
theorem isNaN_larger (a b : Float) : (larger a b).isNaN = (a.isNaN && b.isNaN) := by
  unfold larger
  split
  next hfirst =>
    rcases (Bool.or_eq_true _ _).mp hfirst with hb | hlt
    · rw [hb, Bool.and_true]
    · rw [(isNaN_of_lt (of_decide_eq_true hlt)).2, Bool.false_and]
  next hsecond =>
    rw [Bool.not_eq_true, Bool.or_eq_false_iff] at hsecond
    rw [hsecond.1, Bool.and_false]

/-- Neither of two doubles is above the larger one. -/
theorem le_larger {a b x : Float} (h : x = a ∨ x = b) (hx : x.isNaN = false) : x ≤ larger a b := by
  unfold larger
  split
  next hfirst =>
    rcases h with rfl | rfl
    · exact (le_iff_place_le hx hx).mpr le_rfl
    · rw [hx, Bool.false_or, decide_eq_true_iff] at hfirst
      exact (le_iff_lt_or_beq _ _).mpr (.inl hfirst)
  next hsecond =>
    rw [Bool.or_eq_true, not_or, Bool.not_eq_true, decide_eq_true_iff] at hsecond
    obtain ⟨hb, hlt⟩ := hsecond
    rcases h with rfl | rfl
    · rw [lt_iff_place_lt hb hx, not_lt] at hlt
      exact (le_iff_place_le hx hb).mpr hlt
    · exact (le_iff_place_le hx hx).mpr le_rfl

/-- The largest of doubles is one of them and not below any other. It is undefined only if all of
them are. -/
structure IsLargest (largest : Float) (values : List Float) : Prop where
  mem : largest ∈ values
  defined : ∀ x ∈ values, x.isNaN = false → largest.isNaN = false
  le : ∀ x ∈ values, x.isNaN = false → x ≤ largest

/-- One more double at the end is compared with the largest one before it. -/
theorem IsLargest.concat {largest last : Float} {values : List Float}
    (h : IsLargest largest values) : IsLargest (larger largest last) (values ++ [last]) := by
  refine ⟨?_, ?_, ?_⟩
  · unfold larger
    split
    · exact List.mem_append_left _ h.mem
    · exact List.mem_append_right _ List.mem_cons_self
  · intro x hx hdefined
    rw [isNaN_larger]
    rcases List.mem_append.mp hx with hbefore | hlast
    · rw [h.defined x hbefore hdefined, Bool.false_and]
    · rw [← List.mem_singleton.mp hlast, hdefined, Bool.and_false]
  · intro x hx hdefined
    rcases List.mem_append.mp hx with hbefore | hlast
    · have hlargest := h.defined x hbefore hdefined
      have hboth : (larger largest last).isNaN = false := by
        rw [isNaN_larger, hlargest, Bool.false_and]
      have hle := le_larger (b := last) (.inl rfl) hlargest
      rw [le_iff_place_le hlargest hboth] at hle
      have hbelow := (le_iff_place_le hdefined hlargest).mp (h.le x hbefore hdefined)
      exact (le_iff_place_le hdefined hboth).mpr (hbelow.trans hle)
    · exact le_larger (.inr (List.mem_singleton.mp hlast)) hdefined

theorem isLargest_foldl_larger (first : Float) (rest : List Float) :
    IsLargest (rest.foldl larger first) (first :: rest) := by
  induction rest using List.reverseRecOn with
  | nil =>
      refine ⟨List.mem_cons_self, ?_, ?_⟩
      · rintro x hx hdefined
        rwa [← List.mem_singleton.mp hx]
      · rintro x hx hdefined
        cases List.mem_singleton.mp hx
        exact (le_iff_place_le hdefined hdefined).mpr le_rfl
  | append_singleton front last ih =>
      rw [List.foldl_concat]
      exact ih.concat

end Largest

end DramSweep.Number
