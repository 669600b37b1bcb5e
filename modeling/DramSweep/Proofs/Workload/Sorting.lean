import Mathlib.Data.List.Induction
import Mathlib.Data.List.Perm.Basic
import Mathlib.Data.List.Sort
import DramSweep.Workload.Order

/-!
Ordering workloads loses none and repeats none, whatever their loads are, undefined ones among them.
A sort by insertion keeps the order of elements that do not precede each other; where elements
precede each other by a key it orders them by the key, and is the only stable order of them.
-/

namespace DramSweep.Workload

section Gathering

variable {α : Type} (before : α → α → Bool)

theorem perm_insertFromBack (x : α) (xs : List α) :
    (insertFromBack before x xs).Perm (x :: xs) := by
  induction xs with
  | nil => exact .refl _
  | cons y rest ih =>
      unfold insertFromBack
      split
      · exact (ih.cons y).trans (.swap x y rest)
      · exact .refl _

/-- Inserting one element after the other gathers them all. -/
theorem perm_foldl_insertFromBack (xs sorted : List α) :
    (xs.foldl (fun sorted x => insertFromBack before x sorted) sorted).Perm (xs ++ sorted) := by
  induction xs generalizing sorted with
  | nil => exact .refl _
  | cons x rest ih =>
      exact (ih _).trans (((perm_insertFromBack before x sorted).append_left rest).trans
        List.perm_middle)

theorem perm_stableSort (xs : List α) : (stableSort before xs).Perm xs := by
  have hgathered := perm_foldl_insertFromBack before xs []
  rw [List.append_nil] at hgathered
  exact (List.reverse_perm _).trans hgathered

end Gathering

section Insertion

variable {α : Type} {before : α → α → Bool} {x y : α} {ys zs : List α}

/-- An element goes past all that it precedes. -/
theorem insertFromBack_append_of_forall (h : ∀ y ∈ ys, before x y = true) :
    insertFromBack before x (ys ++ zs) = ys ++ insertFromBack before x zs := by
  induction ys with
  | nil => rfl
  | cons y rest ih =>
      rw [List.cons_append, insertFromBack, if_pos (h y List.mem_cons_self),
        ih fun z hz => h z (List.mem_cons_of_mem y hz)]
      rfl

/-- An element stays behind one that it does not precede. -/
theorem insertFromBack_append_cons (h : before x y = false) :
    insertFromBack before x (ys ++ y :: zs) = insertFromBack before x ys ++ y :: zs := by
  induction ys with
  | nil => simp [insertFromBack, h]
  | cons first rest ih =>
      rw [List.cons_append, insertFromBack, insertFromBack]
      split
      · rw [ih, List.cons_append]
      · rfl

/-- An element that precedes nothing is put at the back. -/
theorem insertFromBack_of_forall (h : ∀ y ∈ ys, before x y = false) :
    insertFromBack before x ys = x :: ys := by
  cases ys with
  | nil => rfl
  | cons y rest => simp [insertFromBack, h y List.mem_cons_self]

theorem filter_insertFromBack_of_neg {p : α → Bool} (hx : p x = false) :
    (insertFromBack before x ys).filter p = ys.filter p := by
  induction ys with
  | nil => simp [insertFromBack, hx]
  | cons y rest ih =>
      unfold insertFromBack
      split
      · rw [List.filter_cons, List.filter_cons, ih]
      · rw [List.filter_cons_of_neg (by simp [hx])]

/-- An element does not go past one of its own class. -/
theorem filter_insertFromBack_of_pos {p : α → Bool} (hx : p x = true)
    (h : ∀ y, p y = true → before x y = false) :
    (insertFromBack before x ys).filter p = x :: ys.filter p := by
  induction ys with
  | nil => simp [insertFromBack, hx]
  | cons y rest ih =>
      unfold insertFromBack
      split
      next hbefore =>
        have hy : p y = false := by
          rw [← Bool.not_eq_true]
          intro hy
          rw [h y hy] at hbefore
          cases hbefore
        rw [List.filter_cons_of_neg (by simp [hy]), List.filter_cons_of_neg (by simp [hy]), ih]
      · rw [List.filter_cons_of_pos hx]

end Insertion

section Sorting

variable {α : Type} {before before' : α → α → Bool}

/-- A sort inserts the last element into the sorted rest. -/
theorem reverse_stableSort_concat (xs : List α) (x : α) :
    (stableSort before (xs ++ [x])).reverse =
      insertFromBack before x (stableSort before xs).reverse := by
  simp [stableSort]

theorem stableSort_concat (xs : List α) (x : α) : stableSort before (xs ++ [x]) =
    (insertFromBack before x (stableSort before xs).reverse).reverse := by
  rw [← reverse_stableSort_concat, List.reverse_reverse]

/-- A class of elements that do not precede each other keeps its order. -/
theorem filter_stableSort {p : α → Bool}
    (h : ∀ x y, p x = true → p y = true → before x y = false) (xs : List α) :
    (stableSort before xs).filter p = xs.filter p := by
  induction xs using List.reverseRecOn with
  | nil => rfl
  | append_singleton xs x ih =>
      rw [stableSort_concat, List.filter_reverse, List.filter_append]
      cases hx : p x with
      | false =>
          rw [filter_insertFromBack_of_neg hx, List.filter_reverse, List.reverse_reverse, ih]
          simp [hx]
      | true =>
          rw [filter_insertFromBack_of_pos hx (h x · hx), List.filter_reverse, ih]
          simp [hx]

/-- Only what elements of the list precede each other matters. -/
theorem stableSort_congr {xs : List α} (h : ∀ x ∈ xs, ∀ y ∈ xs, before x y = before' x y) :
    stableSort before xs = stableSort before' xs := by
  have hinsert : ∀ x ∈ xs, ∀ ys, (∀ y ∈ ys, y ∈ xs) →
      insertFromBack before x ys = insertFromBack before' x ys := by
    intro x hx ys hys
    induction ys with
    | nil => rfl
    | cons y rest ih =>
        rw [insertFromBack, insertFromBack, h x hx y (hys y List.mem_cons_self),
          ih fun z hz => hys z (List.mem_cons_of_mem y hz)]
  have hfront : ∀ front, (∀ x ∈ front, x ∈ xs) →
      stableSort before front = stableSort before' front := by
    intro front hmem
    induction front using List.reverseRecOn with
    | nil => rfl
    | append_singleton front x ih =>
        rw [stableSort_concat, stableSort_concat, ih fun y hy => hmem y (by simp [hy]),
          hinsert x (hmem x (by simp))]
        intro y hy
        rw [List.mem_reverse, (perm_stableSort before' front).mem_iff] at hy
        exact hmem y (by simp [hy])
  exact hfront xs fun _ hx => hx

/-- Elements that precede nothing, and that all others precede, come last and in their order. -/
theorem stableSort_of_last {p : α → Bool}
    (hfirst : ∀ x y, p x = true → p y = false → before x y = true)
    (hlast : ∀ x y, p x = false → before x y = false) (xs : List α) :
    stableSort before xs = stableSort before (xs.filter p) ++ xs.filter fun x => !p x := by
  induction xs using List.reverseRecOn with
  | nil => rfl
  | append_singleton xs x ih =>
      rw [stableSort_concat, ih, List.filter_append, List.filter_append, List.reverse_append]
      cases hx : p x with
      | false =>
          rw [insertFromBack_of_forall fun y _ => hlast x y hx]
          simp [hx]
      | true =>
          have hpassed : ∀ y ∈ (xs.filter fun x => !p x).reverse, before x y = true := by
            intro y hy
            exact hfirst x y hx (by simpa using (List.mem_filter.mp (List.mem_reverse.mp hy)).2)
          rw [insertFromBack_append_of_forall hpassed, List.filter_cons_of_pos hx,
            List.filter_nil, stableSort_concat]
          simp [hx]

/-- An element that precedes none of those before it and is preceded by none of those behind it
keeps them apart: both sides are sorted on their own. -/
theorem stableSort_append_cons {front rest : List α} {odd : α}
    (hfront : ∀ y ∈ front, before odd y = false) (hrest : ∀ x ∈ rest, before x odd = false) :
    stableSort before (front ++ odd :: rest) =
      stableSort before front ++ odd :: stableSort before rest := by
  induction rest using List.reverseRecOn with
  | nil =>
      have hstays : ∀ y ∈ (stableSort before front).reverse, before odd y = false := by
        intro y hy
        exact hfront y ((perm_stableSort before front).mem_iff.mp (List.mem_reverse.mp hy))
      rw [stableSort_concat, insertFromBack_of_forall hstays]
      simp [stableSort]
  | append_singleton rest x ih =>
      rw [← List.cons_append, ← List.append_assoc, stableSort_concat,
        ih fun y hy => hrest y (by simp [hy]), List.reverse_append, List.reverse_cons,
        List.append_assoc, List.singleton_append,
        insertFromBack_append_cons (hrest x (by simp)), ← reverse_stableSort_concat]
      simp

end Sorting

section Keyed

variable {α β : Type} [LinearOrder β] (key : α → β)

theorem insertFromBack_key (x : α) (ys : List α) :
    insertFromBack (fun a b => decide (key b < key a)) x ys =
      ys.orderedInsert (fun a b => key a ≤ key b) x := by
  induction ys with
  | nil => rfl
  | cons y rest ih =>
      rw [insertFromBack, List.orderedInsert_cons, ih]
      by_cases hle : key x ≤ key y
      · simp [hle, not_lt.mpr hle]
      · simp [hle, not_le.mp hle]

theorem stableSort_key (xs : List α) :
    stableSort (fun a b => decide (key b < key a)) xs =
      (xs.reverse.insertionSort fun a b => key a ≤ key b).reverse := by
  unfold stableSort List.insertionSort
  rw [List.foldr_reverse]
  simp only [insertFromBack_key]

/-- Sorted by a key, an element comes before all that have a smaller one. -/
theorem pairwise_stableSort_key (xs : List α) :
    (stableSort (fun a b => decide (key b < key a)) xs).Pairwise fun a b => key b ≤ key a := by
  have htotal : Std.Total fun a b : α => key a ≤ key b := ⟨fun a b => le_total (key a) (key b)⟩
  have htrans : IsTrans α fun a b => key a ≤ key b := ⟨fun _ _ _ => le_trans⟩
  rw [stableSort_key, List.pairwise_reverse]
  exact List.pairwise_insertionSort _ _

/-- A list has one order by a key in which elements of the same key stand as they do in it. -/
theorem eq_of_pairwise_of_filter_eq {xs ys : List α} (hperm : xs.Perm ys)
    (hxs : xs.Pairwise fun a b => key b ≤ key a) (hys : ys.Pairwise fun a b => key b ≤ key a)
    (hclass : ∀ a ∈ xs, xs.filter (fun b => decide (key b = key a)) =
      ys.filter fun b => decide (key b = key a)) : xs = ys := by
  induction xs generalizing ys with
  | nil => exact hperm.nil_eq
  | cons x restXs ih =>
      cases ys with
      | nil => exact hperm.eq_nil
      | cons y restYs =>
          obtain ⟨hx, hrestXs⟩ := List.pairwise_cons.mp hxs
          obtain ⟨hy, hrestYs⟩ := List.pairwise_cons.mp hys
          -- both heads have the greatest key
          have hkey : key y = key x := by
            apply le_antisymm
            · rcases List.mem_cons.mp (hperm.mem_iff.mpr List.mem_cons_self) with rfl | hmem
              · exact le_refl _
              · exact hx y hmem
            · rcases List.mem_cons.mp (hperm.mem_iff.mp List.mem_cons_self) with rfl | hmem
              · exact le_refl _
              · exact hy x hmem
          have hheads := hclass x List.mem_cons_self
          rw [List.filter_cons_of_pos (by simp), List.filter_cons_of_pos (by simp [hkey])] at hheads
          obtain ⟨rfl, -⟩ := List.cons.inj hheads
          congr 1
          refine ih hperm.cons_inv hrestXs hrestYs fun a ha => ?_
          have hrest := hclass a (List.mem_cons_of_mem x ha)
          rw [List.filter_cons, List.filter_cons] at hrest
          split at hrest
          · exact (List.cons.inj hrest).2
          · exact hrest

end Keyed

theorem perm_heaviestFirst (workloads : List Workload) :
    (heaviestFirst workloads).Perm workloads :=
  perm_stableSort _ workloads

end DramSweep.Workload
