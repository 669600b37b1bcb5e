import Mathlib.Data.List.Basic

/-!
A function that may fail, applied along a list. The whole succeeds exactly when every element does,
and its result is then the list of the results. A look-up in a list of pairs is such a function too.
-/

namespace DramSweep.Traverse

/-- All elements have values exactly when the result is the list of these values. -/
theorem mapM_eq_some_iff {α β : Type} (f : α → Option β) (xs : List α) (ys : List β) :
    xs.mapM f = some ys ↔ xs.map f = ys.map some := by
  induction xs generalizing ys with
  | nil => cases ys <;> simp
  | cons x rest ih =>
      rw [List.mapM_cons]
      constructor
      · intro h
        obtain ⟨y, hy, hrest⟩ := Option.bind_eq_some_iff.mp h
        obtain ⟨tail, htail, hys⟩ := Option.bind_eq_some_iff.mp hrest
        cases hys
        simp [hy, (ih tail).mp htail]
      · intro h
        cases ys with
        | nil => simp at h
        | cons y tail =>
            obtain ⟨hy, htail⟩ := List.cons.inj h
            simp [hy, (ih tail).mpr htail]

/-- The whole has a value as soon as each element has one. -/
theorem isSome_mapM_iff {α β : Type} (f : α → Option β) (xs : List α) :
    (xs.mapM f).isSome ↔ ∀ x ∈ xs, (f x).isSome := by
  induction xs with
  | nil => simp
  | cons x rest ih =>
      rw [List.mapM_cons, List.forall_mem_cons, ← ih]
      cases f x <;> cases rest.mapM f <;> simp

/-- Of copies of one value either all are there or none is. -/
theorem mapM_replicate {α : Type} {count : Nat} (hcount : 0 < count) (value? : Option α) :
    (List.replicate count value?).mapM id = value?.map (List.replicate count) := by
  cases value? with
  | none =>
      rw [Option.map_none, ← Option.not_isSome_iff_eq_none, isSome_mapM_iff]
      intro hall
      exact Bool.false_ne_true (hall none (List.mem_replicate.mpr ⟨Nat.ne_of_gt hcount, rfl⟩))
  | some value =>
      rw [Option.map_some, mapM_eq_some_iff]
      simp

/-- A traversal keeps the number of elements. -/
theorem length_of_mapM_eq_some {α β : Type} {f : α → Option β} {xs : List α} {ys : List β}
    (h : xs.mapM f = some ys) : ys.length = xs.length := by
  have hlength := congrArg List.length ((mapM_eq_some_iff f xs ys).mp h)
  simpa using hlength.symm

theorem toOption_eq_some_iff {ε α : Type} {action : Except ε α} {value : α} :
    action.toOption = some value ↔ action = .ok value := by
  cases action <;> simp [Except.toOption]

theorem map_eq_ok_iff {ε α β : Type} {f : α → β} {action : Except ε α} {result : β} :
    action.map f = .ok result ↔ ∃ value, action = .ok value ∧ f value = result := by
  cases action <;> simp [Except.map]

/-- What follows a step that may fail is reached when the step succeeds. -/
theorem bind_eq_ok_iff {ε α β : Type} {action : Except ε α} {next : α → Except ε β} {result : β} :
    action >>= next = .ok result ↔ ∃ value, action = .ok value ∧ next value = .ok result := by
  cases action with
  | error e => simp [bind, Except.bind]
  | ok value => simp [bind, Except.bind]

/-- Where errors carry a cause, success is also success of every element. -/
theorem mapM_eq_ok_iff {ε α β : Type} (f : α → Except ε β) (xs : List α) (ys : List β) :
    xs.mapM f = .ok ys ↔ xs.map f = ys.map .ok := by
  induction xs generalizing ys with
  | nil => cases ys <;> simp [pure, Except.pure]
  | cons x rest ih =>
      rw [List.mapM_cons]
      constructor
      · intro h
        obtain ⟨y, hy, hrest⟩ := bind_eq_ok_iff.mp h
        obtain ⟨tail, htail, hys⟩ := bind_eq_ok_iff.mp hrest
        cases hys
        simp [hy, (ih tail).mp htail]
      · intro h
        cases ys with
        | nil => simp at h
        | cons y tail =>
            obtain ⟨hy, htail⟩ := List.cons.inj h
            exact bind_eq_ok_iff.mpr ⟨y, hy, bind_eq_ok_iff.mpr ⟨tail, (ih tail).mpr htail, rfl⟩⟩

/-- Each element of a traversal that succeeds has its result at its own position. -/
theorem getElem?_of_mapM_eq_ok {ε α β : Type} {f : α → Except ε β} {xs : List α} {ys : List β}
    (h : xs.mapM f = .ok ys) {position : Nat} {x : α} (hx : xs[position]? = some x) :
    ∃ y, ys[position]? = some y ∧ f x = .ok y := by
  have hposition := congrArg (·[position]?) ((mapM_eq_ok_iff f xs ys).mp h)
  simp only [List.getElem?_map, hx, Option.map_some] at hposition
  obtain ⟨y, hy, heq⟩ := Option.map_eq_some_iff.mp hposition.symm
  exact ⟨y, hy, heq.symm⟩

theorem exists_of_mapM_eq_ok {ε α β : Type} {f : α → Except ε β} {xs : List α} {ys : List β}
    (h : xs.mapM f = .ok ys) {x : α} (hx : x ∈ xs) : ∃ y ∈ ys, f x = .ok y := by
  obtain ⟨position, hposition⟩ := List.mem_iff_getElem?.mp hx
  obtain ⟨y, hy, heq⟩ := getElem?_of_mapM_eq_ok h hposition
  exact ⟨y, List.mem_of_getElem? hy, heq⟩

theorem length_of_mapM_eq_ok {ε α β : Type} {f : α → Except ε β} {xs : List α} {ys : List β}
    (h : xs.mapM f = .ok ys) : ys.length = xs.length := by
  have hlength := congrArg List.length ((mapM_eq_ok_iff f xs ys).mp h)
  simpa using hlength.symm

/-- A traversal whose results are those of a function is a plain map once it succeeds. -/
theorem eq_map_of_mapM_eq_ok {ε α β : Type} {f : α → Except ε β} {g : α → β} {xs : List α}
    {ys : List β} (h : xs.mapM f = .ok ys) (hg : ∀ x ∈ xs, ∀ y, f x = .ok y → y = g x) :
    ys = xs.map g := by
  rw [mapM_eq_ok_iff] at h
  induction xs generalizing ys with
  | nil => simpa using h
  | cons x rest ih =>
      cases ys with
      | nil => simp at h
      | cons y tail =>
          obtain ⟨hy, htail⟩ := List.cons.inj h
          rw [List.map_cons, hg x List.mem_cons_self y hy,
            ih htail fun other hother => hg other (List.mem_cons_of_mem x hother)]

section Failure

variable {ε α β : Type}

/-- Why an action fails, if it does. -/
def failure? : Except ε α → Option ε
  | .ok _ => none
  | .error e => some e

@[simp] theorem failure?_ok (value : α) : failure? (.ok value : Except ε α) = none := rfl

@[simp] theorem failure?_error (e : ε) : failure? (.error e : Except ε α) = some e := rfl

theorem failure?_eq_none_iff {action : Except ε α} :
    failure? action = none ↔ ∃ value, action = .ok value := by
  cases action <;> simp

theorem failure?_eq_some_iff {action : Except ε α} {e : ε} :
    failure? action = some e ↔ action = .error e := by
  cases action <;> simp

@[simp] theorem failure?_map (f : α → β) (action : Except ε α) :
    failure? (action.map f) = failure? action := by
  cases action <;> rfl

/-- A first step fails for its own reason, or the next one does for its. -/
theorem failure?_bind (action : Except ε α) (next : α → Except ε β) :
    failure? (action >>= next) =
      (failure? action).or (action.toOption.bind fun value => failure? (next value)) := by
  cases action <;> simp [bind, Except.bind, Except.toOption]

/-- A traversal fails where the first of its elements does, and for that reason. -/
theorem failure?_mapM (f : α → Except ε β) (xs : List α) :
    failure? (xs.mapM f) = xs.findSome? fun x => failure? (f x) := by
  induction xs with
  | nil => rfl
  | cons x rest ih =>
      rw [List.mapM_cons, List.findSome?_cons, ← ih]
      cases hx : f x with
      | error e => rfl
      | ok y => cases rest.mapM f <;> rfl

/-- A traversal succeeds as soon as each element does. -/
theorem exists_mapM_eq_ok_iff (f : α → Except ε β) (xs : List α) :
    (∃ ys, xs.mapM f = .ok ys) ↔ ∀ x ∈ xs, ∃ y, f x = .ok y := by
  simp only [← failure?_eq_none_iff, failure?_mapM, List.findSome?_eq_none_iff]

/-- A search for a reason ends at the first element that does not hold. -/
theorem findSome?_eq_map_find? {xs : List α} {reason? : α → Option β} {holds : α → Bool}
    {reason : α → β}
    (h : ∀ x ∈ xs, reason? x = if holds x then none else some (reason x)) :
    xs.findSome? reason? = (xs.find? fun x => !holds x).map reason := by
  induction xs with
  | nil => rfl
  | cons x rest ih =>
      rw [List.findSome?_cons, List.find?_cons, h x List.mem_cons_self,
        ih fun y hy => h y (List.mem_cons_of_mem x hy)]
      cases holds x <;> rfl

end Failure

/-- Two actions end alike when both fail for the same reason or both give values that are
related. -/
inductive EndAlike {ε α β : Type} (related : α → β → Prop) : Except ε α → Except ε β → Prop where
  | ok {first : α} {second : β} (h : related first second) :
      EndAlike related (.ok first) (.ok second)
  | error (e : ε) : EndAlike related (.error e) (.error e)

section Keyed

variable {ε κ α : Type} {read : κ → Except ε α} {keys : List κ} {pairs : List (κ × α)}

/-- Every key is read, and stands with what was read for it. -/
theorem exists_of_mem_keys (h : keys.mapM (fun key => (read key).map (key, ·)) = .ok pairs)
    {key : κ} (hmem : key ∈ keys) : ∃ value, read key = .ok value ∧ (key, value) ∈ pairs := by
  obtain ⟨pair, hpair, heq⟩ := exists_of_mapM_eq_ok h hmem
  obtain ⟨value, hvalue, rfl⟩ := map_eq_ok_iff.mp heq
  exact ⟨value, hvalue, hpair⟩

theorem mem_keyed_iff (h : keys.mapM (fun key => (read key).map (key, ·)) = .ok pairs)
    (key : κ) (value : α) : (key, value) ∈ pairs ↔ key ∈ keys ∧ read key = .ok value := by
  constructor
  · intro hmem
    rw [mapM_eq_ok_iff] at h
    have hread := List.mem_map_of_mem (f := Except.ok (ε := ε)) hmem
    rw [← h] at hread
    obtain ⟨other, hother, heq⟩ := List.mem_map.mp hread
    obtain ⟨found, hfound, hpair⟩ := map_eq_ok_iff.mp heq
    cases hpair
    exact ⟨hother, hfound⟩
  · rintro ⟨hmem, hvalue⟩
    obtain ⟨found, hfound, hpair⟩ := exists_of_mem_keys h hmem
    cases hvalue.symm.trans hfound
    exact hpair

end Keyed

/-- Where every key stands once, look-up is membership. -/
theorem lookup_eq_some_iff_mem {κ α : Type} [DecidableEq κ] {pairs : List (κ × α)}
    (hnodup : (pairs.map Prod.fst).Nodup) (key : κ) (value : α) :
    pairs.lookup key = some value ↔ (key, value) ∈ pairs := by
  induction pairs with
  | nil => simp
  | cons pair rest ih =>
      obtain ⟨first, other⟩ := pair
      obtain ⟨hfirst, hrest⟩ := List.nodup_cons.mp hnodup
      rw [List.lookup_cons]
      by_cases hkey : key = first
      · subst hkey
        have habsent : (key, value) ∉ rest := fun hmem =>
          hfirst (List.mem_map.mpr ⟨_, hmem, rfl⟩)
        simp [habsent, eq_comm]
      · have hbeq : (key == first) = false := beq_false_of_ne hkey
        simp [hbeq, hkey, ih hrest]

end DramSweep.Traverse
