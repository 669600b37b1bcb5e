import DramSweep.FileTree

/-!
Computations that open files. Such a computation learns of the files only what it finds at the paths
that it opens, so the paths are all that it depends on. Computations follow each other, and a
computation for each element of a list ends with the first one that fails.
-/

namespace DramSweep

/-- A computation is done, or opens a path and goes on with what can be read there, if anything. -/
inductive FileQuery (α : Type) where
  | done (value : α)
  | opening (path : Path) (next : Option Bytes → FileQuery α)

namespace FileQuery

variable {α β ε : Type}

/-- What a computation yields over the files of a tree. -/
def run (tree : FileTree) : FileQuery α → α
  | .done value => value
  | .opening path next => run tree (next (tree.open? path))

/-- The paths that a computation opens over a tree, in order. They may lead nowhere. -/
def opened (tree : FileTree) : FileQuery α → List Path
  | .done _ => []
  | .opening path next => path :: opened tree (next (tree.open? path))

/-- One computation after the other. -/
def bind : FileQuery α → (α → FileQuery β) → FileQuery β
  | .done value, next => next value
  | .opening path rest, next => .opening path fun found => (rest found).bind next

def map (f : α → β) (query : FileQuery α) : FileQuery β :=
  query.bind fun value => .done (f value)

/-- Opens paths one after the other. -/
def openEach : List Path → FileQuery (List (Option Bytes))
  | [] => .done []
  | path :: rest => .opening path fun found => (openEach rest).map (found :: ·)

/-- A computation for each element, up to the first that fails. -/
def traverse (query : α → FileQuery (Except ε β)) : List α → FileQuery (Except ε (List β))
  | [] => .done (.ok [])
  | x :: rest => (query x).bind fun
    | .error e => .done (.error e)
    | .ok y => (traverse query rest).map fun others => others.map (y :: ·)

variable {tree : FileTree}

@[simp] theorem run_bind (query : FileQuery α) (next : α → FileQuery β) :
    (query.bind next).run tree = (next (query.run tree)).run tree := by
  induction query with
  | done value => rfl
  | opening path rest ih => exact ih _

@[simp] theorem opened_bind (query : FileQuery α) (next : α → FileQuery β) :
    (query.bind next).opened tree = query.opened tree ++ (next (query.run tree)).opened tree := by
  induction query with
  | done value => rfl
  | opening path rest ih => exact congrArg (path :: ·) (ih _)

@[simp] theorem run_map (f : α → β) (query : FileQuery α) :
    (query.map f).run tree = f (query.run tree) :=
  run_bind query _

@[simp] theorem opened_map (f : α → β) (query : FileQuery α) :
    (query.map f).opened tree = query.opened tree :=
  (opened_bind query _).trans (List.append_nil _)

@[simp] theorem run_openEach (paths : List Path) :
    (openEach paths).run tree = paths.map tree.open? := by
  induction paths with
  | nil => rfl
  | cons path rest ih => simp [openEach, run, ih]

@[simp] theorem opened_openEach (paths : List Path) : (openEach paths).opened tree = paths := by
  induction paths with
  | nil => rfl
  | cons path rest ih => simp [openEach, opened, ih]

/-- Over a tree this is the plain traversal. -/
theorem run_traverse (query : α → FileQuery (Except ε β)) (xs : List α) :
    (traverse query xs).run tree = xs.mapM fun x => (query x).run tree := by
  induction xs with
  | nil => rfl
  | cons x rest ih =>
      rw [traverse, run_bind, List.mapM_cons]
      cases (query x).run tree with
      | error e => rfl
      | ok y =>
          rw [run_map, ih]
          cases rest.mapM fun x => (query x).run tree <;> rfl

/-- A path is opened for the sake of some element. -/
theorem exists_of_mem_opened_traverse {query : α → FileQuery (Except ε β)} {xs : List α}
    {path : Path} (h : path ∈ (traverse query xs).opened tree) :
    ∃ x ∈ xs, path ∈ (query x).opened tree := by
  induction xs with
  | nil => cases h
  | cons x rest ih =>
      rw [traverse, opened_bind, List.mem_append] at h
      rcases h with hfirst | hrest
      · exact ⟨x, List.mem_cons_self, hfirst⟩
      · cases hresult : (query x).run tree with
        | error e =>
            rw [hresult] at hrest
            cases hrest
        | ok y =>
            rw [hresult, opened_map] at hrest
            obtain ⟨other, hother, hopened⟩ := ih hrest
            exact ⟨other, List.mem_cons_of_mem x hother, hopened⟩

end FileQuery

end DramSweep
