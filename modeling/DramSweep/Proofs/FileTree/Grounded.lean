import DramSweep.Proofs.FileTree.Changes
import DramSweep.Proofs.FileTree.Components

/-!
Trees in which everything stands in a directory. They start so, and making files and directories
keeps them so. In such a tree a path that ends in no name leads to a directory, so no file can be
written there.
-/

namespace DramSweep.FileTree

open Std (ExtTreeMap ReflCmp LawfulEqCmp)
open Traverse

/-- Whatever is there stands in a directory. -/
def Grounded (tree : FileTree) : Prop :=
  ∀ location, (tree.at? location).isSome → tree.at? location.dropLast = some .directory

variable {tree made : FileTree} {path : Path} {location next : Location}

/-- A walk ends with a step. -/
theorem exists_last_step (h : tree.walk path = .ok location) : ∃ front last folder,
    path.segments = front ++ [last] ∧ tree.step folder last = .ok location := by
  obtain ⟨front, last, hsegments⟩ : ∃ front last, path.segments = front ++ [last] :=
    ⟨_, _, (List.dropLast_concat_getLast path.segments_ne_nil).symm⟩
  have hdescend := descend_of_walk h
  unfold descend at hdescend
  rw [hsegments, List.foldlM_append] at hdescend
  obtain ⟨folder, -, hstep⟩ := bind_eq_ok_iff.mp hdescend
  simp only [List.foldlM_cons, List.foldlM_nil, bind_pure] at hstep
  exact ⟨front, last, folder, hsegments, hstep⟩

namespace Grounded

/-- A directory and the one above it are there. -/
theorem directory_above (h : tree.Grounded) (hdirectory : tree.at? location = some .directory)
    (hnext : next = location ∨ next = location.dropLast) : tree.at? next = some .directory := by
  rcases hnext with rfl | rfl
  · exact hdirectory
  · exact h location (by simp [hdirectory])

/-- A path that ends in no name leads to a directory. -/
theorem directory_of_walk (h : tree.Grounded) (hnone : path.fileName? = none)
    (hwalk : tree.walk path = .ok location) : tree.at? location = some .directory := by
  obtain ⟨front, last, folder, hsegments, hstep⟩ := exists_last_step hwalk
  rcases step_by_name_or_not hstep with ⟨hname, -⟩ | ⟨-, hnext⟩
  · cases hnone.symm.trans (Path.fileName?_of_segments hsegments hname)
  · exact h.directory_above (directory_of_step hstep) hnext

/-- The way to a place without a directory ends in one. -/
theorem directory_before (h : tree.Grounded) (hwalk : tree.walk path = .ok location)
    (hfree : tree.at? location ≠ some .directory) :
    tree.at? location.dropLast = some .directory := by
  obtain ⟨-, last, folder, -, hstep⟩ := exists_last_step hwalk
  rcases step_by_name_or_not hstep with ⟨-, rfl⟩ | ⟨-, hnext⟩
  · rw [List.dropLast_concat]
    exact directory_of_step hstep
  · exact absurd (h.directory_above (directory_of_step hstep) hnext) hfree

/-- A new directory in a directory. -/
theorem put (h : tree.Grounded) (hfree : tree.at? location ≠ some .directory)
    (habove : tree.at? location.dropLast = some .directory) :
    (tree.put location .directory).Grounded := by
  have hkept : ∀ other, tree.at? other = some .directory →
      (tree.put location .directory).at? other = some .directory := by
    intro other hother
    have hne : location ≠ other := by
      rintro rfl
      exact hfree hother
    rw [at?_put_of_ne tree hne, hother]
  intro other hother
  by_cases hsame : location = other
  · exact hkept _ (hsame ▸ habove)
  · rw [at?_put_of_ne tree hsame] at hother
    exact hkept _ (h other hother)

/-- A file that comes or goes in a directory. -/
theorem of_changedOnly (h : tree.Grounded) (hchanged : made.ChangedOnly tree (· = location))
    (habove : tree.at? location.dropLast = some .directory) : made.Grounded := by
  intro other hother
  rw [hchanged.directories]
  by_cases hsame : other = location
  · exact hsame ▸ habove
  · rw [hchanged.others other hsame] at hother
    exact h other hother

theorem writeFile (h : tree.Grounded) {content : Bytes}
    (hwritten : tree.writeFile path content = .ok made) : made.Grounded := by
  obtain ⟨location, hwalk, hfree, -, hchanged⟩ := writeFile_cases hwritten
  exact h.of_changedOnly hchanged (h.directory_before hwalk hfree)

theorem createDirectory (h : tree.Grounded) (hmade : tree.createDirectory path = .ok made) :
    made.Grounded := by
  obtain ⟨location, hwalk, hput⟩ := bind_eq_ok_iff.mp hmade
  cases hentry : tree.at? location with
  | some entry =>
      rw [hentry] at hput
      cases hput
  | none =>
      rw [hentry] at hput
      cases hput
      have hfree : tree.at? location ≠ some .directory := by simp [hentry]
      exact h.put hfree (h.directory_before hwalk hfree)

theorem ensureDirectory (h : tree.Grounded) (hmade : tree.ensureDirectory path = .ok made) :
    made.Grounded := by
  unfold FileTree.ensureDirectory at hmade
  cases hcreate : tree.createDirectory path with
  | ok created =>
      rw [hcreate] at hmade
      cases hmade
      exact h.createDirectory hcreate
  | error fault =>
      rw [hcreate] at hmade
      dsimp only at hmade
      split at hmade
      · cases hmade
        exact h
      · cases hmade

theorem createChain (h : tree.Grounded) (paths : List Path) :
    (tree.createChain paths).1.Grounded := by
  induction paths with
  | nil => exact h
  | cons path above ih =>
      unfold FileTree.createChain
      split
      next created hcreate => exact h.createDirectory hcreate
      next hcreate =>
        cases habove : tree.createChain above with
        | mk between result =>
            rw [habove] at ih
            cases result with
            | error fault => exact ih
            | ok done =>
                dsimp only
                cases hensure : between.ensureDirectory path with
                | ok created => exact ensureDirectory ih hensure
                | error fault => exact ih
      next => exact h

/-- Making directories keeps everything in a directory, also where it fails halfway. -/
theorem createDirectories (h : tree.Grounded) (path : Path) :
    (tree.createDirectories path).1.Grounded := by
  unfold FileTree.createDirectories
  split
  · exact h
  · exact h.createChain path.upwards

theorem withFile (h : tree.Grounded) (path : Path) (content : Bytes) :
    (tree.withFile path content).Grounded := by
  unfold FileTree.withFile
  cases path.parent? with
  | none =>
      dsimp only
      split
      next written hwritten => exact h.writeFile hwritten
      next => exact h
  | some parent =>
      have hmade := h.createDirectories parent
      dsimp only
      split
      next written hwritten => exact hmade.writeFile hwritten
      next => exact hmade

end Grounded

/-- What is there at first is the way to the directory where relative paths start. -/
theorem at?_ofWorkingDirectory (location : Location) (count : Nat) :
    (ofWorkingDirectory location).at? (location.take count) = some .directory := by
  unfold at?
  split
  next => rfl
  next hroot =>
    have hlength : 0 < min count location.length := by
      rw [← List.length_take]
      exact List.length_pos_iff.mpr hroot
    refine ExtTreeMap.getElem?_ofList_of_mem ReflCmp.compare_self ?_ ?_
    · rw [List.pairwise_map]
      refine List.pairwise_lt_range.imp_of_mem fun _ hsecond hlt hsame => ?_
      have hlengths := congrArg List.length (LawfulEqCmp.eq_of_compare hsame)
      simp only [List.length_take, List.mem_range] at hlengths hsecond
      omega
    · refine List.mem_map.mpr ⟨min count location.length - 1, ?_, ?_⟩
      · rw [List.mem_range]
        omega
      · rw [Nat.sub_add_cancel hlength, ← List.take_eq_take_min]

theorem grounded_ofWorkingDirectory (location : Location) :
    (ofWorkingDirectory location).Grounded := by
  intro other hother
  by_cases hroot : other = []
  · rw [hroot]
    rfl
  · have hmem : other ∈ (ofWorkingDirectory location).entries := by
      rw [ExtTreeMap.mem_iff_isSome_getElem?]
      simpa [at?, hroot] using hother
    rw [ofWorkingDirectory, ExtTreeMap.mem_ofList, List.contains_iff_mem, List.map_map] at hmem
    obtain ⟨count, hcount, rfl⟩ := List.mem_map.mp hmem
    rw [List.mem_range] at hcount
    have habove : (location.take (count + 1)).dropLast = location.take count := by
      simp [List.dropLast_eq_take, List.take_take, Nat.min_eq_left hcount]
    exact habove ▸ at?_ofWorkingDirectory location count

end DramSweep.FileTree
