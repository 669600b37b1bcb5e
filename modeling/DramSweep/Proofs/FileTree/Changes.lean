import DramSweep.Proofs.FileTree.Walking

/-!
What writing files changes. Files come and go at some places and everything else is as it was, the
directories above all, so paths lead where they led before.
-/

namespace DramSweep.FileTree

open Traverse

/-- A tree that differs from an earlier one in files at some places at most. -/
structure ChangedOnly (after before : FileTree) (changed : Location → Prop) : Prop where
  workingDirectory : after.workingDirectory = before.workingDirectory
  directories : ∀ location,
    after.at? location = some .directory ↔ before.at? location = some .directory
  others : ∀ location, ¬changed location → after.at? location = before.at? location

namespace ChangedOnly

variable {after between before : FileTree} {changed more : Location → Prop}

theorem refl (tree : FileTree) (changed : Location → Prop) : tree.ChangedOnly tree changed where
  workingDirectory := rfl
  directories := fun _ => Iff.rfl
  others := fun _ _ => rfl

theorem trans (hlater : after.ChangedOnly between changed)
    (hearlier : between.ChangedOnly before changed) : after.ChangedOnly before changed where
  workingDirectory := hlater.workingDirectory.trans hearlier.workingDirectory
  directories := fun location =>
    (hlater.directories location).trans (hearlier.directories location)
  others := fun location h => (hlater.others location h).trans (hearlier.others location h)

theorem mono (h : after.ChangedOnly before changed)
    (hmore : ∀ location, changed location → more location) : after.ChangedOnly before more where
  workingDirectory := h.workingDirectory
  directories := h.directories
  others := fun location hlocation => h.others location fun hc => hlocation (hmore location hc)

/-- A step is made from a directory, so it does not depend on files. -/
theorem step_eq_ok_iff (h : after.ChangedOnly before changed) (location : Location)
    (segment : List Char) (next : Location) :
    after.step location segment = .ok next ↔ before.step location segment = .ok next := by
  by_cases hdirectory : before.at? location = some .directory
  · unfold step
    rw [hdirectory, (h.directories location).mpr hdirectory]
  · constructor
    · intro hstep
      exact absurd ((h.directories location).mp (directory_of_step hstep)) hdirectory
    · intro hstep
      exact absurd (directory_of_step hstep) hdirectory

/-- Paths lead where they led before. -/
theorem walk_eq_ok_iff (h : after.ChangedOnly before changed) (path : Path) (location : Location) :
    after.walk path = .ok location ↔ before.walk path = .ok location := by
  constructor
  · exact walk_of_step h.workingDirectory.symm fun _ _ _ => (h.step_eq_ok_iff _ _ _).mp
  · exact walk_of_step h.workingDirectory fun _ _ _ => (h.step_eq_ok_iff _ _ _).mpr

/-- What stands at the end of a path that leads to none of the places that may have changed. -/
theorem find?_eq (h : after.ChangedOnly before changed) (path : Path)
    (hkept : ∀ location, before.walk path = .ok location → ¬changed location) :
    after.find? path = before.find? path := by
  unfold find?
  cases hbefore : before.walk path with
  | ok location =>
      rw [(h.walk_eq_ok_iff path location).mpr hbefore]
      exact h.others location (hkept location hbefore)
  | error fault =>
      cases hafter : after.walk path with
      | ok location => cases hbefore.symm.trans ((h.walk_eq_ok_iff path location).mp hafter)
      | error other => rfl

theorem readFile?_eq (h : after.ChangedOnly before changed) (path : Path)
    (hkept : ∀ location, before.walk path = .ok location → ¬changed location) :
    after.readFile? path = before.readFile? path := by
  rw [readFile?, readFile?, h.find?_eq path hkept]

end ChangedOnly

variable (tree : FileTree) {location : Location}

/-- Putting a file where no directory is changes nothing else. -/
theorem changedOnly_put (h : tree.at? location ≠ some .directory) (content : Bytes) :
    (tree.put location (.file content)).ChangedOnly tree (· = location) where
  workingDirectory := rfl
  directories := by
    intro other
    by_cases hsame : location = other
    · subst hsame
      have hroot : location ≠ [] := by
        rintro rfl
        exact h rfl
      simp [at?_put_self tree hroot, h]
    · rw [at?_put_of_ne tree hsame]
  others := fun other hother => at?_put_of_ne tree (Ne.symm hother) _

/-- Bytes written behind the content of a file. -/
theorem at?_writeAt_end {content : Bytes} (h : tree.at? location = some (.file content))
    (bytes : Bytes) :
    (tree.writeAt location content.length bytes).at? location =
      some (.file (content ++ bytes)) := by
  have hroot : location ≠ [] := by
    rintro rfl
    cases h
  have happend : overwrite content content.length bytes = content ++ bytes := by
    unfold overwrite
    by_cases hnone : bytes = []
    · simp [hnone]
    · simp [hnone, List.drop_eq_nil_of_le]
  unfold writeAt
  rw [h]
  dsimp only
  rw [at?_put_self tree hroot, happend]

theorem changedOnly_writeAt (location : Location) (offset : Nat) (bytes : Bytes) :
    (tree.writeAt location offset bytes).ChangedOnly tree (· = location) := by
  unfold writeAt
  split
  next content hfile => exact changedOnly_put tree (by simp [hfile]) _
  next => exact .refl tree _

/-- A file that is made is empty, stands where its path leads, and is all that changes. -/
theorem createFile_cases {tree made : FileTree} {path : Path}
    (h : tree.createFile path = .ok (location, made)) :
    tree.walk path = .ok location ∧ made.at? location = some (.file []) ∧
      made.ChangedOnly tree (· = location) := by
  obtain ⟨place, hwalk, h⟩ := bind_eq_ok_iff.mp h
  have hfile : tree.at? place ≠ some .directory := by
    intro hdirectory
    rw [hdirectory] at h
    cases h
  have hroot : place ≠ [] := by
    rintro rfl
    exact hfile rfl
  have hmade : (place, tree.put place (.file [])) = (location, made) := by
    split at h
    · cases h
    · exact Except.ok.inj h
  cases hmade
  exact ⟨hwalk, at?_put_self tree hroot _, changedOnly_put tree hfile []⟩

/-- A file that is written has its content, and is all that changes. No directory stood there. -/
theorem writeFile_cases {tree after : FileTree} {path : Path} {content : Bytes}
    (h : tree.writeFile path content = .ok after) :
    ∃ location, tree.walk path = .ok location ∧ tree.at? location ≠ some .directory ∧
      after.at? location = some (.file content) ∧ after.ChangedOnly tree (· = location) := by
  obtain ⟨⟨location, made⟩, hcreate, hput⟩ := bind_eq_ok_iff.mp h
  cases hput
  obtain ⟨hwalk, hempty, hmade⟩ := createFile_cases hcreate
  have hfile : made.at? location ≠ some .directory := by simp [hempty]
  have hroot : location ≠ [] := by
    rintro rfl
    cases hempty
  exact ⟨location, hwalk, fun hdirectory => hfile ((hmade.directories location).mpr hdirectory),
    at?_put_self made hroot _, (changedOnly_put made hfile content).trans hmade⟩

/-- A file can be made where a path leads, unless a directory stands there. -/
theorem isOk_createFile_iff {path : Path} : (tree.createFile path).isOk ↔
    ∃ location, tree.walk path = .ok location ∧ tree.at? location ≠ some .directory := by
  unfold createFile
  cases tree.walk path with
  | error fault => exact ⟨fun h => (Bool.false_ne_true h).elim, fun ⟨_, h, _⟩ => nomatch h⟩
  | ok location =>
      simp only [bind, Except.bind, Except.ok.injEq, exists_eq_left']
      split
      next hdirectory =>
          exact ⟨fun h => (Bool.false_ne_true h).elim, fun h => absurd hdirectory h⟩
      next hother => exact ⟨fun _ => hother, fun _ => rfl⟩

/-- Files that come and go elsewhere or at the place itself do not stand in the way of a file. -/
theorem ChangedOnly.isOk_createFile {after before : FileTree} {changed : Location → Prop}
    (h : after.ChangedOnly before changed) (path : Path) :
    (after.createFile path).isOk = (before.createFile path).isOk := by
  rw [Bool.eq_iff_iff, isOk_createFile_iff, isOk_createFile_iff]
  simp only [h.walk_eq_ok_iff, ne_eq, h.directories]

end DramSweep.FileTree
