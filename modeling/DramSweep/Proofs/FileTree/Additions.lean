import DramSweep.Proofs.FileTree.Changes
import DramSweep.Proofs.FileTree.Renaming

/-!
What making directories changes. Nothing that is there goes or becomes something else, so paths that
lead somewhere lead there still; what is new stands at some places, and apart from files that come
and go it is a directory on the way to the one that is made.
-/

namespace DramSweep.FileTree

open Traverse

/-- A tree that has all of an earlier one, but for what some places may have changed to. What is new
elsewhere is directories, at the places where they may be made. -/
structure Extends (after before : FileTree) (changed made : Location → Prop) : Prop where
  workingDirectory : after.workingDirectory = before.workingDirectory
  directories : ∀ location,
    before.at? location = some .directory → after.at? location = some .directory
  others : ∀ location, ¬changed location → after.at? location = before.at? location ∨
    before.at? location = none ∧ after.at? location = some .directory ∧ made location

theorem ChangedOnly.extends {after before : FileTree} {changed : Location → Prop}
    (h : after.ChangedOnly before changed) (made : Location → Prop) :
    after.Extends before changed made where
  workingDirectory := h.workingDirectory
  directories := fun location => (h.directories location).mpr
  others := fun location hother => .inl (h.others location hother)

namespace Extends

variable {after between before : FileTree} {changed changed' made made' : Location → Prop}

theorem refl (tree : FileTree) (changed made : Location → Prop) :
    tree.Extends tree changed made where
  workingDirectory := rfl
  directories := fun _ h => h
  others := fun _ _ => .inl rfl

theorem mono (h : after.Extends before changed made)
    (hchanged : ∀ location, changed location → changed' location)
    (hmade : ∀ location, made location → made' location) : after.Extends before changed' made' where
  workingDirectory := h.workingDirectory
  directories := h.directories
  others := fun location hother =>
    (h.others location fun hc => hother (hchanged location hc)).imp_right
      fun ⟨habsent, hdirectory, hplace⟩ => ⟨habsent, hdirectory, hmade location hplace⟩

theorem trans (hlater : after.Extends between changed made)
    (hearlier : between.Extends before changed made) : after.Extends before changed made where
  workingDirectory := hlater.workingDirectory.trans hearlier.workingDirectory
  directories := fun location h => hlater.directories location (hearlier.directories location h)
  others := by
    intro location hother
    rcases hearlier.others location hother with hsame | ⟨habsent, hdirectory, hplace⟩
    · rw [← hsame]
      exact hlater.others location hother
    · exact .inr ⟨habsent, hlater.directories location hdirectory, hplace⟩

/-- A step is made from a directory, which is there still. -/
theorem step_eq_ok (h : after.Extends before changed made) {location next : Location}
    {segment : List Char} (hstep : before.step location segment = .ok next) :
    after.step location segment = .ok next := by
  have hdirectory := directory_of_step hstep
  unfold step at hstep ⊢
  rw [hdirectory] at hstep
  rw [h.directories location hdirectory]
  exact hstep

/-- A path leads where it led before. -/
theorem walk_eq_ok (h : after.Extends before changed made) {path : Path} {location : Location}
    (hwalk : before.walk path = .ok location) : after.walk path = .ok location :=
  walk_of_step h.workingDirectory (fun _ _ _ => h.step_eq_ok) hwalk

/-- A file that is at none of the places that may have changed can be read as before. -/
theorem readFile?_eq_some (h : after.Extends before changed made) {path : Path}
    {location : Location} {content : Bytes} (hwalk : before.walk path = .ok location)
    (hkept : ¬changed location) (hread : before.readFile? path = some content) :
    after.readFile? path = some content := by
  have hentry : before.at? location = some (.file content) := by
    unfold readFile? find? at hread
    rw [hwalk] at hread
    dsimp only at hread
    split at hread
    next hfile =>
      cases hread
      exact hfile
    next => cases hread
  have hafter : after.at? location = some (.file content) := by
    rcases h.others location hkept with hsame | ⟨habsent, -⟩
    · rw [hsame, hentry]
    · rw [hentry] at habsent
      cases habsent
  simp [readFile?, find?, h.walk_eq_ok hwalk, hafter]

end Extends

/-- A place that one of some paths leads to, a separator at its end set aside. -/
def LeadsTo (tree : FileTree) (paths : List Path) (location : Location) : Prop :=
  ∃ path ∈ paths, tree.walk (withoutTrailing path) = .ok location

variable {tree made : FileTree}

theorem createDirectory_extends {path : Path} (h : tree.createDirectory path = .ok made) :
    made.Extends tree (fun _ => False) (made.LeadsTo [path]) := by
  obtain ⟨location, hwalk, hput⟩ := bind_eq_ok_iff.mp h
  split at hput
  next => cases hput
  next habsent =>
    cases hput
    have hroot : location ≠ [] := by
      rintro rfl
      cases habsent
    have hself := at?_put_self tree hroot .directory
    have hothers : ∀ other, other ≠ location →
        (tree.put location .directory).at? other = tree.at? other :=
      fun other hother => at?_put_of_ne tree (Ne.symm hother) _
    have hextends : (tree.put location .directory).Extends tree (fun _ => False)
        (· = location) := by
      refine ⟨rfl, fun other hdirectory => ?_, fun other _ => ?_⟩
      · by_cases hsame : other = location
        · exact hsame ▸ hself
        · exact (hothers other hsame).trans hdirectory
      · by_cases hsame : other = location
        · subst hsame
          exact .inr ⟨habsent, hself, rfl⟩
        · exact .inl (hothers other hsame)
    refine hextends.mono (fun _ h => h) ?_
    rintro _ rfl
    exact ⟨path, List.mem_singleton_self path, hextends.walk_eq_ok hwalk⟩

theorem ensureDirectory_extends {path : Path} (h : tree.ensureDirectory path = .ok made) :
    made.Extends tree (fun _ => False) (made.LeadsTo [path]) := by
  unfold ensureDirectory at h
  split at h
  next hcreate =>
    cases h
    exact createDirectory_extends hcreate
  next =>
    split at h
    next =>
      cases h
      exact .refl tree _ _
    next => cases h

/-- What a path leads to is led to later on, and by more paths. -/
theorem LeadsTo.later {after before : FileTree} {changed places : Location → Prop}
    {paths more : List Path} (hextends : after.Extends before changed places)
    (hmore : ∀ path ∈ paths, path ∈ more) {location : Location}
    (h : before.LeadsTo paths location) : after.LeadsTo more location := by
  obtain ⟨path, hmem, hwalk⟩ := h
  exact ⟨path, hmore path hmem, hextends.walk_eq_ok hwalk⟩

/-- Whether a chain of directories is made to its end or not, what is new is directories of it. -/
theorem createChain_extends (tree : FileTree) (paths : List Path) :
    (tree.createChain paths).1.Extends tree (fun _ => False)
      ((tree.createChain paths).1.LeadsTo paths) := by
  induction paths with
  | nil => exact .refl tree _ _
  | cons path above ih =>
      unfold createChain
      split
      next created hcreate =>
        exact (createDirectory_extends hcreate).mono (fun _ h => h)
          fun _ => LeadsTo.later (.refl created (fun _ => False) (fun _ => False)) (by simp)
      next hcreate =>
        cases hchain : tree.createChain above with
        | mk between result =>
            rw [hchain] at ih
            have hmore : ∀ {after : FileTree},
                after.Extends between (fun _ => False) (after.LeadsTo (path :: above)) →
                after.Extends tree (fun _ => False) (after.LeadsTo (path :: above)) :=
              fun hafter => hafter.trans (ih.mono (fun _ h => h) fun _ =>
                LeadsTo.later hafter fun _ => List.mem_cons_of_mem path)
            cases result with
            | error fault => exact hmore (.refl between _ _)
            | ok done =>
                dsimp only
                cases hensure : between.ensureDirectory path with
                | error fault => exact hmore (.refl between _ _)
                | ok created =>
                    exact hmore ((ensureDirectory_extends hensure).mono (fun _ h => h) fun _ =>
                      LeadsTo.later (.refl created (fun _ => False) (fun _ => False)) (by simp))
      next => exact .refl tree _ _

theorem createDirectories_extends (tree : FileTree) (path : Path) :
    (tree.createDirectories path).1.Extends tree (fun _ => False)
      ((tree.createDirectories path).1.LeadsTo path.upwards) := by
  unfold createDirectories
  split
  next => exact .refl tree _ _
  next => exact createChain_extends tree path.upwards

/-- No separator is at the end of a path that is put together, but for the root. -/
theorem withoutTrailing_ofComponents {components : List Path.Component}
    (h : Path.WellFormed components) :
    withoutTrailing (Path.ofComponents components) = Path.ofComponents components := by
  by_cases hroot : components = [.root]
  · rw [hroot]
    rfl
  · by_cases hsome : components = []
    · rw [hsome]
      rfl
    · obtain ⟨front, c, htext, hc⟩ := h.exists_last_char hroot hsome
      have hkept : ((front ++ [c]).reverse.dropWhile (· = '/')).reverse = front ++ [c] := by
        simp [hc]
      rw [withoutTrailing, htext, hkept, ← htext]
      simp

/-- The directories above a file are made where its first components lead. -/
theorem exists_take_of_leadsTo {file parent : Path} {location : Location}
    (hparent : file.parent? = some parent) (h : tree.LeadsTo parent.upwards location) :
    ∃ count < file.components.length,
      tree.walk (Path.ofComponents (file.components.take count)) = .ok location := by
  obtain ⟨above, hmem, hwalk⟩ := h
  obtain ⟨count, hcount, rfl⟩ := Path.exists_take_of_mem_upwards hparent hmem
  rw [withoutTrailing_ofComponents ((Path.wellFormed_components file).take count)] at hwalk
  exact ⟨count, hcount, hwalk⟩

end DramSweep.FileTree
