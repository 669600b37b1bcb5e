import DramSweep.Proofs.FileTree.Grounded
import DramSweep.Simulation.RunLists

/-!
What is in the files of the lists once both are saved. The two files stand apart, so the second one
leaves the first one as it is. A path that names no file gives both lists the same path, but that
leads to a directory and nothing is saved there.
-/

namespace DramSweep

namespace FileTree

variable {tree after : FileTree} {path : Path} {location other : Location}

/-- Paths that differ in their ending only lead to different places. -/
theorem walk_endings_ne (path : Path) {more ending : String} (hmore : '/' ∉ more.toList)
    (hlong : 2 < more.toList.length) (hending : '/' ∉ ending.toList)
    (hlonger : 2 < ending.toList.length) (hne : more ≠ ending)
    (h : tree.walk ⟨path.text ++ more⟩ = .ok location)
    (hother : tree.walk ⟨path.text ++ ending⟩ = .ok other) : location ≠ other := by
  obtain ⟨front, last, -, hsegments, -⟩ := path.exists_segments
  have hbelow : ∀ (behind : String) (place : Location), '/' ∉ behind.toList →
      2 < behind.toList.length → tree.walk ⟨path.text ++ behind⟩ = .ok place →
      ∃ folder, front.foldlM tree.step (if path.isAbsolute then [] else tree.workingDirectory) =
        .ok folder ∧ place = folder ++ [String.ofList (last ++ behind.toList)] := by
    intro behind place hbehind hlength hwalk
    have hdescend := descend_of_walk hwalk
    unfold descend at hdescend
    rw [Path.isAbsolute_append path hbehind, hsegments behind hbehind, List.foldlM_append]
      at hdescend
    obtain ⟨folder, hfolder, hstep⟩ := Traverse.bind_eq_ok_iff.mp hdescend
    simp only [List.foldlM_cons, List.foldlM_nil, bind_pure] at hstep
    refine ⟨folder, hfolder, eq_of_step (.of_length ?_) hstep⟩
    rw [List.length_append]
    omega
  obtain ⟨folder, hfolder, rfl⟩ := hbelow more location hmore hlong h
  obtain ⟨_, hsame, rfl⟩ := hbelow ending other hending hlonger hother
  cases hfolder.symm.trans hsame
  simpa [String.ofList_inj] using hne

theorem readFile?_of_walk {content : Bytes} (hwalk : tree.walk path = .ok location)
    (hfile : tree.at? location = some (.file content)) : tree.readFile? path = some content := by
  simp [readFile?, find?, hwalk, hfile]

end FileTree

namespace RunLists

variable {tree after : FileTree} {file : Path}

/-- The lists are not saved in one place, for no file can be written where they would be. -/
theorem places_ne (hgrounded : file.fileName? = none → tree.Grounded) {ok err : Location}
    (hok : tree.walk (finishedPath file) = .ok ok) (herr : tree.walk (failedPath file) = .ok err)
    (hfile : tree.at? ok ≠ some .directory) : ok ≠ err := by
  cases hname : file.fileName? with
  | none =>
      -- Both lists would go to the given path itself.
      have hsame : finishedPath file = file := by simp [finishedPath, Path.withExtension, hname]
      rw [hsame] at hok
      exact absurd ((hgrounded hname).directory_of_walk hname hok) hfile
  | some name =>
      obtain ⟨stem, hstem⟩ := Path.exists_withExtension hname
      rw [finishedPath, hstem] at hok
      rw [failedPath, hstem] at herr
      exact FileTree.walk_endings_ne ⟨stem⟩ (by decide) (by decide) (by decide) (by decide)
        (by decide) hok herr

theorem makeParent_grounded (hgrounded : tree.Grounded) (file : Path) :
    (makeParent file tree).1.Grounded := by
  unfold makeParent
  cases file.parent? with
  | none => exact hgrounded
  | some parent => exact hgrounded.createDirectories parent

/-- To save the lists is to make their directory and write both files. -/
theorem save_cases {finished failed : List Json}
    (h : save finished failed file tree = (after, .ok ())) :
    ∃ made between, makeParent file tree = (made, .ok ()) ∧
      made.writeFile (finishedPath file) (content finished) = .ok between ∧
      between.writeFile (failedPath file) (content failed) = .ok after := by
  unfold save at h
  split at h
  next => cases h
  next made hmade =>
    split at h
    next => cases h
    next between hfirst =>
      split at h
      next => cases h
      next hsecond =>
        cases h
        exact ⟨made, between, hmade, hfirst, hsecond⟩

/-- Once the lists are saved, each file has the whole of its own list. -/
theorem readFile?_of_save (hgrounded : file.fileName? = none → tree.Grounded)
    {finished failed : List Json} (h : save finished failed file tree = (after, .ok ())) :
    after.readFile? (finishedPath file) = some (content finished) ∧
      after.readFile? (failedPath file) = some (content failed) := by
  obtain ⟨made, between, hparent, hfirst, hsecond⟩ := save_cases h
  have hmade : file.fileName? = none → made.Grounded := by
    intro hname
    have hkept := makeParent_grounded (hgrounded hname) file
    rwa [hparent] at hkept
  obtain ⟨ok, hok, hnew, hfinished, hone⟩ := FileTree.writeFile_cases hfirst
  obtain ⟨err, herr, -, hfailed, htwo⟩ := FileTree.writeFile_cases hsecond
  have hapart : ok ≠ err := places_ne hmade hok ((hone.walk_eq_ok_iff _ _).mp herr) hnew
  have hkept : after.at? ok = some (.file (content finished)) :=
    (htwo.others ok hapart).trans hfinished
  have hwalk : after.walk (finishedPath file) = .ok ok :=
    (htwo.walk_eq_ok_iff _ _).mpr ((hone.walk_eq_ok_iff _ _).mpr hok)
  exact ⟨FileTree.readFile?_of_walk hwalk hkept,
    FileTree.readFile?_of_walk ((htwo.walk_eq_ok_iff _ _).mpr herr) hfailed⟩

end RunLists

end DramSweep
