import Mathlib.Data.List.Basic
import DramSweep.FileTree
import DramSweep.Proofs.Traverse

/-!
Where a file in a directory stands. A path made of a directory and a name leads to that name below
the place of the directory, so files of different names in one directory stand apart, and so do the
files of two directories of which one has the name of the other with more behind it.
-/

namespace DramSweep

open Traverse

namespace Path

/-- A segment that is the name of something in a directory. -/
def IsName (segment : List Char) : Prop :=
  segment ≠ [] ∧ segment ≠ ['.'] ∧ segment ≠ ['.', '.']

instance (segment : List Char) : Decidable (IsName segment) :=
  inferInstanceAs (Decidable (_ ∧ _))

theorem IsName.of_length {segment : List Char} (h : 2 < segment.length) : IsName segment := by
  refine ⟨?_, ?_, ?_⟩ <;>
  · rintro rfl
    simp at h

theorem splitOn_append_separator (chars more : List Char) :
    (chars ++ '/' :: more).splitOn '/' = chars.splitOn '/' ++ more.splitOn '/' := by
  rw [List.splitOn_eq_splitOnP]
  exact List.splitOnP_append_cons chars more (by simp)

theorem splitOn_name {name : List Char} (h : '/' ∉ name) : name.splitOn '/' = [name] := by
  rw [List.splitOn_eq_splitOnP]
  refine List.splitOnP_eq_singleton fun c hc => ?_
  simpa using fun heq : c = '/' => h (heq ▸ hc)

/-- Text without a separator that is put behind a path lengthens its last segment. -/
theorem exists_splitOn_append (chars : List Char) : ∃ front last, ∀ more, '/' ∉ more →
    (chars ++ more).splitOn '/' = front ++ [last ++ more] := by
  induction chars with
  | nil =>
      exact ⟨[], [], fun more hmore => splitOn_name hmore⟩
  | cons c rest ih =>
      obtain ⟨front, last, hrest⟩ := ih
      have hcons : ∀ more, '/' ∉ more → (c :: (rest ++ more)).splitOn '/' =
          if c = '/' then [] :: (front ++ [last ++ more])
          else (front ++ [last ++ more]).modifyHead (c :: ·) := by
        intro more hmore
        have hsplit := hrest more hmore
        rw [List.splitOn_eq_splitOnP] at hsplit ⊢
        rw [List.splitOnP_cons_eq_if_modifyHead, hsplit]
        simp
      by_cases hc : c = '/'
      · exact ⟨[] :: front, last, fun more hmore => (hcons more hmore).trans (if_pos hc)⟩
      · -- The character belongs to the first segment, which may also be the last one.
        cases front with
        | nil => exact ⟨[], c :: last, fun more hmore => by simp [hcons more hmore, hc]⟩
        | cons first middle =>
            exact ⟨(c :: first) :: middle, last, fun more hmore => by simp [hcons more hmore, hc]⟩

/-- The segments of a directory, of a directory with a longer name, and of a file in it. Where the
path of the directory is empty or ends in a separator, its last segment is empty and the name of the
file stands in the place of it. -/
theorem exists_segments (directory : Path) : ∃ front last,
    directory.segments = front ++ [last] ∧
    (∀ more : String, '/' ∉ more.toList →
      (⟨directory.text ++ more⟩ : Path).segments = front ++ [last ++ more.toList]) ∧
    ∀ name : String, '/' ∉ name.toList →
      (directory / name).segments = front ++ [last, name.toList] ∨
        last = [] ∧ (directory / name).segments = front ++ [name.toList] := by
  obtain ⟨front, last, hsplit⟩ := exists_splitOn_append directory.text.toList
  have hsegments : directory.segments = front ++ [last] := by
    simpa [segments] using hsplit [] (by simp)
  have hlonger : ∀ more : String, '/' ∉ more.toList →
      (⟨directory.text ++ more⟩ : Path).segments = front ++ [last ++ more.toList] := by
    intro more hmore
    simpa [segments] using hsplit more.toList hmore
  have hempty : ∀ above, directory.segments = above ++ [[]] → last = [] := by
    intro above habove
    rw [hsegments] at habove
    simpa using (List.append_inj' habove rfl).2
  refine ⟨front, last, hsegments, hlonger, ?_⟩
  intro name hname
  have hrelative : name.toList.head? ≠ some '/' := fun hhead => hname (List.mem_of_head? hhead)
  change (directory.join name).segments = _ ∨ last = [] ∧ (directory.join name).segments = _
  unfold join
  rw [if_neg hrelative]
  split
  next hlast =>
    have hnone : last = [] := hempty [] (by simp [segments, List.getLast?_eq_none_iff.mp hlast])
    exact Or.inr ⟨hnone, by simpa [hnone] using hlonger name hname⟩
  next hlast =>
    obtain ⟨above, habove⟩ := List.getLast?_eq_some_iff.mp hlast
    have hnone : last = [] := hempty (above.splitOn '/') (by
      simp only [segments, habove]
      rw [splitOn_append_separator]
      rfl)
    exact Or.inr ⟨hnone, by simpa [hnone] using hlonger name hname⟩
  next =>
    refine Or.inl ?_
    have hslash : (directory.text ++ "/" ++ name).toList =
        directory.text.toList ++ '/' :: name.toList := by
      simp
    unfold segments at hsegments ⊢
    rw [hslash, splitOn_append_separator, hsegments, splitOn_name hname]
    simp

theorem isAbsolute_append (path : Path) {more : String} (hmore : '/' ∉ more.toList) :
    (⟨path.text ++ more⟩ : Path).isAbsolute = path.isAbsolute := by
  unfold isAbsolute
  rw [String.toList_append]
  cases htext : path.text.toList with
  | nil =>
      have hhead : more.toList.head? ≠ some '/' := fun hhead => hmore (List.mem_of_head? hhead)
      simp [hhead]
  | cons c rest => rfl

theorem isAbsolute_div (directory : Path) {name : String} (hname : '/' ∉ name.toList) :
    (directory / name).isAbsolute = directory.isAbsolute := by
  have hrelative : name.toList.head? ≠ some '/' := fun hhead => hname (List.mem_of_head? hhead)
  change (directory.join name).isAbsolute = directory.isAbsolute
  unfold join
  rw [if_neg hrelative]
  split
  next => exact isAbsolute_append directory hname
  next => exact isAbsolute_append directory hname
  next c _ hlast =>
    obtain ⟨above, habove⟩ := List.getLast?_eq_some_iff.mp hlast
    cases above <;> simp [isAbsolute, habove]

/-- A file in a directory and one in a directory with a longer name have different paths. -/
theorem div_ne_div (directory : Path) {more name other : String} (hmore : '/' ∉ more.toList)
    (hlong : more ≠ "") (hname : '/' ∉ name.toList) (hother : '/' ∉ other.toList) :
    directory / name ≠ (⟨directory.text ++ more⟩ : Path) / other := by
  obtain ⟨front, last, -, hlonger, hfile⟩ := directory.exists_segments
  obtain ⟨front', last', hsegments', -, hfile'⟩ :=
    exists_segments (⟨directory.text ++ more⟩ : Path)
  have hsame := hsegments'.symm.trans (hlonger more hmore)
  obtain ⟨rfl, hlast⟩ := List.append_inj' hsame rfl
  have hmoreChars : more.toList ≠ [] := by simpa using hlong
  obtain rfl : last' = last ++ more.toList := by simpa using hlast
  intro heq
  have hsegments := congrArg segments heq
  rcases hfile' other hother with hbehind' | ⟨hnone, -⟩
  · rw [hbehind'] at hsegments
    rcases hfile name hname with hbehind | ⟨-, hinstead⟩
    · rw [hbehind] at hsegments
      simp [hmoreChars] at hsegments
    · rw [hinstead] at hsegments
      simp at hsegments
  · simp [hmoreChars] at hnone

end Path

namespace FileTree

variable {tree : FileTree} {path directory : Path} {location folder : Location}

/-- Where a path leads, whatever its text is. -/
def descend (tree : FileTree) (path : Path) : Except Fault Location :=
  path.segments.foldlM tree.step (if path.isAbsolute then [] else tree.workingDirectory)

theorem descend_of_walk (h : tree.walk path = .ok location) : tree.descend path = .ok location := by
  unfold walk at h
  split at h
  · cases h
  · split at h
    · cases h
    · split at h
      · cases h
      · exact h

/-- Where every step can be made that can be made in another tree, every path leads where it leads
there. -/
theorem walk_of_step {before after : FileTree}
    (hworking : after.workingDirectory = before.workingDirectory)
    (hstep : ∀ location segment next, before.step location segment = .ok next →
      after.step location segment = .ok next)
    (h : before.walk path = .ok location) : after.walk path = .ok location := by
  have hsegments : ∀ (segments : List (List Char)) (start : Location),
      segments.foldlM before.step start = .ok location →
        segments.foldlM after.step start = .ok location := by
    intro segments
    induction segments with
    | nil => exact fun _ hstart => hstart
    | cons segment rest ih =>
        intro start hfold
        rw [List.foldlM_cons] at hfold ⊢
        obtain ⟨next, hnext, hrest⟩ := bind_eq_ok_iff.mp hfold
        exact bind_eq_ok_iff.mpr ⟨next, hstep _ _ _ hnext, ih next hrest⟩
  unfold walk at h ⊢
  rw [hworking]
  split at h
  next => cases h
  next htext =>
    split at h
    next => cases h
    next hzero =>
      split at h
      next => cases h
      next hlength =>
        rw [if_neg htext, if_neg hzero, if_neg hlength]
        exact hsegments _ _ h

/-- A step is made from a directory. -/
theorem directory_of_step {segment : List Char} {next : Location}
    (h : tree.step location segment = .ok next) : tree.at? location = some .directory := by
  unfold step at h
  cases hentry : tree.at? location with
  | none =>
      rw [hentry] at h
      cases h
  | some entry =>
      cases entry with
      | directory => rfl
      | file content =>
          rw [hentry] at h
          cases h

theorem step_empty (h : tree.at? location = some .directory) :
    tree.step location [] = .ok location := by
  simp [step, h]

/-- A name leads down, and anything else stays or leads up. -/
theorem step_by_name_or_not {segment : List Char} {next : Location}
    (h : tree.step location segment = .ok next) :
    Path.IsName segment ∧ next = location ++ [String.ofList segment] ∨
      ¬Path.IsName segment ∧ (next = location ∨ next = location.dropLast) := by
  have hdirectory := directory_of_step h
  unfold step at h
  rw [hdirectory] at h
  dsimp only at h
  by_cases hhere : segment = [] ∨ segment = ['.']
  · rw [if_pos hhere] at h
    cases h
    refine Or.inr ⟨?_, Or.inl rfl⟩
    rintro ⟨hsome, hother, -⟩
    exact hhere.elim hsome hother
  · rw [if_neg hhere] at h
    by_cases hup : segment = ['.', '.']
    · rw [if_pos hup] at h
      cases h
      exact Or.inr ⟨fun hname => hname.2.2 hup, Or.inr rfl⟩
    · rw [if_neg hup] at h
      split at h
      · cases h
      · cases h
        exact Or.inl ⟨⟨fun hnone => hhere (.inl hnone), fun hdot => hhere (.inr hdot), hup⟩, rfl⟩

/-- A name leads one level down. -/
theorem eq_of_step {segment : List Char} (hname : Path.IsName segment) {next : Location}
    (h : tree.step location segment = .ok next) : next = location ++ [String.ofList segment] := by
  rcases step_by_name_or_not h with ⟨-, hdown⟩ | ⟨hnot, -⟩
  · exact hdown
  · exact absurd hname hnot

/-- A walk to something in a directory is a walk to the directory and one more step. -/
theorem exists_folder_of_descend {name : String} (hname : '/' ∉ name.toList)
    (h : tree.descend (directory / name) = .ok location) :
    ∃ folder, tree.descend directory = .ok folder ∧
      tree.step folder name.toList = .ok location := by
  obtain ⟨front, last, hsegments, -, hfile⟩ := directory.exists_segments
  unfold descend at h ⊢
  rw [Path.isAbsolute_div directory hname] at h
  rcases hfile name hname with hbehind | ⟨rfl, hinstead⟩
  · have hsplit : front ++ [last, name.toList] = (front ++ [last]) ++ [name.toList] := by simp
    rw [hbehind, hsplit, List.foldlM_append] at h
    obtain ⟨folder, hfolder, hstep⟩ := bind_eq_ok_iff.mp h
    simp only [List.foldlM_cons, List.foldlM_nil, bind_pure] at hstep
    exact ⟨folder, hsegments ▸ hfolder, hstep⟩
  · rw [hinstead, List.foldlM_append] at h
    obtain ⟨folder, hfolder, hstep⟩ := bind_eq_ok_iff.mp h
    simp only [List.foldlM_cons, List.foldlM_nil, bind_pure] at hstep
    refine ⟨folder, ?_, hstep⟩
    -- The empty last segment of the directory leads nowhere else.
    rw [hsegments, List.foldlM_append]
    exact bind_eq_ok_iff.mpr ⟨folder, hfolder, by simp [step_empty (directory_of_step hstep)]⟩

/-- The place of a file in a directory is its name below the place of the directory. -/
theorem exists_folder_of_walk {name : String} (hname : '/' ∉ name.toList)
    (hlong : 2 < name.toList.length) (h : tree.walk (directory / name) = .ok location) :
    ∃ folder, tree.descend directory = .ok folder ∧ location = folder ++ [name] := by
  obtain ⟨folder, hfolder, hstep⟩ := exists_folder_of_descend hname (descend_of_walk h)
  exact ⟨folder, hfolder, by simpa using eq_of_step (.of_length hlong) hstep⟩

/-- A directory and one with a longer name have different places. -/
theorem ne_of_descend {more : String} (hmore : '/' ∉ more.toList)
    (hlong : 2 < more.toList.length) {other : Location} (h : tree.descend directory = .ok folder)
    (hother : tree.descend ⟨directory.text ++ more⟩ = .ok other) : folder ≠ other := by
  obtain ⟨front, last, hsegments, hlonger, -⟩ := directory.exists_segments
  unfold descend at h hother
  rw [Path.isAbsolute_append directory hmore, hlonger more hmore, List.foldlM_append] at hother
  rw [hsegments, List.foldlM_append] at h
  obtain ⟨parent, hparent, h⟩ := bind_eq_ok_iff.mp h
  obtain ⟨_, hparent', hother⟩ := bind_eq_ok_iff.mp hother
  cases hparent.symm.trans hparent'
  simp only [List.foldlM_cons, List.foldlM_nil, bind_pure] at h hother
  have hdown : other = parent ++ [String.ofList (last ++ more.toList)] := by
    refine eq_of_step (.of_length ?_) hother
    rw [List.length_append]
    omega
  subst hdown
  intro hsame
  rcases step_by_name_or_not h with ⟨-, hbelow⟩ | ⟨-, hstay | hup⟩
  · rw [hsame] at hbelow
    have hchars : String.ofList (last ++ more.toList) = String.ofList last := by
      simpa only [List.append_cancel_left_eq, List.cons.injEq, and_true] using hbelow
    have hlength := congrArg List.length (String.ofList_inj.mp hchars)
    rw [List.length_append] at hlength
    omega
  · simp [hsame] at hstay
  · have hlength := congrArg List.length (hsame.symm.trans hup)
    simp at hlength
    omega

end FileTree

end DramSweep
