import DramSweep.SheetFolder
import DramSweep.Proofs.FileTree.Changes
import Mathlib.Data.List.TakeWhile

/-!
What the files of a sheet folder come to hold. A sheet holds a text in two parts, what its file has
and what is pending; adding to it lengthens that text, wherever the parts meet, and flushing moves
all of it to the file. So the file of each group holds what the group was given, in order, and no
group touches the file of another one.
-/

namespace DramSweep

open Std (ExtTreeMap)
open FileTree (ChangedOnly)
open Traverse

namespace Sheet

variable {sheet : Sheet} {tree after : FileTree} {text : Bytes}

/-- A sheet was given a text: its file has the front of it, and the rest is pending. -/
def Holds (sheet : Sheet) (tree : FileTree) (text : Bytes) : Prop :=
  ∃ content, tree.at? sheet.location = some (.file content) ∧ sheet.written = content.length ∧
    text = content ++ sheet.pending

theorem Holds.of_at?_eq (h : sheet.Holds tree text)
    (hsame : after.at? sheet.location = tree.at? sheet.location) : sheet.Holds after text := by
  obtain ⟨content, hfile, hrest⟩ := h
  exact ⟨content, hsame.trans hfile, hrest⟩

/-- Bytes that are not held back come behind the text, when nothing is pending in front of them. -/
theorem holds_writeThrough (h : sheet.Holds tree text) (hpending : sheet.pending = [])
    (bytes : Bytes) :
    (sheet.writeThrough bytes tree).1.Holds (sheet.writeThrough bytes tree).2 (text ++ bytes) := by
  obtain ⟨content, hfile, hwritten, rfl⟩ := h
  refine ⟨content ++ bytes, ?_, ?_, ?_⟩
  · change (tree.writeAt sheet.location sheet.written bytes).at? sheet.location = _
    rw [hwritten]
    exact tree.at?_writeAt_end hfile bytes
  · simp [writeThrough, hwritten]
  · simp [writeThrough, hpending]

theorem changedOnly_writeThrough (sheet : Sheet) (bytes : Bytes) (tree : FileTree) :
    (sheet.writeThrough bytes tree).2.ChangedOnly tree (· = sheet.location) :=
  tree.changedOnly_writeAt sheet.location sheet.written bytes

theorem holds_flush (h : sheet.Holds tree text) :
    (sheet.flush tree).1.Holds (sheet.flush tree).2 text := by
  obtain ⟨content, hfile, hwritten, rfl⟩ := h
  have hfront : { sheet with pending := [] }.Holds tree content :=
    ⟨content, hfile, hwritten, by simp⟩
  exact holds_writeThrough hfront rfl sheet.pending

theorem changedOnly_flush (sheet : Sheet) (tree : FileTree) :
    (sheet.flush tree).2.ChangedOnly tree (· = sheet.location) :=
  changedOnly_writeThrough { sheet with pending := [] } sheet.pending tree

theorem at?_flush (h : sheet.Holds tree text) :
    (sheet.flush tree).2.at? sheet.location = some (.file text) := by
  obtain ⟨content, hfile, -, rfl⟩ := holds_flush h
  simpa [flush, writeThrough] using hfile

/-- An addition is written at once when nothing is pending, and is held back otherwise; a flush may
come before. -/
theorem push_cases (sheet : Sheet) (bytes : Bytes) (tree : FileTree) :
    ∃ before, (before = (sheet, tree) ∨ before = sheet.flush tree) ∧
      (before.1.pending = [] ∧ sheet.push bytes tree = before.1.writeThrough bytes before.2 ∨
        sheet.push bytes tree =
          ({ before.1 with pending := before.1.pending ++ bytes }, before.2)) := by
  unfold push
  by_cases hfull : capacity < sheet.pending.length + bytes.length
  · refine ⟨sheet.flush tree, Or.inr rfl, ?_⟩
    rw [if_pos hfull]
    by_cases hlong : capacity ≤ bytes.length
    · exact Or.inl ⟨rfl, if_pos hlong⟩
    · exact Or.inr (if_neg hlong)
  · refine ⟨(sheet, tree), Or.inl rfl, ?_⟩
    rw [if_neg hfull]
    by_cases hlong : capacity ≤ bytes.length
    · have hpending : sheet.pending.length = 0 := by omega
      exact Or.inl ⟨List.length_eq_zero_iff.mp hpending, if_pos hlong⟩
    · exact Or.inr (if_neg hlong)

/-- Adding lengthens the text, changes no other file, and leaves the sheet at its place. -/
theorem push_of_holds (h : sheet.Holds tree text) (bytes : Bytes) :
    (sheet.push bytes tree).1.Holds (sheet.push bytes tree).2 (text ++ bytes) ∧
      (sheet.push bytes tree).1.location = sheet.location ∧
      (sheet.push bytes tree).2.ChangedOnly tree (· = sheet.location) := by
  obtain ⟨⟨held, between⟩, hbefore, hpush⟩ := sheet.push_cases bytes tree
  -- A flush that comes before changes neither the text nor the place.
  have hheld : held.Holds between text ∧ held.location = sheet.location ∧
      between.ChangedOnly tree (· = sheet.location) := by
    rcases hbefore with heq | heq
    · cases heq
      exact ⟨h, rfl, .refl tree _⟩
    · cases heq
      exact ⟨holds_flush h, rfl, sheet.changedOnly_flush tree⟩
  obtain ⟨hholds, hlocation, hchanged⟩ := hheld
  rcases hpush with ⟨hpending, hpush⟩ | hpush
  · rw [hpush]
    refine ⟨holds_writeThrough hholds hpending bytes, hlocation, ?_⟩
    exact .trans (hlocation ▸ held.changedOnly_writeThrough bytes between) hchanged
  · rw [hpush]
    obtain ⟨content, hfile, hwritten, rfl⟩ := hholds
    exact ⟨⟨content, hfile, hwritten, by simp⟩, hlocation, hchanged⟩

end Sheet

/-- What a group was given, in the order of a log of additions, unless it does not occur in the log.
Opening a group is an addition of nothing. -/
def givenTo? (log : List (String × Bytes)) (group : String) : Option Bytes :=
  match log.filter (·.1 = group) with
  | [] => none
  | additions => some (additions.flatMap Prod.snd)

theorem givenTo?_of_filter {log additions : List (String × Bytes)} {group : String}
    (h : log.filter (·.1 = group) = additions) (hsome : additions ≠ []) :
    givenTo? log group = some (additions.flatMap Prod.snd) := by
  unfold givenTo?
  rw [h]
  cases additions with
  | nil => exact absurd rfl hsome
  | cons first rest => rfl

theorem exists_givenTo?_iff (log : List (String × Bytes)) (group : String) :
    (∃ text, givenTo? log group = some text) ↔ ∃ addition ∈ log, addition.1 = group := by
  unfold givenTo?
  cases hadditions : log.filter (·.1 = group) with
  | nil =>
      constructor
      · rintro ⟨_, hgiven⟩
        cases hgiven
      · rintro ⟨addition, hmem, hgroup⟩
        exact absurd hgroup (by simpa using List.filter_eq_nil_iff.mp hadditions addition hmem)
  | cons first rest =>
      have hfirst : first ∈ log.filter (·.1 = group) := by simp [hadditions]
      obtain ⟨hmem, hgroup⟩ := List.mem_filter.mp hfirst
      exact ⟨fun _ => ⟨first, hmem, by simpa using hgroup⟩, fun _ => ⟨_, rfl⟩⟩

theorem givenTo?_concat (log : List (String × Bytes)) (group other : String) (bytes : Bytes) :
    givenTo? (log ++ [(group, bytes)]) other =
      if group = other then some ((givenTo? log other).getD [] ++ bytes)
      else givenTo? log other := by
  unfold givenTo?
  by_cases hsame : group = other
  · cases hlog : log.filter (·.1 = other) <;> simp [hsame, hlog]
  · simp [hsame]

/-- More additions come behind what a group was given. -/
theorem exists_givenTo?_append {log : List (String × Bytes)} {group : String} {given : Bytes}
    (h : givenTo? log group = some given) (additions : List (String × Bytes)) :
    ∃ behind, givenTo? (log ++ additions) group = some (given ++ behind) := by
  unfold givenTo? at h
  cases hlog : log.filter (·.1 = group) with
  | nil =>
      rw [hlog] at h
      cases h
  | cons first rest =>
      rw [hlog] at h
      cases h
      refine ⟨(additions.filter (·.1 = group)).flatMap Prod.snd, ?_⟩
      rw [givenTo?_of_filter (List.filter_append ..) (by simp [hlog]), List.flatMap_append, hlog]

/-- Two additions to a group in a row are as good as one. -/
theorem givenTo?_concat_concat (log : List (String × Bytes)) (group : String)
    (front back : Bytes) (other : String) :
    givenTo? (log ++ [(group, front), (group, back)]) other =
      givenTo? (log ++ [(group, front ++ back)]) other := by
  have hsplit : log ++ [(group, front), (group, back)] =
      log ++ [(group, front)] ++ [(group, back)] := by
    simp
  rw [hsplit, givenTo?_concat, givenTo?_concat, givenTo?_concat]
  by_cases hsame : group = other <;> simp [hsame]

namespace SheetFolder

/-- A folder can be made when its directory can, and has no open files then. -/
theorem create_eq_ok_iff {directory : Path} {tree : FileTree} {outputs : SheetFolder} :
    (create directory tree).2 = .ok outputs ↔
      (tree.createDirectories directory).2 = .ok () ∧ outputs = { directory } := by
  unfold create
  split
  next hmade => simp [hmade, eq_comm]
  next hmade => simp [hmade]

/-- An open sheet stands where the file of its group does and was given a text. -/
structure Serves (directory : Path) (tree : FileTree) (group : String) (sheet : Sheet)
    (text : Bytes) : Prop where
  name : '/' ∉ group.toList
  located : tree.walk (directory / (group ++ ".csv")) = .ok sheet.location
  holds : sheet.Holds tree text

/-- The open sheets are those of the groups in a log, and each was given what the log says. -/
structure Follows (outputs : SheetFolder) (tree : FileTree) (log : List (String × Bytes)) :
    Prop where
  served : ∀ (group : String) (sheet : Sheet), outputs.sheets[group]? = some sheet →
    ∃ text, givenTo? log group = some text ∧ Serves outputs.directory tree group sheet text
  closed : ∀ group : String, outputs.sheets[group]? = none → givenTo? log group = none

theorem not_mem_fileName {group : String} (h : '/' ∉ group.toList) :
    '/' ∉ (group ++ ".csv").toList := by
  simpa using h

theorem length_fileName (group : String) : 2 < (group ++ ".csv").toList.length := by
  simp

section Place

variable {tree : FileTree} {directory : Path} {group other : String} {location place : Location}

/-- The files of two groups in one directory stand apart. -/
theorem ne_of_walk_of_group_ne (hgroup : '/' ∉ group.toList) (hother : '/' ∉ other.toList)
    (hne : group ≠ other) (h : tree.walk (directory / (group ++ ".csv")) = .ok location)
    (h' : tree.walk (directory / (other ++ ".csv")) = .ok place) : location ≠ place := by
  obtain ⟨folder, hfolder, rfl⟩ :=
    FileTree.exists_folder_of_walk (not_mem_fileName hgroup) (length_fileName group) h
  obtain ⟨folder', hfolder', rfl⟩ :=
    FileTree.exists_folder_of_walk (not_mem_fileName hother) (length_fileName other) h'
  cases hfolder.symm.trans hfolder'
  simpa using hne

end Place

/-- A place of a file of one of the groups in a log. -/
def Reaches (directory : Path) (tree : FileTree) (log : List (String × Bytes))
    (location : Location) : Prop :=
  ∃ addition ∈ log, tree.walk (directory / (addition.1 ++ ".csv")) = .ok location

theorem reaches_append (directory : Path) (tree : FileTree) (log additions : List (String × Bytes))
    (location : Location) :
    Reaches directory tree (log ++ additions) location ↔
      Reaches directory tree log location ∨ Reaches directory tree additions location := by
  simp [Reaches, or_and_right, exists_or]

theorem reaches_iff_of_changedOnly {after before : FileTree} {changed : Location → Prop}
    (h : after.ChangedOnly before changed) (directory : Path) (log : List (String × Bytes))
    (location : Location) :
    Reaches directory after log location ↔ Reaches directory before log location := by
  simp only [Reaches, h.walk_eq_ok_iff]

/-- Changes at files of groups come to those that an earlier tree had seen. -/
theorem changedOnly_since {after tree before : FileTree} {changed more : Location → Prop}
    {directory : Path} {additions : List (String × Bytes)}
    (h : after.ChangedOnly tree (Reaches directory tree additions))
    (hearlier : tree.ChangedOnly before changed)
    (hchanged : ∀ location, changed location → more location)
    (hreached : ∀ location, Reaches directory before additions location → more location) :
    after.ChangedOnly before more := by
  refine (h.mono fun location hreaches => ?_).trans (hearlier.mono hchanged)
  exact hreached location ((reaches_iff_of_changedOnly hearlier _ _ _).mp hreaches)

/-- The files of groups in one directory never stand where those in another one do. -/
def Apart (directory beside : Path) : Prop :=
  ∀ (tree : FileTree) (group other : String) (location place : Location),
    '/' ∉ group.toList → '/' ∉ other.toList →
    tree.walk (directory / (group ++ ".csv")) = .ok location →
    tree.walk (beside / (other ++ ".csv")) = .ok place → location ≠ place

theorem Apart.symm {directory beside : Path} (h : Apart directory beside) :
    Apart beside directory :=
  fun tree group other location place hgroup hother hwalk hwalk' =>
    (h tree other group place location hother hgroup hwalk' hwalk).symm

theorem apart_of_longer (directory : Path) {more : String} (hmore : '/' ∉ more.toList)
    (hlong : 2 < more.toList.length) : Apart directory ⟨directory.text ++ more⟩ := by
  intro tree group other location place hgroup hother h h'
  obtain ⟨folder, hfolder, rfl⟩ :=
    FileTree.exists_folder_of_walk (not_mem_fileName hgroup) (length_fileName group) h
  obtain ⟨folder', hfolder', rfl⟩ :=
    FileTree.exists_folder_of_walk (not_mem_fileName hother) (length_fileName other) h'
  have hdifferent := FileTree.ne_of_descend hmore hlong hfolder hfolder'
  intro hsame
  exact hdifferent (List.append_inj' hsame rfl).1

variable {outputs : SheetFolder} {tree after : FileTree} {log : List (String × Bytes)}
  {group : String}

theorem Serves.of_changedOnly {directory : Path} {sheet : Sheet} {text : Bytes}
    {changed : Location → Prop} (h : Serves directory tree group sheet text)
    (hchanged : after.ChangedOnly tree changed) (hkept : ¬changed sheet.location) :
    Serves directory after group sheet text where
  name := h.name
  located := (hchanged.walk_eq_ok_iff _ _).mpr h.located
  holds := h.holds.of_at?_eq (hchanged.others _ hkept)

/-- What happens to the files of groups in a directory apart from that of the folder does not
concern the folder. -/
theorem Follows.of_changedOnly {beside : Path} {additions : List (String × Bytes)}
    (h : outputs.Follows tree log) (hapart : Apart outputs.directory beside)
    (hnames : ∀ addition ∈ additions, '/' ∉ addition.1.toList)
    (hchanged : after.ChangedOnly tree (Reaches beside tree additions)) :
    outputs.Follows after log where
  served := by
    intro group sheet hsheet
    obtain ⟨text, hgiven, hserves⟩ := h.served group sheet hsheet
    refine ⟨text, hgiven, hserves.of_changedOnly hchanged ?_⟩
    rintro ⟨addition, hmem, hwalk⟩
    exact hapart tree group addition.1 _ _ hserves.name (hnames addition hmem) hserves.located
      hwalk rfl
  closed := h.closed

theorem follows_nil (directory : Path) (tree : FileTree) :
    SheetFolder.Follows { directory } tree [] where
  served := by
    intro group sheet hsheet
    simp at hsheet
  closed := fun _ _ => rfl

/-- A group that was given something, if only nothing, is open. -/
theorem Follows.serves {text : Bytes} (h : outputs.Follows tree log)
    (hgiven : givenTo? log group = some text) :
    ∃ sheet, outputs.sheets[group]? = some sheet ∧
      Serves outputs.directory tree group sheet text := by
  cases hsheet : outputs.sheets[group]? with
  | none =>
      rw [h.closed group hsheet] at hgiven
      cases hgiven
  | some sheet =>
      obtain ⟨other, hother, hserves⟩ := h.served group sheet hsheet
      cases hother.symm.trans hgiven
      exact ⟨sheet, rfl, hserves⟩

theorem Follows.not_mem_name (h : outputs.Follows tree log) {addition : String × Bytes}
    (hmem : addition ∈ log) : '/' ∉ addition.1.toList := by
  obtain ⟨text, hgiven⟩ := (exists_givenTo?_iff log addition.1).mpr ⟨addition, hmem, rfl⟩
  obtain ⟨sheet, -, hserves⟩ := h.serves hgiven
  exact hserves.name

theorem Follows.congr {other : List (String × Bytes)} (h : outputs.Follows tree log)
    (hsame : ∀ group, givenTo? log group = givenTo? other group) : outputs.Follows tree other where
  served := by
    intro group sheet hsheet
    rw [← hsame]
    exact h.served group sheet hsheet
  closed := by
    intro group hclosed
    rw [← hsame]
    exact h.closed group hclosed

/-- What additions behind a log make of a folder and its tree: the log goes on, and only files of
the groups that are added to change. -/
structure Takes (outputs : SheetFolder) (tree : FileTree) (log additions : List (String × Bytes))
    (later : SheetFolder) (after : FileTree) : Prop where
  follows : later.Follows after (log ++ additions)
  directory : later.directory = outputs.directory
  changed : after.ChangedOnly tree (Reaches outputs.directory tree additions)

theorem Follows.takes_nil (h : outputs.Follows tree log) :
    outputs.Takes tree log [] outputs tree where
  follows := by simpa using h
  directory := rfl
  changed := .refl tree _

theorem Takes.trans {additions others : List (String × Bytes)} {between later : SheetFolder}
    {middle : FileTree} (h : outputs.Takes tree log additions between middle)
    (hothers : between.Takes middle (log ++ additions) others later after) :
    outputs.Takes tree log (additions ++ others) later after where
  follows := by simpa using hothers.follows
  directory := hothers.directory.trans h.directory
  changed := by
    refine changedOnly_since hothers.changed h.changed (fun location hfirst => ?_)
      fun location hlater => ?_
    · exact (reaches_append _ _ _ _ _).mpr (Or.inl hfirst)
    · rw [h.directory] at hlater
      exact (reaches_append _ _ _ _ _).mpr (Or.inr hlater)

/-- A group that is served anew, with more behind what it was given, leaves the others alone. -/
theorem takes_insert (h : outputs.Follows tree log) {sheet : Sheet} {bytes : Bytes}
    (hserves : Serves outputs.directory after group sheet
      ((givenTo? log group).getD [] ++ bytes))
    (hchanged : after.ChangedOnly tree (· = sheet.location)) :
    outputs.Takes tree log [(group, bytes)]
      { outputs with sheets := outputs.sheets.insert group sheet } after where
  follows := {
    served := by
      intro other held hheld
      rw [givenTo?_concat]
      by_cases hsame : group = other
      · subst hsame
        obtain rfl : sheet = held := by simpa using hheld
        exact ⟨_, if_pos rfl, hserves⟩
      · have hbefore : outputs.sheets[other]? = some held := by
          simpa [ExtTreeMap.getElem?_insert, hsame] using hheld
        obtain ⟨text, hgiven, hother⟩ := h.served other held hbefore
        refine ⟨text, (if_neg hsame).trans hgiven, hother.of_changedOnly hchanged ?_⟩
        have hplace := (hchanged.walk_eq_ok_iff _ _).mp hserves.located
        exact (ne_of_walk_of_group_ne hserves.name hother.name hsame hplace hother.located).symm
    closed := by
      intro other hclosed
      have hdifferent : group ≠ other := by
        rintro rfl
        simp at hclosed
      rw [givenTo?_concat, if_neg hdifferent]
      exact h.closed other (by simpa [ExtTreeMap.getElem?_insert, hdifferent] using hclosed) }
  directory := rfl
  changed := by
    refine hchanged.mono ?_
    rintro location rfl
    exact ⟨(group, bytes), List.mem_singleton_self _,
      (hchanged.walk_eq_ok_iff _ _).mp hserves.located⟩

/-- Opening a group makes its file empty at its place, the first time. -/
theorem takes_openGroup (h : outputs.Follows tree log) (hname : '/' ∉ group.toList)
    {opened : SheetFolder} (hopen : outputs.openGroup group tree = .ok (opened, after)) :
    outputs.Takes tree log [(group, [])] opened after ∧ group ∈ opened.sheets := by
  unfold openGroup at hopen
  by_cases hmem : group ∈ outputs.sheets
  · rw [if_pos hmem] at hopen
    cases hopen
    -- The group has a text already, and an addition of nothing leaves that as it is.
    obtain ⟨text, hgiven, -⟩ := h.served group _ (ExtTreeMap.getElem?_eq_some_getElem hmem)
    have hsame : ∀ other, givenTo? (log ++ [(group, [])]) other = givenTo? log other := by
      intro other
      rw [givenTo?_concat]
      split
      next hother => simp [← hother, hgiven]
      next => rfl
    exact ⟨⟨h.congr fun other => (hsame other).symm, rfl, .refl tree _⟩, hmem⟩
  · rw [if_neg hmem] at hopen
    dsimp only at hopen
    cases hcreate : tree.createFile (outputs.fileOf group) with
    | error fault =>
        rw [hcreate] at hopen
        cases hopen
    | ok created =>
        obtain ⟨location, made⟩ := created
        rw [hcreate] at hopen
        cases hopen
        obtain ⟨hwalk, hempty, hchanged⟩ := FileTree.createFile_cases hcreate
        -- Whatever the file had is gone, but the log does not speak of it.
        have hnothing : givenTo? log group = none := h.closed group (by simpa using hmem)
        refine ⟨takes_insert h ?_ hchanged, by simp⟩
        exact {
          name := hname
          located := (hchanged.walk_eq_ok_iff _ _).mpr hwalk
          holds := ⟨[], hempty, rfl, by simp [hnothing]⟩ }

theorem takes_push (h : outputs.Follows tree log) (hmem : group ∈ outputs.sheets)
    (text : String) :
    outputs.Takes tree log [(group, Bytes.ofText text)] (outputs.push group text tree).1
      (outputs.push group text tree).2 := by
  have hsheet := ExtTreeMap.getElem?_eq_some_getElem hmem
  obtain ⟨given, hgiven, hserves⟩ := h.served group _ hsheet
  obtain ⟨hholds, hlocation, hchanged⟩ := Sheet.push_of_holds hserves.holds (Bytes.ofText text)
  unfold push
  rw [hsheet]
  refine takes_insert h ?_ (hlocation ▸ hchanged)
  exact {
    name := hserves.name
    located := by
      rw [hlocation]
      exact (hchanged.walk_eq_ok_iff _ _).mpr hserves.located
    holds := by simpa [hgiven] using hholds }

/-- Opening a group and adding to it is one addition. -/
theorem takes_write (h : outputs.Follows tree log) (hname : '/' ∉ group.toList) {text : String}
    {written : SheetFolder} (hwrite : outputs.write group text tree = .ok (written, after)) :
    outputs.Takes tree log [(group, Bytes.ofText text)] written after := by
  obtain ⟨⟨opened, made⟩, hopen, hpush⟩ := map_eq_ok_iff.mp hwrite
  replace hpush : opened.push group text made = (written, after) := hpush
  obtain ⟨htakes, hmem⟩ := takes_openGroup h hname hopen
  have hboth := htakes.trans (takes_push htakes.follows hmem text)
  rw [hpush] at hboth
  exact {
    follows := hboth.follows.congr (givenTo?_concat_concat log group [] (Bytes.ofText text))
    directory := hboth.directory
    changed := hboth.changed.mono (by simp [Reaches]) }

/-- The file of a group can be made in a directory. -/
def opens (directory : Path) (tree : FileTree) (group : String) : Bool :=
  (tree.createFile (directory / (group ++ ".csv"))).isOk

/-- Which files can be made does not change as they come and go. -/
theorem opens_eq_of_changedOnly {changed : Location → Prop} (h : after.ChangedOnly tree changed)
    (directory : Path) : opens directory after = opens directory tree :=
  funext fun _ => h.isOk_createFile _

/-- A group can be opened exactly when its file can be made, also when it is open already. -/
theorem openGroup_cases (h : outputs.Follows tree log) (group : String) :
    opens outputs.directory tree group = true ∧
        (∃ opened after, outputs.openGroup group tree = .ok (opened, after)) ∨
      opens outputs.directory tree group = false ∧
        outputs.openGroup group tree = .error (.file (outputs.fileOf group)) := by
  unfold openGroup
  by_cases hmem : group ∈ outputs.sheets
  · obtain ⟨text, -, hserves⟩ := h.served group _ (ExtTreeMap.getElem?_eq_some_getElem hmem)
    obtain ⟨content, hfile, -⟩ := hserves.holds
    refine Or.inl ⟨tree.isOk_createFile_iff.mpr ⟨_, hserves.located, by simp [hfile]⟩, ?_⟩
    exact ⟨outputs, tree, if_pos hmem⟩
  · rw [if_neg hmem]
    unfold opens fileOf
    dsimp only
    cases tree.createFile (outputs.directory / (group ++ ".csv")) with
    | error fault => exact Or.inr ⟨rfl, rfl⟩
    | ok created => exact Or.inl ⟨rfl, _, created.2, rfl⟩

theorem write_cases (h : outputs.Follows tree log) (group text : String) :
    opens outputs.directory tree group = true ∧
        (∃ written after, outputs.write group text tree = .ok (written, after)) ∨
      opens outputs.directory tree group = false ∧
        outputs.write group text tree = .error (.file (outputs.fileOf group)) := by
  unfold write
  rcases openGroup_cases h group with ⟨hopens, opened, after, hopen⟩ | ⟨hopens, hopen⟩
  · exact Or.inl ⟨hopens, _, _, by rw [hopen]; rfl⟩
  · exact Or.inr ⟨hopens, by rw [hopen]; rfl⟩

/-- A text for several groups is an addition to each of them, in their order, up to the first one
whose file cannot be made; that one is the reason why it fails then. -/
theorem takes_writeEach_front (h : outputs.Follows tree log) (text : String) {groups : List String}
    (hnames : ∀ group ∈ groups, '/' ∉ group.toList) :
    outputs.Takes tree log
        ((groups.takeWhile (opens outputs.directory tree)).map (·, Bytes.ofText text))
        (outputs.writeEach text tree groups).1.1 (outputs.writeEach text tree groups).1.2 ∧
      (outputs.writeEach text tree groups).2 =
        (groups.find? fun group => !opens outputs.directory tree group).map
          fun group => .file (outputs.fileOf group) := by
  induction groups generalizing outputs tree log with
  | nil => exact ⟨h.takes_nil, rfl⟩
  | cons group rest ih =>
      obtain ⟨hgroup, hrest⟩ := List.forall_mem_cons.mp hnames
      rcases write_cases h group text with ⟨hopens, between, middle, hwrite⟩ | ⟨hopens, hwrite⟩
      · have hfirst := takes_write h hgroup hwrite
        obtain ⟨hlater, hfailure⟩ := ih hfirst.follows hrest
        unfold fileOf at hfailure ⊢
        rw [hfirst.directory, opens_eq_of_changedOnly hfirst.changed] at hlater hfailure
        rw [writeEach, hwrite, List.takeWhile_cons_of_pos hopens,
          List.find?_cons_of_neg (by simp [hopens])]
        exact ⟨hfirst.trans hlater, hfailure⟩
      · rw [writeEach, hwrite, List.takeWhile_cons_of_neg (by simp [hopens]),
          List.find?_cons_of_pos (by simp [hopens])]
        exact ⟨h.takes_nil, rfl⟩

theorem takes_writeEach {text : String} {groups : List String} {written : SheetFolder}
    (h : outputs.Follows tree log) (hnames : ∀ group ∈ groups, '/' ∉ group.toList)
    (hwrite : outputs.writeEach text tree groups = ((written, after), none)) :
    outputs.Takes tree log (groups.map (·, Bytes.ofText text)) written after := by
  obtain ⟨htakes, hfailure⟩ := takes_writeEach_front h text hnames
  rw [hwrite] at htakes hfailure
  have hall : ∀ group ∈ groups, opens outputs.directory tree group := by
    simpa using hfailure.symm
  rwa [List.takeWhile_eq_self_iff.mpr hall] at htakes

/-- Sheets of different groups that are flushed one after the other. -/
theorem flush_each {directory : Path} {sheets : List (String × Sheet)} (text : String → Bytes)
    (hserves : ∀ entry ∈ sheets, Serves directory tree entry.1 entry.2 (text entry.1))
    (hdistinct : sheets.Pairwise fun entry other => entry.1 ≠ other.1) :
    (sheets.foldl (fun tree entry => (entry.2.flush tree).2) tree).ChangedOnly tree
        (fun location => ∃ entry ∈ sheets, entry.2.location = location) ∧
      ∀ entry ∈ sheets, (sheets.foldl (fun tree entry => (entry.2.flush tree).2) tree).at?
        entry.2.location = some (.file (text entry.1)) := by
  induction sheets generalizing tree with
  | nil => exact ⟨.refl tree _, by simp⟩
  | cons first rest ih =>
      obtain ⟨hfirst, hrest⟩ := List.forall_mem_cons.mp hserves
      obtain ⟨hapart, hdistinct⟩ := List.pairwise_cons.mp hdistinct
      have hchanged := first.2.changedOnly_flush tree
      have hother : ∀ entry ∈ rest, entry.2.location ≠ first.2.location := by
        intro entry hentry
        have hserved := hrest entry hentry
        exact (ne_of_walk_of_group_ne hfirst.name hserved.name (hapart entry hentry)
          hfirst.located hserved.located).symm
      obtain ⟨hlater, hcontents⟩ := ih
        (fun entry hentry => (hrest entry hentry).of_changedOnly hchanged (hother entry hentry))
        hdistinct
      simp only [List.foldl_cons]
      refine ⟨(hlater.mono ?_).trans (hchanged.mono ?_), List.forall_mem_cons.mpr ⟨?_, hcontents⟩⟩
      · rintro location ⟨entry, hentry, rfl⟩
        exact ⟨entry, List.mem_cons_of_mem first hentry, rfl⟩
      · rintro location rfl
        exact ⟨first, List.mem_cons_self, rfl⟩
      · -- What comes later happens elsewhere.
        rw [hlater.others _ fun ⟨entry, hentry, hsame⟩ => hother entry hentry hsame]
        exact Sheet.at?_flush hfirst.holds

/-- Flushing moves everything to the files: each open sheet leaves in its own what its group was
given, and these files are all that changes. -/
theorem flush_sheets (h : outputs.Follows tree log) :
    (outputs.flush tree).2.ChangedOnly tree (Reaches outputs.directory tree log) ∧
    ∀ (group : String) (sheet : Sheet) (text : Bytes), outputs.sheets[group]? = some sheet →
      givenTo? log group = some text →
      (outputs.flush tree).2.at? sheet.location = some (.file text) := by
  have hserves : ∀ entry ∈ outputs.sheets.toList,
      Serves outputs.directory tree entry.1 entry.2 ((givenTo? log entry.1).getD []) := by
    intro entry hentry
    obtain ⟨text, hgiven, hserves⟩ :=
      h.served entry.1 entry.2 (ExtTreeMap.mem_toList_iff_getElem?_eq_some.mp hentry)
    simpa [hgiven] using hserves
  obtain ⟨hchanged, hcontents⟩ := flush_each (fun group => (givenTo? log group).getD []) hserves
    (outputs.sheets.distinct_keys_toList.imp (by simp))
  have hflush : (outputs.flush tree).2 =
      outputs.sheets.toList.foldl (fun tree entry => (entry.2.flush tree).2) tree :=
    ExtTreeMap.foldl_eq_foldl_toList
  rw [← hflush] at hchanged hcontents
  constructor
  · refine hchanged.mono ?_
    rintro location ⟨⟨group, sheet⟩, hentry, rfl⟩
    obtain ⟨text, hgiven, hserves⟩ :=
      h.served group sheet (ExtTreeMap.mem_toList_iff_getElem?_eq_some.mp hentry)
    obtain ⟨addition, hmem, rfl⟩ := (exists_givenTo?_iff log group).mp ⟨text, hgiven⟩
    exact ⟨addition, hmem, hserves.located⟩
  · intro group sheet text hsheet hgiven
    have hcontent :=
      hcontents (group, sheet) (ExtTreeMap.mem_toList_iff_getElem?_eq_some.mpr hsheet)
    rwa [hgiven] at hcontent

/-- The file that an open sheet stands for. -/
theorem readFile?_of_at? {directory : Path} {location : Location} {content : Bytes}
    (hwalk : tree.walk (directory / (group ++ ".csv")) = .ok location)
    (hfile : tree.at? location = some (.file content)) :
    tree.readFile? (directory / (group ++ ".csv")) = some content := by
  unfold FileTree.readFile? FileTree.find?
  rw [hwalk]
  dsimp only
  rw [hfile]

theorem flush_of_follows (h : outputs.Follows tree log) :
    (outputs.flush tree).2.ChangedOnly tree (Reaches outputs.directory tree log) ∧
    ∀ (group : String) (text : Bytes), givenTo? log group = some text →
      (outputs.flush tree).2.readFile? (outputs.fileOf group) = some text := by
  obtain ⟨hchanged, hcontents⟩ := flush_sheets h
  refine ⟨hchanged, fun group text hgiven => ?_⟩
  obtain ⟨sheet, hsheet, hserves⟩ := h.serves hgiven
  exact readFile?_of_at? ((hchanged.walk_eq_ok_iff _ _).mpr hserves.located)
    (hcontents group sheet text hsheet hgiven)

end SheetFolder

end DramSweep
