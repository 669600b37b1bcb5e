import DramSweep.Analysis
import DramSweep.Proofs.SheetFolder
import DramSweep.Proofs.Workload.Availability

/-!
What publishing leaves in the files. The wide and the tidy set each follow a log of their own while
tables of many workloads go to one and to the other in turn; the directories of the two stand apart,
so neither disturbs the other. At the end the file of each group holds the part of a log that is
about the group: what its tables gave, in the order of the workloads.
-/

namespace DramSweep.Analysis

open Traverse
open SheetFolder (Apart Reaches Takes)

/-- The texts of the tables that can be given, one behind the other. -/
def joined (tables : List (Except MetricError String)) : String :=
  String.join (tables.filterMap Except.toOption)

/-- What a table adds to its file. A table that cannot be given adds nothing. -/
def tableBytes : Except MetricError String → Bytes
  | .ok text => Bytes.ofText text
  | .error _ => []

theorem flatMap_tableBytes (tables : List (Except MetricError String)) :
    tables.flatMap tableBytes = Bytes.ofText (joined tables) := by
  induction tables with
  | nil => rfl
  | cons table rest ih =>
      rw [List.flatMap_cons, ih]
      cases table with
      | ok text => simp [joined, tableBytes, Except.toOption]
      | error e => rfl

/-- A workload that cannot be ordered by its load has no tables. -/
theorem tables_of_load_eq_none {workload : Workload} (h : workload.load? = none)
    (metrics : List String) :
    (workload.wide metrics).toOption = none ∧ (workload.tidy metrics).toOption = none := by
  cases hfeature : workload.feature with
  | ok text =>
      obtain ⟨load, hload⟩ := Workload.exists_load_of_feature hfeature
      simp [Workload.load?, hload, Except.toOption] at h
  | error e =>
      have hwide : failure? (workload.wide metrics) = some e := by
        simp [Workload.failure?_wide, hfeature]
      have htidy : failure? (workload.tidy metrics) = some e := by
        simp [Workload.failure?_tidy, hfeature]
      rw [failure?_eq_some_iff.mp hwide, failure?_eq_some_iff.mp htidy]
      exact ⟨rfl, rfl⟩

/-- The names of the groups have no separator in them. -/
theorem not_mem_groupName {mix : Bool} {group : TableGroup} (h : group ∈ TableGroup.all mix) :
    '/' ∉ group.name.toList := by
  have hall : ∀ group ∈ TableGroup.all mix, '/' ∉ group.name.toList := by
    cases mix <;> decide
  exact hall group h

theorem nodup_groupNames (mix : Bool) : ((TableGroup.all mix).map TableGroup.name).Nodup := by
  cases mix <;> decide

theorem apart_tidyFolder (directory : Path) : Apart directory (tidyFolder directory) :=
  SheetFolder.apart_of_longer directory (by decide) (by decide)

section Steps

variable {outputs later : SheetFolder} {tree after : FileTree} {log : List (String × Bytes)}
  {group : String}

/-- A table goes to the file of its group, which is opened also when there is no table to give. -/
theorem takes_addTable (h : outputs.Follows tree log) (hname : '/' ∉ group.toList)
    {table : Except MetricError String} {missed : Nat}
    (hadd : addTable outputs tree group table = .ok (later, after, missed)) :
    outputs.Takes tree log [(group, tableBytes table)] later after := by
  unfold addTable at hadd
  cases hopen : outputs.openGroup group tree with
  | error e =>
      rw [hopen] at hadd
      cases hadd
  | ok opened =>
      obtain ⟨opened, made⟩ := opened
      rw [hopen] at hadd
      cases table with
      | ok text =>
          cases hadd
          exact SheetFolder.takes_write h hname (by
            rw [SheetFolder.write, hopen]
            rfl)
      | error e =>
          dsimp only at hadd
          split at hadd
          · cases hadd
          · cases hadd
            exact (SheetFolder.takes_openGroup h hname hopen).1

end Steps

/-- Both sets on the way: each follows its log, and no other files were touched. -/
structure Tracks (outputs : Outputs) (directory : Path) (before : FileTree)
    (wideLog tidyLog : List (String × Bytes)) : Prop where
  wideDirectory : outputs.wide.directory = directory
  tidyDirectory : outputs.tidy.directory = tidyFolder directory
  wide : outputs.wide.Follows outputs.tree wideLog
  tidy : outputs.tidy.Follows outputs.tree tidyLog
  changed : outputs.tree.ChangedOnly before fun location =>
    Reaches directory before wideLog location ∨
      Reaches (tidyFolder directory) before tidyLog location

/-- Both sets before anything is written. -/
def fresh (directory : Path) (tree : FileTree) : Outputs where
  wide := { directory }
  tidy := { directory := tidyFolder directory }
  tree := tree

theorem tracks_fresh (directory : Path) (tree : FileTree) :
    Tracks (fresh directory tree) directory tree [] [] where
  wideDirectory := rfl
  tidyDirectory := rfl
  wide := SheetFolder.follows_nil directory tree
  tidy := SheetFolder.follows_nil (tidyFolder directory) tree
  changed := .refl tree _

namespace Tracks

variable {outputs : Outputs} {directory : Path} {before : FileTree}
  {wideLog tidyLog additions : List (String × Bytes)} {set : SheetFolder} {tree : FileTree}

theorem apart (h : Tracks outputs directory before wideLog tidyLog) :
    Apart outputs.wide.directory outputs.tidy.directory := by
  rw [h.wideDirectory, h.tidyDirectory]
  exact apart_tidyFolder directory

theorem of_wide_takes (h : Tracks outputs directory before wideLog tidyLog)
    (htakes : outputs.wide.Takes outputs.tree wideLog additions set tree) (failed : Nat) :
    Tracks { outputs with wide := set, tree, failed } directory before (wideLog ++ additions)
      tidyLog where
  wideDirectory := htakes.directory.trans h.wideDirectory
  tidyDirectory := h.tidyDirectory
  wide := htakes.follows
  tidy := h.tidy.of_changedOnly h.apart.symm
    (fun _ hmem => htakes.follows.not_mem_name (List.mem_append_right wideLog hmem)) htakes.changed
  changed := by
    refine SheetFolder.changedOnly_since htakes.changed h.changed (fun location hearlier => ?_)
      fun location hreached => ?_
    · exact hearlier.imp_left fun hwide =>
        (SheetFolder.reaches_append _ _ _ _ _).mpr (Or.inl hwide)
    · rw [h.wideDirectory] at hreached
      exact Or.inl ((SheetFolder.reaches_append _ _ _ _ _).mpr (Or.inr hreached))

theorem of_tidy_takes (h : Tracks outputs directory before wideLog tidyLog)
    (htakes : outputs.tidy.Takes outputs.tree tidyLog additions set tree) (failed : Nat) :
    Tracks { outputs with tidy := set, tree, failed } directory before wideLog
      (tidyLog ++ additions) where
  wideDirectory := h.wideDirectory
  tidyDirectory := htakes.directory.trans h.tidyDirectory
  wide := h.wide.of_changedOnly h.apart
    (fun _ hmem => htakes.follows.not_mem_name (List.mem_append_right tidyLog hmem)) htakes.changed
  tidy := htakes.follows
  changed := by
    refine SheetFolder.changedOnly_since htakes.changed h.changed (fun location hearlier => ?_)
      fun location hreached => ?_
    · exact hearlier.imp_right fun htidy =>
        (SheetFolder.reaches_append _ _ _ _ _).mpr (Or.inl htidy)
    · rw [h.tidyDirectory] at hreached
      exact Or.inr ((SheetFolder.reaches_append _ _ _ _ _).mpr (Or.inr hreached))

/-- Each workload and group is an addition to either log. -/
theorem writeGroup {workload : Workload} {group : TableGroup} {later : Outputs}
    (h : Tracks outputs directory before wideLog tidyLog) (hname : '/' ∉ group.name.toList)
    (hwrite : Analysis.writeGroup outputs workload group = (later, none)) :
    Tracks later directory before
      (wideLog ++ [(group.name, tableBytes (workload.wide group.metrics))])
      (tidyLog ++ [(group.name, tableBytes (workload.tidy group.metrics))]) := by
  unfold Analysis.writeGroup at hwrite
  cases hwide : addTable outputs.wide outputs.tree group.name (workload.wide group.metrics) with
  | error e =>
      rw [hwide] at hwrite
      cases hwrite
  | ok added =>
      obtain ⟨wide, middle, missed⟩ := added
      rw [hwide] at hwrite
      -- The tidy set still follows its log in the tree that the wide table leaves.
      have hfirst := h.of_wide_takes (takes_addTable h.wide hname hwide) (outputs.failed + missed)
      dsimp only at hwrite
      cases htidy : addTable outputs.tidy middle group.name (workload.tidy group.metrics) with
      | error e =>
          rw [htidy] at hwrite
          cases hwrite
      | ok added =>
          obtain ⟨tidy, last, others⟩ := added
          rw [htidy] at hwrite
          cases hwrite
          exact hfirst.of_tidy_takes (takes_addTable hfirst.tidy hname htidy) _

theorem writeGroups {pairs : List (Workload × TableGroup)} {later : Outputs}
    (h : Tracks outputs directory before wideLog tidyLog)
    (hnames : ∀ pair ∈ pairs, '/' ∉ pair.2.name.toList)
    (hwrite : Analysis.writeGroups outputs pairs = (later, none)) :
    Tracks later directory before
      (wideLog ++ pairs.map fun pair =>
        (pair.2.name, tableBytes (pair.1.wide pair.2.metrics)))
      (tidyLog ++ pairs.map fun pair =>
        (pair.2.name, tableBytes (pair.1.tidy pair.2.metrics))) := by
  -- Both logs grow with every pair, so they vary in the induction.
  induction pairs generalizing outputs wideLog tidyLog with
  | nil =>
      cases hwrite
      simpa using h
  | cons pair rest ih =>
      obtain ⟨workload, group⟩ := pair
      unfold Analysis.writeGroups at hwrite
      cases hfirst : Analysis.writeGroup outputs workload group with
      | mk between failure =>
          rw [hfirst] at hwrite
          cases failure with
          | some e => cases hwrite
          | none =>
              have hbetween := h.writeGroup (hnames _ List.mem_cons_self) hfirst
              have hlater := ih hbetween
                (fun other hother => hnames other (List.mem_cons_of_mem _ hother)) hwrite
              simpa using hlater

/-- Once both sets are flushed, the files of each hold what its log says. -/
theorem flush (h : Tracks outputs directory before wideLog tidyLog) :
    (outputs.flush.tree.ChangedOnly before fun location =>
      Reaches directory before wideLog location ∨
        Reaches (tidyFolder directory) before tidyLog location) ∧
    (∀ (group : String) (text : Bytes), givenTo? wideLog group = some text →
      outputs.flush.tree.readFile? (directory / (group ++ ".csv")) = some text) ∧
    ∀ (group : String) (text : Bytes), givenTo? tidyLog group = some text →
      outputs.flush.tree.readFile? (tidyFolder directory / (group ++ ".csv")) = some text := by
  obtain ⟨hwideChanged, hwideFiles⟩ := SheetFolder.flush_of_follows h.wide
  have htidy : outputs.tidy.Follows (outputs.wide.flush outputs.tree).2 tidyLog :=
    h.tidy.of_changedOnly h.apart.symm (fun _ hmem => h.wide.not_mem_name hmem) hwideChanged
  obtain ⟨htidyChanged, htidyFiles⟩ := SheetFolder.flush_of_follows htidy
  rw [h.wideDirectory] at hwideChanged
  rw [h.tidyDirectory] at htidyChanged
  have hbetween := SheetFolder.changedOnly_since hwideChanged h.changed (fun _ => id)
    fun _ => Or.inl
  refine ⟨SheetFolder.changedOnly_since htidyChanged hbetween (fun _ => id) fun _ => Or.inr,
    ?_, ?_⟩
  · -- The tidy set is flushed later, and none of its files is one of the wide set.
    intro group text hgiven
    have hkept := htidyChanged.readFile?_eq (directory / (group ++ ".csv")) (by
      rintro location hwalk ⟨addition, hmem, hwalk'⟩
      obtain ⟨sheet, -, hserves⟩ := h.wide.serves hgiven
      exact apart_tidyFolder directory _ group addition.1 location location hserves.name
        (h.tidy.not_mem_name hmem) hwalk hwalk' rfl)
    have hfile := hwideFiles group text hgiven
    rw [SheetFolder.fileOf, h.wideDirectory] at hfile
    exact hkept.trans hfile
  · intro group text hgiven
    have hfile := htidyFiles group text hgiven
    rw [SheetFolder.fileOf, h.tidyDirectory] at hfile
    exact hfile

end Tracks

section Logs

variable {groups : List TableGroup} {group : TableGroup}

/-- Of additions to different groups one is to a given group. -/
theorem filter_additions (hdistinct : (groups.map TableGroup.name).Nodup) (hmem : group ∈ groups)
    (bytes : TableGroup → Bytes) :
    (groups.map fun other => (other.name, bytes other)).filter (·.1 = group.name) =
      [(group.name, bytes group)] := by
  induction groups with
  | nil => cases hmem
  | cons first rest ih =>
      obtain ⟨hfirst, hrest⟩ := List.nodup_cons.mp hdistinct
      rw [List.map_cons, List.filter_cons]
      rcases List.mem_cons.mp hmem with rfl | hmem
      · have hothers : (rest.map fun other => (other.name, bytes other)).filter
            (·.1 = group.name) = [] := by
          simp only [List.filter_eq_nil_iff, List.mem_map]
          rintro _ ⟨other, hother, rfl⟩
          have hdifferent : other.name ≠ group.name :=
            fun hsame => hfirst (hsame ▸ List.mem_map_of_mem hother)
          simpa using hdifferent
        simp [hothers]
      · have hdifferent : first.name ≠ group.name :=
          fun hsame => hfirst (hsame ▸ List.mem_map_of_mem hmem)
        simp [hdifferent, ih hrest hmem]

/-- What all workloads add to all groups, from tables of one kind. -/
def additionsOf (workloads : List Workload) (groups : List TableGroup)
    (table : Workload → List String → Except MetricError String) : List (String × Bytes) :=
  workloads.flatMap fun workload =>
    groups.map fun group => (group.name, tableBytes (table workload group.metrics))

theorem exists_of_mem_additionsOf {workloads : List Workload}
    {table : Workload → List String → Except MetricError String} {addition : String × Bytes}
    (h : addition ∈ additionsOf workloads groups table) :
    workloads ≠ [] ∧ ∃ group ∈ groups, group.name = addition.1 := by
  obtain ⟨workload, hworkload, hmem⟩ := List.mem_flatMap.mp h
  obtain ⟨group, hgroup, rfl⟩ := List.mem_map.mp hmem
  exact ⟨List.ne_nil_of_mem hworkload, group, hgroup, rfl⟩

theorem filter_additionsOf (hdistinct : (groups.map TableGroup.name).Nodup) (hmem : group ∈ groups)
    (workloads : List Workload) (table : Workload → List String → Except MetricError String) :
    (additionsOf workloads groups table).filter (·.1 = group.name) =
      workloads.map fun workload => (group.name, tableBytes (table workload group.metrics)) := by
  unfold additionsOf
  rw [List.filter_flatMap, List.map_eq_flatMap]
  simp only [filter_additions hdistinct hmem fun other => tableBytes (table _ other.metrics)]

/-- What a group is given by all workloads, in their order. -/
theorem flatMap_additionsOf (group : TableGroup) (workloads : List Workload)
    (table : Workload → List String → Except MetricError String) :
    (workloads.map fun workload =>
      (group.name, tableBytes (table workload group.metrics))).flatMap Prod.snd =
      Bytes.ofText (joined (workloads.map (table · group.metrics))) := by
  rw [← flatMap_tableBytes, List.flatMap_map, List.flatMap_map]

end Logs

/-- What the tidy files begin with. -/
def headers (mix : Bool) : List (String × Bytes) :=
  (TableGroup.all mix).map fun group => (group.name, Bytes.ofText TableGroup.tidyHeader)

/-- Publishing into new sets follows the headers and the tables to the end, and then flushes. -/
theorem tracks_of_publish {workloads : List Workload} {mix : Bool} {directory : Path}
    {before after : FileTree} {failed : Nat}
    (h : publish workloads mix { directory } { directory := tidyFolder directory } before =
      (after, .ok failed)) :
    ∃ outputs : Outputs, outputs.flush.tree = after ∧
      Tracks outputs directory before (additionsOf workloads (TableGroup.all mix) Workload.wide)
        (headers mix ++ additionsOf workloads (TableGroup.all mix) Workload.tidy) := by
  have hstart := tracks_fresh directory before
  have hnames : ∀ name ∈ (TableGroup.all mix).map TableGroup.name, '/' ∉ name.toList := by
    intro name hname
    obtain ⟨group, hgroup, rfl⟩ := List.mem_map.mp hname
    exact not_mem_groupName hgroup
  unfold publish at h
  dsimp only at h
  split at h
  next => cases h
  next tidy tree hheaders =>
    have hbegun := hstart.of_tidy_takes (SheetFolder.takes_writeEach hstart.tidy hnames hheaders) 0
    split at h
    next => cases h
    next outputs hrun =>
      cases h
      refine ⟨outputs, rfl, ?_⟩
      have hdone := hbegun.writeGroups (by
        intro pair hpair
        obtain ⟨workload, -, hmem⟩ := List.mem_flatMap.mp hpair
        obtain ⟨group, hgroup, rfl⟩ := List.mem_map.mp hmem
        exact not_mem_groupName hgroup) hrun
      simpa [headers, additionsOf, List.map_flatMap, Function.comp_def] using hdone

/-- After both kinds of tables of all workloads are published, the file of each group in the tidy
set holds the header and then what the tables gave, in the order of the workloads. So does the file
in the wide set, without a header, unless there is no workload. A table that cannot be given adds
nothing, which goes for all tables of a workload that has no load. No other place changes, and no
file is in both sets. -/
theorem published_files_exact {workloads : List Workload} {mix : Bool} {directory : Path}
    {wideTree tidyTree before after : FileTree} {wide tidy : SheetFolder} {failed : Nat}
    (hwide : (SheetFolder.create directory wideTree).2 = .ok wide)
    (htidy : (SheetFolder.create (tidyFolder directory) tidyTree).2 = .ok tidy)
    (hpublish : publish workloads mix wide tidy before = (after, .ok failed)) :
    (∀ group ∈ TableGroup.all mix,
      after.readFile? (tidy.fileOf group.name) = some (Bytes.ofText (TableGroup.tidyHeader ++
        joined (workloads.map (·.tidy group.metrics)))) ∧
      (workloads ≠ [] → after.readFile? (wide.fileOf group.name) =
        some (Bytes.ofText (joined (workloads.map (·.wide group.metrics)))))) ∧
    (∀ workload ∈ workloads, workload.load? = none → ∀ metrics,
      (workload.wide metrics).toOption = none ∧ (workload.tidy metrics).toOption = none) ∧
    (after.ChangedOnly before fun location => ∃ group ∈ TableGroup.all mix,
      before.walk (tidy.fileOf group.name) = .ok location ∨
        workloads ≠ [] ∧ before.walk (wide.fileOf group.name) = .ok location) ∧
    ∀ group ∈ TableGroup.all mix, ∀ other ∈ TableGroup.all mix,
      wide.fileOf group.name ≠ tidy.fileOf other.name ∧
        ∀ location, before.walk (wide.fileOf group.name) = .ok location →
          before.walk (tidy.fileOf other.name) ≠ .ok location := by
  obtain ⟨-, rfl⟩ := SheetFolder.create_eq_ok_iff.mp hwide
  obtain ⟨-, rfl⟩ := SheetFolder.create_eq_ok_iff.mp htidy
  obtain ⟨outputs, rfl, htracks⟩ := tracks_of_publish hpublish
  obtain ⟨hchanged, hwideFiles, htidyFiles⟩ := htracks.flush
  refine ⟨fun group hgroup => ⟨?_, fun hsome => ?_⟩, fun workload _ => tables_of_load_eq_none,
    hchanged.mono ?_, fun group hgroup other hother => ⟨?_, ?_⟩⟩
  · refine htidyFiles group.name _ ?_
    have hfilter : (headers mix ++
        additionsOf workloads (TableGroup.all mix) Workload.tidy).filter (·.1 = group.name) =
        (group.name, Bytes.ofText TableGroup.tidyHeader) :: workloads.map fun workload =>
          (group.name, tableBytes (workload.tidy group.metrics)) := by
      rw [List.filter_append, filter_additionsOf (nodup_groupNames mix) hgroup, headers,
        filter_additions (nodup_groupNames mix) hgroup]
      rfl
    rw [givenTo?_of_filter hfilter (by simp), List.flatMap_cons, flatMap_additionsOf,
      Bytes.ofText_append]
  · refine hwideFiles group.name _ ?_
    rw [givenTo?_of_filter (filter_additionsOf (nodup_groupNames mix) hgroup workloads _)
      (by simpa using hsome), flatMap_additionsOf]
  · rintro location (⟨addition, hmem, hwalk⟩ | ⟨addition, hmem, hwalk⟩)
    · obtain ⟨hsome, group, hgroup, hname⟩ := exists_of_mem_additionsOf hmem
      rw [← hname] at hwalk
      exact ⟨group, hgroup, Or.inr ⟨hsome, hwalk⟩⟩
    · have hadded : ∃ group ∈ TableGroup.all mix, group.name = addition.1 := by
        rcases List.mem_append.mp hmem with hheader | htable
        · obtain ⟨group, hgroup, rfl⟩ := List.mem_map.mp hheader
          exact ⟨group, hgroup, rfl⟩
        · exact (exists_of_mem_additionsOf htable).2
      obtain ⟨group, hgroup, hname⟩ := hadded
      rw [← hname] at hwalk
      exact ⟨group, hgroup, Or.inl hwalk⟩
  · exact directory.div_ne_div (by decide) (by decide)
      (SheetFolder.not_mem_fileName (not_mem_groupName hgroup))
      (SheetFolder.not_mem_fileName (not_mem_groupName hother))
  · intro location hwalk hwalk'
    exact apart_tidyFolder directory before group.name other.name location location
      (not_mem_groupName hgroup) (not_mem_groupName hother) hwalk hwalk' rfl

/-- A workload with an empty report, so that it has no load. -/
def idleWorkload : Workload :=
  .ofReports "idle" ["DDR4"] "DDR4" none ∅

/-- A tree with a table from before and a file that is none. -/
def usedTree : FileTree :=
  let tables := (FileTree.ofWorkingDirectory ["work"]).withFile ⟨"out/ipc.csv"⟩
    (Bytes.ofText "an old table, longer than the one that takes its place is going to be\n")
  tables.withFile ⟨"out_R_dataframe/notes"⟩ (Bytes.ofText "kept")

/-- The tables of the two workloads in the tree. -/
def usedTreeRun : FileTree × Except AnalysisError Nat :=
  publish [idleWorkload, Workload.gappedWorkload] false { directory := ⟨"out"⟩ }
    { directory := tidyFolder ⟨"out"⟩ } usedTree

theorem published_files_exact_used_tree :
    usedTreeRun.2 = .ok 20 ∧
      usedTreeRun.1.readFile? ⟨"out/ipc.csv"⟩ = some (Bytes.ofText
        "mcf_MPKI_50.0000_ipc_2.0000,DDR4,DDR5\nipc,2.0000,2.0000\n") ∧
      usedTreeRun.1.readFile? ⟨"out_R_dataframe/locality.csv"⟩ =
        some (Bytes.ofText TableGroup.tidyHeader) ∧
      usedTreeRun.1.at? ["work", "out_R_dataframe", "notes"] =
        some (.file (Bytes.ofText "kept")) := by
  have hwide : (SheetFolder.create ⟨"out"⟩ usedTree).2 = .ok { directory := ⟨"out"⟩ } :=
    SheetFolder.create_eq_ok_iff.mpr ⟨by decide +kernel, rfl⟩
  have htidy : (SheetFolder.create (tidyFolder ⟨"out"⟩) usedTree).2 =
      .ok { directory := tidyFolder ⟨"out"⟩ } :=
    SheetFolder.create_eq_ok_iff.mpr ⟨by decide +kernel, rfl⟩
  have hfailed : usedTreeRun.2 = .ok 20 := by decide +kernel
  have hpublish : usedTreeRun = (usedTreeRun.1, .ok 20) := by
    rw [← hfailed, Prod.eta]
  obtain ⟨hfiles, -, hchanged, -⟩ := published_files_exact hwide htidy hpublish
  have hipc := (hfiles (.single "ipc") (by decide)).2 (by simp)
  have hlocality := (hfiles ⟨"locality", ["row_hit_rate", "row_miss_rate", "row_conflict_rate"]⟩
    (by decide)).1
  have hkept := hchanged.others ["work", "out_R_dataframe", "notes"] (by decide +kernel)
  have hipcTables : joined ([idleWorkload, Workload.gappedWorkload].map (·.wide ["ipc"])) =
      "mcf_MPKI_50.0000_ipc_2.0000,DDR4,DDR5\nipc,2.0000,2.0000\n" := by
    decide +kernel
  have hlocalityTables : joined ([idleWorkload, Workload.gappedWorkload].map
      (·.tidy ["row_hit_rate", "row_miss_rate", "row_conflict_rate"])) = "" := by
    decide +kernel
  refine ⟨hfailed, ?_, ?_, hkept.trans (by decide +kernel)⟩
  · rw [← hipcTables]
    exact hipc
  · rw [hlocalityTables, String.append_empty] at hlocality
    exact hlocality

end DramSweep.Analysis
