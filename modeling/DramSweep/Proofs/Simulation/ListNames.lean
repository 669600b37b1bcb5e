import DramSweep.Proofs.FileTree.Additions
import DramSweep.Proofs.Report.DumpReading
import DramSweep.Proofs.Simulation.SavedLists

/-!
The lists of two runs in one tree. What is read from the files of a run is what was saved, and saving
makes missing directories and changes nothing but these two files. They have the name of the given
file without its extension, so a file name without an extension stands whole in front of the endings,
and runs whose file names differ in the extension only have the same two files.
-/

namespace DramSweep

open DramSweep.Path (stemOf)

/-- The text in a value. -/
def Json.text? : Json → Option String
  | .text s => some s
  | _ => none

namespace RunLists

/-- The list that the bytes of a file are the JSON of. -/
def ofContent? (bytes : Bytes) : Option (List String) := do
  let text ← Bytes.text? bytes
  let value ← Json.read text
  let items ← value.items?
  items.mapM Json.text?

/-- What the files of a run say: the finished runs, and the failed ones. -/
def readLists? (file : Path) (tree : FileTree) : Option (List String × List String) := do
  let finished ← (tree.readFile? (finishedPath file)).bind ofContent?
  let failed ← (tree.readFile? (failedPath file)).bind ofContent?
  return (finished, failed)

theorem ofContent?_content (items : List String) :
    ofContent? (content (items.map .text)) = some items := by
  have hdoubles : (Json.array (items.map .text)).doubles = [] := by
    simp [Json.doubles, Json.itemDoubles_eq]
  have hread : Json.read (Json.array (items.map .text)).pretty =
      some (.array (items.map .text)) :=
    Json.read_pretty (by simp [hdoubles]) (by simp [hdoubles])
  have hitems : (items.map Json.text).mapM Json.text? = some items :=
    mapM_map_eq_some Json.text Json.text? fun _ _ => rfl
  simp [ofContent?, content, hread, Json.items?, hitems]

theorem readLists?_eq_some {tree : FileTree} {file : Path} {finished failed : List String}
    (hfinished : tree.readFile? (finishedPath file) = some (content (finished.map .text)))
    (hfailed : tree.readFile? (failedPath file) = some (content (failed.map .text))) :
    readLists? file tree = some (finished, failed) := by
  simp [readLists?, hfinished, hfailed, ofContent?_content]

/-- The name of a list: that of the file without its extension, and an ending. -/
def listName (name : List Char) (ending : String) : String :=
  String.ofList (stemOf name) ++ ending

theorem stemOf_eq_of_listName_eq {name other : List Char} {ending : String}
    (h : listName name ending = listName other ending) : stemOf name = stemOf other := by
  have hchars := congrArg String.toList h
  simp only [listName, String.toList_append, String.toList_ofList] at hchars
  exact List.append_cancel_right hchars

/-- No list of finished runs has the name of a list of failed ones. -/
theorem listName_ne (name other : List Char) :
    listName name ".ok.json" ≠ listName other ".err.json" := by
  intro h
  -- The sixth character from the end is a k in one of them and an r in the other.
  have hsixth := congrArg (fun text => text.toList.reverse[5]?) h
  simp [listName] at hsixth

theorem concat_inj {folder folder' : Location} {name name' : String}
    (h : folder ++ [name] = folder' ++ [name']) : folder = folder' ∧ name = name' := by
  obtain ⟨hfolder, hname⟩ := List.append_inj' h rfl
  exact ⟨hfolder, (List.cons.inj hname).1⟩

section Places

variable {file directory : Path} {name : List Char} {tree after : FileTree} {location : Location}

/-- The two lists of a file stand in its directory. -/
theorem exists_directory (h : file.fileName? = some name) : ∃ directory,
    file.parent? = some directory ∧ finishedPath file = directory / listName name ".ok.json" ∧
      failedPath file = directory / listName name ".err.json" := by
  obtain ⟨directory, hparent, hrenamed⟩ := Path.exists_parent_div h
  exact ⟨directory, hparent, hrenamed "ok.json" (by decide), hrenamed "err.json" (by decide)⟩

/-- Both lists are found by their names in the place of the directory. -/
theorem exists_folder (hname : file.fileName? = some name) (hparent : file.parent? = some directory)
    {ok err : Location} (hok : tree.walk (finishedPath file) = .ok ok)
    (herr : tree.walk (failedPath file) = .ok err) : ∃ folder,
    tree.descend directory = .ok folder ∧ ok = folder ++ [listName name ".ok.json"] ∧
      err = folder ++ [listName name ".err.json"] := by
  have hfound : ∀ (ending : String) (location : Location), '/' ∉ ending.toList →
      2 < ending.toList.length → tree.walk (directory / listName name ending) = .ok location →
      ∃ folder, tree.descend directory = .ok folder ∧
        location = folder ++ [listName name ending] := by
    intro ending location hplain hlong hwalk
    have hstem : '/' ∉ stemOf name := Path.not_mem_stemOf (Path.not_mem_of_fileName? hname)
    refine FileTree.exists_folder_of_walk (by simp [listName, hstem, hplain]) ?_ hwalk
    rw [listName, String.toList_append, List.length_append]
    omega
  obtain ⟨_, hsame, hokPath, herrPath⟩ := exists_directory hname
  cases hparent.symm.trans hsame
  rw [hokPath] at hok
  rw [herrPath] at herr
  obtain ⟨folder, hfolder, hokAt⟩ := hfound _ _ (by decide) (by decide) hok
  obtain ⟨_, hagain, herrAt⟩ := hfound _ _ (by decide) (by decide) herr
  cases hfolder.symm.trans hagain
  exact ⟨folder, hfolder, hokAt, herrAt⟩

theorem makeParent_extends (file : Path) (tree : FileTree) :
    (makeParent file tree).1.Extends tree (fun _ => False) fun location =>
      ∃ count < file.components.length,
        (makeParent file tree).1.walk (.ofComponents (file.components.take count)) =
          .ok location := by
  unfold makeParent
  cases hparent : file.parent? with
  | none => exact .refl tree _ _
  | some parent =>
      exact (tree.createDirectories_extends parent).mono (fun _ h => h) fun _ =>
        FileTree.exists_take_of_leadsTo hparent

/-- What a run leaves that has saved its lists in a folder: each file has the whole of its own list,
and nothing else is new but directories above them. -/
structure SavedIn (folder : Location) (file : Path) (name : List Char) (finished failed : List Json)
    (after tree : FileTree) : Prop where
  finishedAt : after.walk (finishedPath file) = .ok (folder ++ [listName name ".ok.json"])
  failedAt : after.walk (failedPath file) = .ok (folder ++ [listName name ".err.json"])
  readFinished : after.readFile? (finishedPath file) = some (content finished)
  readFailed : after.readFile? (failedPath file) = some (content failed)
  additions : after.Extends tree
    (fun location => location = folder ++ [listName name ".ok.json"] ∨
      location = folder ++ [listName name ".err.json"])
    fun location => ∃ count < file.components.length,
      after.walk (.ofComponents (file.components.take count)) = .ok location

theorem exists_savedIn (hname : file.fileName? = some name) (hparent : file.parent? = some directory)
    {finished failed : List Json} (h : save finished failed file tree = (after, .ok ())) :
    ∃ folder, after.descend directory = .ok folder ∧
      SavedIn folder file name finished failed after tree := by
  obtain ⟨made, between, hmake, hfirst, hsecond⟩ := save_cases h
  obtain ⟨ok, hok, -, hfinished, hone⟩ := FileTree.writeFile_cases hfirst
  obtain ⟨err, herr, -, hfailed, htwo⟩ := FileTree.writeFile_cases hsecond
  have hokAfter : after.walk (finishedPath file) = .ok ok :=
    (htwo.walk_eq_ok_iff _ _).mpr ((hone.walk_eq_ok_iff _ _).mpr hok)
  have herrAfter : after.walk (failedPath file) = .ok err := (htwo.walk_eq_ok_iff _ _).mpr herr
  obtain ⟨folder, hfolder, rfl, rfl⟩ := exists_folder hname hparent hokAfter herrAfter
  have hapart : folder ++ [listName name ".ok.json"] ≠ folder ++ [listName name ".err.json"] :=
    fun hsame => listName_ne name name (concat_inj hsame).2
  have hwritten : after.ChangedOnly made fun location =>
      location = folder ++ [listName name ".ok.json"] ∨
        location = folder ++ [listName name ".err.json"] :=
    (htwo.mono fun _ => .inr).trans (hone.mono fun _ => .inl)
  have hmade := makeParent_extends file tree
  rw [hmake] at hmade
  refine ⟨folder, hfolder, hokAfter, herrAfter, ?_,
    FileTree.readFile?_of_walk herrAfter hfailed, ?_⟩
  · exact FileTree.readFile?_of_walk hokAfter ((htwo.others _ hapart).trans hfinished)
  · refine (hwritten.extends _).trans (hmade.mono (fun _ => False.elim) ?_)
    rintro location ⟨count, hcount, hwalk⟩
    exact ⟨count, hcount, (hwritten.walk_eq_ok_iff _ _).mpr hwalk⟩

end Places

namespace SavedIn

variable {folder folder' : Location} {file other directory : Path} {name otherName : List Char}
  {finished failed finished' failed' : List Json} {tree after later : FileTree}

/-- The lists stand where the directory leads, also later on. -/
theorem descend_later (hfirst : SavedIn folder file name finished failed after tree)
    (hlater : SavedIn folder' other otherName finished' failed' later after)
    (hname : file.fileName? = some name) (hparent : file.parent? = some directory) :
    later.descend directory = .ok folder := by
  obtain ⟨place, hplace, hok, -⟩ := exists_folder hname hparent
    (hlater.additions.walk_eq_ok hfirst.finishedAt) (hlater.additions.walk_eq_ok hfirst.failedAt)
  rw [hplace, (concat_inj hok).1]

/-- Lists of other names, or in another folder, leave the lists as they are. -/
theorem kept (hfirst : SavedIn folder file name finished failed after tree)
    (hlater : SavedIn folder' other otherName finished' failed' later after)
    (hapart : stemOf otherName ≠ stemOf name ∨ folder' ≠ folder) :
    later.readFile? (finishedPath file) = some (content finished) ∧
      later.readFile? (failedPath file) = some (content failed) := by
  have hsame : ∀ ending,
      folder ++ [listName name ending] ≠ folder' ++ [listName otherName ending] := by
    intro ending hequal
    obtain ⟨hfolder, hending⟩ := concat_inj hequal
    rcases hapart with hstem | hother
    · exact hstem (stemOf_eq_of_listName_eq hending).symm
    · exact hother hfolder.symm
  constructor
  · refine hlater.additions.readFile?_eq_some hfirst.finishedAt ?_ hfirst.readFinished
    rintro (hequal | hequal)
    · exact hsame _ hequal
    · exact listName_ne _ _ (concat_inj hequal).2
  · refine hlater.additions.readFile?_eq_some hfirst.failedAt ?_ hfirst.readFailed
    rintro (hequal | hequal)
    · exact listName_ne _ _ (concat_inj hequal).2.symm
    · exact hsame _ hequal

/-- Lists of the same names in the same folder take their place. -/
theorem replaced (hfirst : SavedIn folder file name finished failed after tree)
    (hlater : SavedIn folder other otherName finished' failed' later after)
    (hstem : stemOf otherName = stemOf name) :
    later.readFile? (finishedPath file) = some (content finished') ∧
      later.readFile? (failedPath file) = some (content failed') := by
  have hnames : listName otherName = listName name := by
    funext ending
    rw [listName, hstem, listName]
  have hread : ∀ {path otherPath : Path} {place : Location}, later.walk path = .ok place →
      later.walk otherPath = .ok place → later.readFile? path = later.readFile? otherPath := by
    intro path otherPath place hpath hother
    rw [FileTree.readFile?, FileTree.readFile?, FileTree.find?, FileTree.find?, hpath, hother]
  constructor
  · rw [← hlater.readFinished]
    exact hread (hlater.additions.walk_eq_ok hfirst.finishedAt) (hnames ▸ hlater.finishedAt)
  · rw [← hlater.readFailed]
    exact hread (hlater.additions.walk_eq_ok hfirst.failedAt) (hnames ▸ hlater.failedAt)

end SavedIn

/-- Once the lists are saved they can be read back as they were, and nothing else is new but
directories above them. They stand in the directory of the file, under its name without the
extension: that is the whole name exactly where there is no extension. A later run takes their place
where its file has the same name without the extension and stands in the same directory, and leaves
them as they are otherwise. -/
theorem lists_named_by_stem {ok err : List String} {file : Path} {name : List Char}
    {tree after : FileTree} (hname : file.fileName? = some name)
    (hsave : save (ok.map .text) (err.map .text) file tree = (after, .ok ())) :
    ∃ directory, file.parent? = some directory ∧
      finishedPath file = directory / (String.ofList (stemOf name) ++ ".ok.json") ∧
      failedPath file = directory / (String.ofList (stemOf name) ++ ".err.json") ∧
      (stemOf name = name ↔ file.extension? = none) ∧
      readLists? file after = some (ok, err) ∧
      (∃ finishedAt failedAt, after.walk (finishedPath file) = .ok finishedAt ∧
        after.walk (failedPath file) = .ok failedAt ∧
        ∀ location, location ≠ finishedAt → location ≠ failedAt →
          after.at? location = tree.at? location ∨
            tree.at? location = none ∧ after.at? location = some .directory ∧
              ∃ count < file.components.length,
                after.walk (.ofComponents (file.components.take count)) = .ok location) ∧
      ∀ (okLater errLater : List String) (other : Path) (otherName : List Char)
        (otherDirectory : Path) (later : FileTree), other.fileName? = some otherName →
        other.parent? = some otherDirectory →
        save (okLater.map .text) (errLater.map .text) other after = (later, .ok ()) →
        (stemOf otherName = stemOf name → later.descend otherDirectory = later.descend directory →
          readLists? file later = some (okLater, errLater)) ∧
        (stemOf otherName ≠ stemOf name ∨
            later.descend otherDirectory ≠ later.descend directory →
          readLists? file later = some (ok, err)) := by
  obtain ⟨directory, hparent, hokPath, herrPath⟩ := exists_directory hname
  obtain ⟨folder, -, hsaved⟩ := exists_savedIn hname hparent hsave
  have hextension : stemOf name = name ↔ file.extension? = none := by
    rw [Path.stemOf_eq_self_iff, Path.extension?, hname, Option.bind_some]
  refine ⟨directory, hparent, hokPath, herrPath, hextension,
    readLists?_eq_some hsaved.readFinished hsaved.readFailed,
    ⟨_, _, hsaved.finishedAt, hsaved.failedAt, fun location hne hne' => ?_⟩, ?_⟩
  · exact hsaved.additions.others location fun hchanged => hchanged.elim hne hne'
  · intro okLater errLater other otherName otherDirectory later hotherName hotherParent hlater
    obtain ⟨folder', hfolder', hsaved'⟩ := exists_savedIn hotherName hotherParent hlater
    have hfolder := hsaved.descend_later hsaved' hname hparent
    constructor
    · intro hstem hdirectory
      cases hfolder'.symm.trans (hdirectory.trans hfolder)
      obtain ⟨hfinished, hfailed⟩ := hsaved.replaced hsaved' hstem
      exact readLists?_eq_some hfinished hfailed
    · intro hapart
      have hplaces : stemOf otherName ≠ stemOf name ∨ folder' ≠ folder := by
        refine hapart.imp_right fun hdirectory hsame => hdirectory ?_
        rw [hfolder', hfolder, hsame]
      obtain ⟨hfinished, hfailed⟩ := hsaved.kept hsaved' hplaces
      exact readLists?_eq_some hfinished hfailed

/-- A run whose file name has no extension, in a tree where nothing is yet. -/
def firstRun : FileTree × Except RunListError Unit :=
  save [.text "mcf/DDR3"] [] ⟨"results/runs"⟩ (.ofWorkingDirectory [])

/-- A run of another file name, after the first one. -/
def runAfterFirst (file : Path) : FileTree × Except RunListError Unit :=
  save [.text "mcf/DDR4"] [.text "mcf/DDR5"] file firstRun.1

theorem lists_named_by_stem_two_runs :
    readLists? ⟨"results/runs"⟩ firstRun.1 = some (["mcf/DDR3"], []) ∧
      readLists? ⟨"results/runs"⟩ (runAfterFirst ⟨"results/more"⟩).1 = some (["mcf/DDR3"], []) ∧
      readLists? ⟨"results/runs"⟩ (runAfterFirst ⟨"results/runs.second"⟩).1 =
        some (["mcf/DDR4"], ["mcf/DDR5"]) := by
  have hdone : ∀ run : FileTree × Except RunListError Unit,
      run.2 = .ok () → run = (run.1, .ok ()) :=
    fun run h => by rw [← h]
  have hfirst : save (["mcf/DDR3"].map .text) ([].map .text) ⟨"results/runs"⟩
      (.ofWorkingDirectory []) = (firstRun.1, .ok ()) :=
    hdone firstRun (by decide +kernel)
  have hmore := hdone (runAfterFirst ⟨"results/more"⟩) (by decide +kernel)
  have hsecond := hdone (runAfterFirst ⟨"results/runs.second"⟩) (by decide +kernel)
  have hname : (⟨"results/runs"⟩ : Path).fileName? = some "runs".toList := by decide
  obtain ⟨directory, hparent, -, -, -, hread, -, hlater⟩ :=
    lists_named_by_stem hname hfirst
  have hdirectory : directory = ⟨"results"⟩ := by
    have hresults : (⟨"results/runs"⟩ : Path).parent? = some ⟨"results"⟩ := by decide
    exact Option.some.inj (hparent.symm.trans hresults)
  subst hdirectory
  refine ⟨hread, ?_, ?_⟩
  · exact (hlater ["mcf/DDR4"] ["mcf/DDR5"] _ "more".toList ⟨"results"⟩ _ (by decide) (by decide)
      hmore).2 (.inl (by decide))
  · exact (hlater ["mcf/DDR4"] ["mcf/DDR5"] _ "runs.second".toList ⟨"results"⟩ _ (by decide)
      (by decide) hsecond).1 (by decide) rfl

/-- Two runs that both end well, under different names of one directory. The second one leaves no
file under its whole name, and the lists of the first one are lost. -/
theorem second_run_takes_place_of_first :
    firstRun.2 = .ok () ∧ (runAfterFirst ⟨"results/runs.second"⟩).2 = .ok () ∧
      readLists? ⟨"results/runs"⟩ firstRun.1 = some (["mcf/DDR3"], []) ∧
      readLists? ⟨"results/runs"⟩ (runAfterFirst ⟨"results/runs.second"⟩).1 =
        some (["mcf/DDR4"], ["mcf/DDR5"]) ∧
      ∀ ending ∈ [".ok.json", ".err.json"],
        (runAfterFirst ⟨"results/runs.second"⟩).1.readFile? ⟨"results/runs.second" ++ ending⟩ =
          none := by
  refine ⟨by decide +kernel, by decide +kernel, by decide +kernel, by decide +kernel, ?_⟩
  decide +kernel

end RunLists

end DramSweep
