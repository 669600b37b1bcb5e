import DramSweep.Proofs.SheetFolder

/-!
A folder of sheets that serves one request after another, each of which may be refused. What every
group was given is read off the requests alone, once it is known which files can be made. After a
flush the files hold exactly that; in between each one holds the front of it and only grows.
-/

namespace DramSweep

open Std (ExtTreeMap)
open Traverse

namespace Sheet

theorem written_le_flush (sheet : Sheet) (tree : FileTree) :
    sheet.written ≤ (sheet.flush tree).1.written :=
  Nat.le_add_right _ _

theorem written_le_push (sheet : Sheet) (bytes : Bytes) (tree : FileTree) :
    sheet.written ≤ (sheet.push bytes tree).1.written := by
  obtain ⟨before, hbefore, hpush⟩ := sheet.push_cases bytes tree
  have hle : sheet.written ≤ before.1.written := by
    rcases hbefore with rfl | rfl
    · exact le_rfl
    · exact written_le_flush sheet tree
  rcases hpush with ⟨-, hpush⟩ | hpush
  · rw [hpush]
    exact hle.trans (Nat.le_add_right _ _)
  · rw [hpush]
    exact hle

end Sheet

namespace SheetFolder

/-- What a folder can be asked for. -/
inductive Request where
  | openGroup (group : String)
  | write (group text : String)
  | writeEach (groups : List String) (text : String)
  | flush
  deriving Repr, DecidableEq

namespace Request

/-- The groups that a request opens, in their order. -/
def groups : Request → List String
  | .openGroup group => [group]
  | .write group _ => [group]
  | .writeEach groups _ => groups
  | .flush => []

/-- What each of the groups is given. -/
def text : Request → Bytes
  | .openGroup _ => []
  | .write _ text => Bytes.ofText text
  | .writeEach _ text => Bytes.ofText text
  | .flush => []

/-- A request adds to its groups up to the first one that cannot be opened. -/
def additions (opens : String → Bool) (request : Request) : List (String × Bytes) :=
  (request.groups.takeWhile opens).map (·, request.text)

/-- That group is the reason why the request is refused, if there is one. -/
def refusal? (opens : String → Bool) (directory : Path) (request : Request) : Option SheetError :=
  (request.groups.find? fun group => !opens group).map
    fun group => .file (directory / (group ++ ".csv"))

end Request

/-- A folder with the tree its files are in. -/
abbrev Session := SheetFolder × FileTree

/-- A step that fails leaves the session as it is. -/
def Session.attempt (session : Session) : Except SheetError Session → Session × Option SheetError
  | .ok later => (later, none)
  | .error e => (session, some e)

/-- Serves a request, and says why where it is refused. -/
def serve (session : Session) : Request → Session × Option SheetError
  | .openGroup group => session.attempt (session.1.openGroup group session.2)
  | .write group text => session.attempt (session.1.write group text session.2)
  | .writeEach groups text => session.1.writeEach text session.2 groups
  | .flush => (session.1.flush session.2, none)

/-- Goes on with the next request whatever became of the one before. -/
def serveAll (session : Session) (requests : List Request) : Session :=
  requests.foldl (fun session request => (serve session request).1) session

theorem serveAll_append (session : Session) (requests more : List Request) :
    serveAll session (requests ++ more) = serveAll (serveAll session requests) more :=
  List.foldl_append

/-- What requests add, when these are the files that can be made. -/
def logOf (directory : Path) (tree : FileTree) (requests : List Request) : List (String × Bytes) :=
  requests.flatMap (Request.additions (opens directory tree))

theorem logOf_openGroup {directory : Path} {tree : FileTree} {group : String}
    (h : opens directory tree group = true) (requests : List Request) :
    logOf directory tree (requests ++ [.openGroup group]) =
      logOf directory tree requests ++ [(group, [])] := by
  simp [logOf, Request.additions, Request.groups, Request.text, h]

section Growth

variable {outputs between later : SheetFolder} {tree after : FileTree} {group : String}

/-- Open sheets stay open, and no less of each is written. -/
def Grown (later outputs : SheetFolder) : Prop :=
  ∀ (group : String) (sheet : Sheet), outputs.sheets[group]? = some sheet →
    ∃ grown, later.sheets[group]? = some grown ∧ sheet.written ≤ grown.written

theorem Grown.refl (outputs : SheetFolder) : outputs.Grown outputs :=
  fun _ sheet hsheet => ⟨sheet, hsheet, le_rfl⟩

theorem Grown.trans (hlater : later.Grown between) (h : between.Grown outputs) :
    later.Grown outputs := by
  intro group sheet hsheet
  obtain ⟨held, hheld, hle⟩ := h group sheet hsheet
  obtain ⟨grown, hgrown, hle'⟩ := hlater group held hheld
  exact ⟨grown, hgrown, hle.trans hle'⟩

theorem grown_insert {sheet : Sheet}
    (h : ∀ before, outputs.sheets[group]? = some before → before.written ≤ sheet.written) :
    SheetFolder.Grown { outputs with sheets := outputs.sheets.insert group sheet } outputs := by
  intro other before hbefore
  by_cases hsame : group = other
  · subst hsame
    exact ⟨sheet, by simp, h before hbefore⟩
  · exact ⟨before, by simpa [ExtTreeMap.getElem?_insert, hsame] using hbefore, le_rfl⟩

theorem grown_openGroup {opened : SheetFolder}
    (h : outputs.openGroup group tree = .ok (opened, after)) : opened.Grown outputs := by
  unfold openGroup at h
  by_cases hmem : group ∈ outputs.sheets
  · rw [if_pos hmem] at h
    cases h
    exact .refl outputs
  · rw [if_neg hmem] at h
    dsimp only at h
    cases hcreate : tree.createFile (outputs.fileOf group) with
    | error fault =>
        rw [hcreate] at h
        cases h
    | ok created =>
        rw [hcreate] at h
        cases h
        refine grown_insert fun before hbefore => ?_
        exact absurd (ExtTreeMap.mem_iff_isSome_getElem?.mpr (by simp [hbefore])) hmem

theorem grown_push (outputs : SheetFolder) (group text : String) (tree : FileTree) :
    (outputs.push group text tree).1.Grown outputs := by
  unfold push
  cases hsheet : outputs.sheets[group]? with
  | none => exact .refl outputs
  | some sheet =>
      refine grown_insert fun before hbefore => ?_
      obtain rfl : sheet = before := by simpa [hsheet] using hbefore
      exact sheet.written_le_push _ tree

theorem grown_write {text : String} {written : SheetFolder}
    (h : outputs.write group text tree = .ok (written, after)) : written.Grown outputs := by
  obtain ⟨⟨opened, made⟩, hopen, hpush⟩ := map_eq_ok_iff.mp h
  have hgrown := (grown_push opened group text made).trans (grown_openGroup hopen)
  rwa [show opened.push group text made = (written, after) from hpush] at hgrown

theorem grown_writeEach (outputs : SheetFolder) (text : String) (tree : FileTree)
    (groups : List String) : (outputs.writeEach text tree groups).1.1.Grown outputs := by
  induction groups generalizing outputs tree with
  | nil => exact .refl outputs
  | cons group rest ih =>
      unfold writeEach
      cases hwrite : outputs.write group text tree with
      | error e => exact .refl outputs
      | ok done => exact (ih done.1 done.2).trans (grown_write hwrite)

theorem getElem?_flush (outputs : SheetFolder) (tree : FileTree) (group : String) :
    (outputs.flush tree).1.sheets[group]? =
      outputs.sheets[group]?.map fun sheet => (sheet.flush tree).1 := by
  simp [flush]

theorem grown_flush (outputs : SheetFolder) (tree : FileTree) :
    (outputs.flush tree).1.Grown outputs := by
  intro group sheet hsheet
  exact ⟨_, by rw [getElem?_flush, hsheet]; rfl, sheet.written_le_flush tree⟩

end Growth

section Serving

variable {outputs : SheetFolder} {tree : FileTree} {log : List (String × Bytes)}

/-- After a flush the files have everything, and the sheets go on from there. -/
theorem follows_flush (h : outputs.Follows tree log) :
    (outputs.flush tree).1.Follows (outputs.flush tree).2 log where
  served := by
    obtain ⟨hchanged, hcontents⟩ := flush_sheets h
    intro group flushed hflushed
    rw [getElem?_flush] at hflushed
    obtain ⟨sheet, hsheet, rfl⟩ := Option.map_eq_some_iff.mp hflushed
    obtain ⟨text, hgiven, hserves⟩ := h.served group sheet hsheet
    have hfile := hcontents group sheet text hsheet hgiven
    refine ⟨text, hgiven, hserves.name, (hchanged.walk_eq_ok_iff _ _).mpr hserves.located, ?_⟩
    obtain ⟨content, -, hwritten, rfl⟩ := hserves.holds
    exact ⟨_, hfile, by simp [Sheet.flush, Sheet.writeThrough, hwritten], (List.append_nil _).symm⟩
  closed := by
    intro group hclosed
    rw [getElem?_flush] at hclosed
    exact h.closed group (Option.map_eq_none_iff.mp hclosed)

/-- What serving requests makes of a session: the log goes on, only files of groups in it change,
and no sheet falls back. -/
structure Answers (start : Session) (log additions : List (String × Bytes)) (result : Session) :
    Prop where
  follows : result.1.Follows result.2 (log ++ additions)
  directory : result.1.directory = start.1.directory
  changed : result.2.ChangedOnly start.2 (Reaches start.1.directory start.2 (log ++ additions))
  grown : result.1.Grown start.1

variable {start between result : Session} {additions others : List (String × Bytes)}

theorem Takes.answers (h : start.1.Takes start.2 log additions result.1 result.2)
    (hgrown : result.1.Grown start.1) : Answers start log additions result where
  follows := h.follows
  directory := h.directory
  changed := h.changed.mono fun _ hreached => (reaches_append _ _ _ _ _).mpr (Or.inr hreached)
  grown := hgrown

theorem Answers.trans (h : Answers start log additions between)
    (hothers : Answers between (log ++ additions) others result) :
    Answers start log (additions ++ others) result where
  follows := by simpa using hothers.follows
  directory := hothers.directory.trans h.directory
  changed := by
    rw [← List.append_assoc]
    refine changedOnly_since hothers.changed h.changed (fun location hfirst => ?_)
      fun location hlater => ?_
    · exact (reaches_append _ _ _ _ _).mpr (Or.inl hfirst)
    · rwa [h.directory] at hlater
  grown := hothers.grown.trans h.grown

/-- Which groups can be opened is the same before and after. -/
theorem Answers.opens_eq (h : Answers start log additions result) :
    opens result.1.directory result.2 = opens start.1.directory start.2 := by
  rw [h.directory, opens_eq_of_changedOnly h.changed]

theorem answers_writeEach (h : start.1.Follows start.2 log) (text : String) {groups : List String}
    (hnames : ∀ group ∈ groups, '/' ∉ group.toList) :
    Answers start log ((Request.writeEach groups text).additions (opens start.1.directory start.2))
        (serve start (.writeEach groups text)).1 ∧
      (serve start (.writeEach groups text)).2 =
        (Request.writeEach groups text).refusal? (opens start.1.directory start.2)
          start.1.directory := by
  obtain ⟨htakes, hfailure⟩ := takes_writeEach_front h text hnames
  exact ⟨htakes.answers (grown_writeEach start.1 text start.2 groups), hfailure⟩

/-- Groups that come behind others are written to when none of these is refused. -/
theorem writeEach_append_of_ok {text : String} {front : List String}
    (h : (outputs.writeEach text tree front).2 = none) (back : List String) :
    outputs.writeEach text tree (front ++ back) =
      (outputs.writeEach text tree front).1.1.writeEach text
        (outputs.writeEach text tree front).1.2 back := by
  induction front generalizing outputs tree with
  | nil => rfl
  | cons group rest ih =>
      rw [writeEach] at h ⊢
      rw [List.cons_append, writeEach]
      cases hwrite : outputs.write group text tree with
      | error e =>
          rw [hwrite] at h
          cases h
      | ok done =>
          rw [hwrite] at h
          exact ih h

/-- Writing to one group is writing to each of a single one. -/
theorem serve_write (session : Session) (group text : String) :
    serve session (.write group text) = serve session (.writeEach [group] text) := by
  rw [serve, serve, writeEach]
  cases session.1.write group text session.2 <;> rfl

/-- A request adds to its groups up to the first whose file cannot be made, and is refused because
of that one. -/
theorem answers_serve (h : start.1.Follows start.2 log) (request : Request)
    (hnames : ∀ group ∈ request.groups, '/' ∉ group.toList) :
    Answers start log (request.additions (opens start.1.directory start.2))
        (serve start request).1 ∧
      (serve start request).2 =
        request.refusal? (opens start.1.directory start.2) start.1.directory := by
  cases request with
  | openGroup group =>
      rcases openGroup_cases h group with ⟨hopens, opened, after, hopen⟩ | ⟨hopens, hopen⟩
      · have htakes := (takes_openGroup h (hnames group List.mem_cons_self) hopen).1
        have hanswers : Answers start log [(group, [])] (opened, after) :=
          htakes.answers (grown_openGroup hopen)
        rw [serve, hopen, Session.attempt]
        constructor
        · simpa [Request.additions, Request.groups, Request.text, hopens] using hanswers
        · simp [Request.refusal?, Request.groups, hopens]
      · rw [serve, hopen, Session.attempt]
        constructor
        · simpa [Request.additions, Request.groups, hopens] using h.takes_nil.answers (.refl _)
        · simp [Request.refusal?, Request.groups, hopens, fileOf]
  | write group text =>
      rw [serve_write]
      exact answers_writeEach h text hnames
  | writeEach groups text => exact answers_writeEach h text hnames
  | flush =>
      refine ⟨?_, rfl⟩
      exact {
        follows := by simpa [Request.additions, Request.groups, serve] using follows_flush h
        directory := rfl
        changed := by simpa [Request.additions, Request.groups, serve] using (flush_sheets h).1
        grown := grown_flush start.1 start.2 }

/-- So the log of the requests is what the groups are given in the end. -/
theorem answers_serveAll (h : start.1.Follows start.2 log) {requests : List Request}
    (hnames : ∀ request ∈ requests, ∀ group ∈ request.groups, '/' ∉ group.toList) :
    Answers start log (logOf start.1.directory start.2 requests) (serveAll start requests) := by
  induction requests generalizing start log with
  | nil => exact h.takes_nil.answers (.refl _)
  | cons request rest ih =>
      obtain ⟨hrequest, hrest⟩ := List.forall_mem_cons.mp hnames
      have hfirst := (answers_serve h request hrequest).1
      have hlater := ih hfirst.follows hrest
      rw [logOf, hfirst.opens_eq] at hlater
      exact hfirst.trans hlater

/-- Up to a group whose file cannot be made, the groups are written to as if they were alone. -/
theorem serve_writeEach_of_refused (h : start.1.Follows start.2 log) (text : String)
    {front : List String} (back : List String) {group : String}
    (hnames : ∀ group ∈ front, '/' ∉ group.toList)
    (hfront : ∀ other ∈ front, opens start.1.directory start.2 other = true)
    (hgroup : opens start.1.directory start.2 group = false) :
    serve start (.writeEach (front ++ group :: back) text) =
      ((serve start (.writeEach front text)).1, some (.file (start.1.fileOf group))) := by
  obtain ⟨htakes, hfailure⟩ := takes_writeEach_front h text hnames
  have hnone : (start.1.writeEach text start.2 front).2 = none := by
    rw [hfailure, List.find?_eq_none.mpr (by simpa using hfront), Option.map_none]
  rw [serve, serve, writeEach_append_of_ok hnone, writeEach]
  rcases write_cases htakes.follows group text with ⟨hopens, -⟩ | ⟨-, hwrite⟩
  · rw [htakes.directory, opens_eq_of_changedOnly htakes.changed, hgroup] at hopens
    cases hopens
  · rw [hwrite, fileOf, htakes.directory]
    rfl

/-- A request for one group whose file cannot be made changes nothing. -/
theorem serve_of_refused (h : start.1.Follows start.2 log) {request : Request} {group : String}
    (hone : request.groups = [group]) (hgroup : opens start.1.directory start.2 group = false) :
    (serve start request).1 = start := by
  have hwritten : ∀ text, (serve start (.writeEach [group] text)).1 = start := by
    intro text
    have hfront : ∀ other ∈ ([] : List String), opens start.1.directory start.2 other = true := by
      simp
    have hserve := serve_writeEach_of_refused h text [] (by simp) hfront hgroup
    exact congrArg Prod.fst hserve
  cases request with
  | openGroup other =>
      cases hone
      rcases openGroup_cases h group with ⟨hopens, -⟩ | ⟨-, hopen⟩
      · cases hopens.symm.trans hgroup
      · rw [serve, hopen, Session.attempt]
  | write other text =>
      cases hone
      rw [serve_write]
      exact hwritten text
  | writeEach groups text =>
      cases hone
      exact hwritten text
  | flush => cases hone

/-- The file of an open sheet has as much of the text as is written. -/
theorem Serves.readFile? {directory : Path} {group : String} {sheet : Sheet} {text : Bytes}
    (h : Serves directory tree group sheet text) :
    tree.readFile? (directory / (group ++ ".csv")) = some (text.take sheet.written) := by
  obtain ⟨content, hfile, hwritten, rfl⟩ := h.holds
  rw [hwritten, List.take_left]
  exact readFile?_of_at? h.located hfile

/-- Once a group is open its file has the front of what it was given, and is only ever made
longer. -/
theorem Answers.file_grows (h : Answers start log additions result)
    (hstart : start.1.Follows start.2 log) {group : String} {given : Bytes}
    (hgiven : givenTo? log group = some given) :
    ∃ content more, content <+: given ∧
      start.2.readFile? (start.1.fileOf group) = some content ∧
      result.2.readFile? (start.1.fileOf group) = some (content ++ more) := by
  obtain ⟨sheet, hsheet, hserves⟩ := hstart.serves hgiven
  obtain ⟨grown, hgrown, hle⟩ := h.grown group sheet hsheet
  obtain ⟨text, htext, hserves'⟩ := h.follows.served group grown hgrown
  obtain ⟨behind, hbehind⟩ := exists_givenTo?_append hgiven additions
  cases hbehind.symm.trans htext
  have hwritten : sheet.written ≤ given.length := by
    obtain ⟨content, -, hwritten, rfl⟩ := hserves.holds
    simp [hwritten]
  have hfront : given.take sheet.written <+: (given ++ behind).take grown.written := by
    have htake : (given ++ behind).take sheet.written = given.take sheet.written :=
      List.take_append_of_le_length hwritten
    rw [← htake]
    exact List.take_prefix_take_left hle
  obtain ⟨more, hmore⟩ := hfront
  refine ⟨_, more, List.take_prefix _ _, hserves.readFile?, ?_⟩
  rw [hmore, fileOf, ← h.directory]
  exact hserves'.readFile?

/-- A group that was given nothing yet, if only to be opened, has an empty file. -/
theorem Answers.file_created (h : Answers start log additions result) {group : String}
    (hgiven : givenTo? (log ++ additions) group = some []) :
    result.2.readFile? (start.1.fileOf group) = some [] := by
  obtain ⟨sheet, -, hserves⟩ := h.follows.serves hgiven
  rw [fileOf, ← h.directory, hserves.readFile?, List.take_nil]

/-- The file of a group that is not open is as it was found. -/
theorem Answers.file_kept (h : Answers start log additions result) {group : String}
    (hname : '/' ∉ group.toList) (hgiven : givenTo? (log ++ additions) group = none) :
    result.2.find? (start.1.fileOf group) = start.2.find? (start.1.fileOf group) := by
  refine h.changed.find?_eq _ ?_
  rintro location hwalk ⟨addition, hmem, hplace⟩
  have hdifferent : addition.1 ≠ group := by
    rintro rfl
    obtain ⟨text, htext⟩ := (exists_givenTo?_iff _ _).mpr ⟨addition, hmem, rfl⟩
    cases htext.symm.trans hgiven
  exact ne_of_walk_of_group_ne (h.follows.not_mem_name hmem) hname hdifferent hplace hwalk rfl

end Serving

section Files

variable {directory : Path} {before tree : FileTree} {outputs : SheetFolder}
  {requests : List Request}

theorem answers_created (hcreate : create directory before = (tree, .ok outputs))
    (hnames : ∀ request ∈ requests, ∀ group ∈ request.groups, '/' ∉ group.toList) :
    Answers (outputs, tree) [] (logOf directory tree requests)
      (serveAll (outputs, tree) requests) := by
  obtain ⟨-, rfl⟩ := create_eq_ok_iff.mp (congrArg Prod.snd hcreate)
  exact answers_serveAll (follows_nil directory tree) hnames

/-- What a row of requests does to the files of a folder that was made before. The log of the
requests tells what each group was given, and these facts hold wherever the row is cut. -/
theorem files_follow_requests (hcreate : create directory before = (tree, .ok outputs))
    (hnames : ∀ request ∈ requests, ∀ group ∈ request.groups, '/' ∉ group.toList) :
    -- A flush leaves in the file of each open group all that the group was given.
    (∀ group text, givenTo? (logOf directory tree requests) group = some text →
      (serveAll (outputs, tree) (requests ++ [.flush])).2.readFile? (outputs.fileOf group) =
        some text) ∧
    -- The first time a group is opened its file is made, or what was in it is thrown away.
    (∀ earlier group later, requests = earlier ++ .openGroup group :: later →
      opens directory tree group = true →
      givenTo? (logOf directory tree earlier) group = none →
        (serve (serveAll (outputs, tree) earlier) (.openGroup group)).1.2.readFile?
          (outputs.fileOf group) = some []) ∧
    -- From then on the file has the front of what the group was given, and is only made longer.
    (∀ earlier later, requests = earlier ++ later →
      ∀ group text, givenTo? (logOf directory tree earlier) group = some text →
        ∃ content more, content <+: text ∧
          (serveAll (outputs, tree) earlier).2.readFile? (outputs.fileOf group) = some content ∧
          (serveAll (outputs, tree) requests).2.readFile? (outputs.fileOf group) =
            some (content ++ more)) ∧
    -- The file of a group that was never opened is as it was found, and so is everything else.
    (∀ group, '/' ∉ group.toList → givenTo? (logOf directory tree requests) group = none →
      (serveAll (outputs, tree) requests).2.find? (outputs.fileOf group) =
        tree.find? (outputs.fileOf group)) ∧
    (serveAll (outputs, tree) requests).2.ChangedOnly tree
      (Reaches directory tree (logOf directory tree requests)) ∧
    -- A request is refused because of its first group whose file cannot be made. One for a single
    -- group changes nothing then, and one for several has written to those in front.
    (∀ earlier request later, requests = earlier ++ request :: later →
      (serve (serveAll (outputs, tree) earlier) request).2 =
          request.refusal? (opens directory tree) directory ∧
        ∀ group, request.groups = [group] → opens directory tree group = false →
          (serve (serveAll (outputs, tree) earlier) request).1 =
            serveAll (outputs, tree) earlier) ∧
    (∀ earlier front group back text later,
      requests = earlier ++ .writeEach (front ++ group :: back) text :: later →
      (∀ other ∈ front, opens directory tree other = true) → opens directory tree group = false →
        serve (serveAll (outputs, tree) earlier) (.writeEach (front ++ group :: back) text) =
          ((serve (serveAll (outputs, tree) earlier) (.writeEach front text)).1,
            some (.file (outputs.fileOf group)))) := by
  have hanswers := answers_created hcreate hnames
  have hearlier : ∀ earlier later, requests = earlier ++ later →
      Answers (outputs, tree) [] (logOf directory tree earlier)
        (serveAll (outputs, tree) earlier) := by
    rintro earlier later rfl
    exact answers_created hcreate (List.forall_mem_append.mp hnames).1
  obtain ⟨-, rfl⟩ := create_eq_ok_iff.mp (congrArg Prod.snd hcreate)
  refine ⟨?_, ?_, ?_, fun group hname hnone => hanswers.file_kept hname hnone, hanswers.changed,
    ?_, ?_⟩
  · intro group text hgiven
    have hflushed := (flush_of_follows hanswers.follows).2 group text hgiven
    rw [fileOf, hanswers.directory] at hflushed
    rw [serveAll_append]
    exact hflushed
  · rintro earlier group later rfl hopens hnone
    have hopened := hearlier (earlier ++ [.openGroup group]) later (by simp)
    rw [logOf_openGroup hopens, serveAll_append] at hopened
    refine hopened.file_created ?_
    rw [List.nil_append, givenTo?_concat, if_pos rfl, hnone]
    rfl
  · rintro earlier later rfl group text hgiven
    have hfirst := hearlier earlier later rfl
    have hlater := answers_serveAll hfirst.follows (List.forall_mem_append.mp hnames).2
    have hgrows := hlater.file_grows hfirst.follows hgiven
    rw [fileOf, hfirst.directory] at hgrows
    rw [serveAll_append]
    exact hgrows
  · rintro earlier request later rfl
    have hfirst := hearlier earlier _ rfl
    obtain ⟨hrequest, -⟩ := List.forall_mem_cons.mp (List.forall_mem_append.mp hnames).2
    have hrefused := (answers_serve hfirst.follows request hrequest).2
    rw [hfirst.opens_eq, hfirst.directory] at hrefused
    refine ⟨hrefused, fun group hone hgroup => serve_of_refused hfirst.follows hone ?_⟩
    rwa [hfirst.opens_eq]
  · rintro earlier front group back text later rfl hfront hgroup
    have hfirst := hearlier earlier _ rfl
    obtain ⟨hrequest, -⟩ := List.forall_mem_cons.mp (List.forall_mem_append.mp hnames).2
    obtain ⟨hnamesFront, -⟩ := List.forall_mem_append.mp hrequest
    have hserve := serve_writeEach_of_refused hfirst.follows text back hnamesFront
      (by rwa [hfirst.opens_eq]) (by rwa [hfirst.opens_eq])
    rwa [fileOf, hfirst.directory] at hserve

/-- A tree with a table from before and a directory where the file of a group would be. -/
def crowdedTree : FileTree :=
  let tables := (FileTree.ofWorkingDirectory ["work"]).withFile ⟨"out/MPKI.csv"⟩
    (Bytes.ofText "an old table\n")
  tables.withDirectory ⟨"out/ipc.csv"⟩

/-- One group twice in a row of groups, one that cannot be opened, and a write after a flush. -/
def crowdedRequests : List Request :=
  [.openGroup "MPKI", .writeEach ["MPKI", "MPKI", "ipc", "locality"] "a\n", .flush,
    .write "MPKI" "b\n"]

theorem files_follow_crowded_requests :
    let session : Session := ({ directory := ⟨"out"⟩ }, (create ⟨"out"⟩ crowdedTree).1)
    (serveAll session (crowdedRequests ++ [.flush])).2.readFile? ⟨"out/MPKI.csv"⟩ =
        some (Bytes.ofText "a\na\nb\n") ∧
      (serveAll session crowdedRequests).2.find? ⟨"out/locality.csv"⟩ = none ∧
      (serve (serveAll session [.openGroup "MPKI"])
          (.writeEach ["MPKI", "MPKI", "ipc", "locality"] "a\n")).2 =
        some (.file ⟨"out/ipc.csv"⟩) := by
  have hcreated : (create ⟨"out"⟩ crowdedTree).2 = .ok { directory := ⟨"out"⟩ } :=
    create_eq_ok_iff.mpr ⟨by decide +kernel, rfl⟩
  have hcreate : create ⟨"out"⟩ crowdedTree =
      ((create ⟨"out"⟩ crowdedTree).1, .ok { directory := ⟨"out"⟩ }) := by
    rw [← hcreated, Prod.eta]
  have hnames : ∀ request ∈ crowdedRequests, ∀ group ∈ request.groups, '/' ∉ group.toList := by
    decide
  obtain ⟨hflushed, -, -, hkept, -, hrefused, -⟩ := files_follow_requests hcreate hnames
  refine ⟨?_, ?_, ?_⟩
  · exact hflushed "MPKI" (Bytes.ofText "a\na\nb\n") (by decide +kernel)
  · exact (hkept "locality" (by decide) (by decide +kernel)).trans (by decide +kernel)
  · exact (hrefused [.openGroup "MPKI"] _ [.flush, .write "MPKI" "b\n"] rfl).1.trans
      (by decide +kernel)

end Files

end SheetFolder

end DramSweep
