import DramSweep.Proofs.Simulation.Pool
import DramSweep.Proofs.Traverse
import DramSweep.Simulation.Launcher

/-!
From how the jobs ended to the lists that are saved. The lists are the jobs that finished and those
that did not, each in the order of the jobs, whichever of them ended first.
-/

namespace DramSweep.Simulation

/-- The jobs whose numbers have a property, in the order of the jobs. -/
def jobsWith (plan : SimulationPlan) (property : Nat → Bool) : List Job :=
  ((Job.all plan).zipIdx.filter fun (_, number) => property number).map Prod.fst

/-- The lists are drawn from attempts at every job: those that ended in success, and all others. No
job is in both lists or in none of them, and in each they stand in the order of the jobs. -/
structure Accounted (plan : SimulationPlan) (attempts : List (Nat × Attempt)) (lists : Lists) :
    Prop where
  once : (attempts.map Prod.fst).Perm (List.range (Job.all plan).length)
  finished : lists.finished =
    jobsWith plan fun number => (number, Attempt.exited .success) ∈ attempts
  failed : lists.failed =
    jobsWith plan fun number => (number, Attempt.exited .success) ∉ attempts
  finishedInOrder : lists.finished.Sublist (Job.all plan)
  failedInOrder : lists.failed.Sublist (Job.all plan)
  everyJob : (lists.finished ++ lists.failed).Perm (Job.all plan)
  lengths : lists.finished.length + lists.failed.length = (Job.all plan).length

/-- The files of a plan hold the two lists. -/
structure Saved (plan : SimulationPlan) (lists : Lists) (tree : FileTree) : Prop where
  finished : tree.readFile? (RunLists.finishedPath plan.resultFile) =
    some (RunLists.content (lists.finished.map Job.toJson))
  failed : tree.readFile? (RunLists.failedPath plan.resultFile) =
    some (RunLists.content (lists.failed.map Job.toJson))

variable {plan : SimulationPlan} {attempts : List (Nat × Attempt)} {tree after : FileTree}
  {lists : Lists}

theorem jobsWith_sublist (plan : SimulationPlan) (property : Nat → Bool) :
    (jobsWith plan property).Sublist (Job.all plan) := by
  have hsublist := List.filter_sublist (l := (Job.all plan).zipIdx)
    (p := fun (_, number) => property number) |>.map Prod.fst
  rwa [List.zipIdx_map_fst] at hsublist

/-- A job either has a property or not. -/
theorem jobsWith_append_perm (plan : SimulationPlan) (property : Nat → Bool) :
    (jobsWith plan property ++ jobsWith plan fun number => !property number).Perm
      (Job.all plan) := by
  have hperm := (List.filter_append_perm (fun (_, number) => property number)
    (Job.all plan).zipIdx).map Prod.fst
  rwa [List.map_append, List.zipIdx_map_fst] at hperm

/-- Where each job is attempted once, it finished if one of the attempts says so. -/
theorem finished_eq_decide_mem (h : (attempts.map Prod.fst).Nodup) (number : Nat) :
    finished attempts number = decide ((number, Attempt.exited .success) ∈ attempts) := by
  rw [Bool.eq_iff_iff, decide_eq_true_iff, ← Traverse.lookup_eq_some_iff_mem h]
  unfold finished
  cases attempts.lookup number with
  | none => simp
  | some attempt => simp [Attempt.succeeded]

theorem divide_eq_jobsWith (h : (attempts.map Prod.fst).Nodup) : divide (Job.all plan) attempts =
      (jobsWith plan fun number => (number, Attempt.exited .success) ∈ attempts,
        jobsWith plan fun number => (number, Attempt.exited .success) ∉ attempts) := by
  unfold divide jobsWith
  simp only [List.partition_eq_filter_filter, finished_eq_decide_mem h, decide_not]
  rfl

/-- Lists are returned once they are saved. -/
theorem conclude_cases (h : conclude plan attempts tree = (after, .ok lists)) :
    divide (Job.all plan) attempts = (lists.finished, lists.failed) ∧
      RunLists.save (lists.finished.map Job.toJson) (lists.failed.map Job.toJson)
        plan.resultFile tree = (after, .ok ()) := by
  unfold conclude at h
  cases hdivide : divide (Job.all plan) attempts with
  | mk finished failed =>
      rw [hdivide] at h
      dsimp only at h
      split at h
      next => cases h
      next hsave =>
        cases h
        exact ⟨rfl, hsave⟩

theorem accounted_of_conclude
    (honce : (attempts.map Prod.fst).Perm (List.range (Job.all plan).length))
    (h : conclude plan attempts tree = (after, .ok lists)) : Accounted plan attempts lists := by
  have hnodup : (attempts.map Prod.fst).Nodup := honce.nodup_iff.mpr List.nodup_range
  have hdivide := (conclude_cases h).1
  rw [divide_eq_jobsWith hnodup] at hdivide
  obtain ⟨hfinished, hfailed⟩ := Prod.mk.inj hdivide
  have hall : (lists.finished ++ lists.failed).Perm (Job.all plan) := by
    have hperm := jobsWith_append_perm plan fun number =>
      decide ((number, Attempt.exited .success) ∈ attempts)
    simp only [← decide_not] at hperm
    rwa [hfinished, hfailed] at hperm
  exact {
    once := honce
    finished := hfinished.symm
    failed := hfailed.symm
    finishedInOrder := hfinished ▸ jobsWith_sublist plan _
    failedInOrder := hfailed ▸ jobsWith_sublist plan _
    everyJob := hall
    lengths := by rw [← List.length_append, hall.length_eq] }

theorem saved_of_conclude (hgrounded : plan.resultFile.fileName? = none → tree.Grounded)
    (h : conclude plan attempts tree = (after, .ok lists)) : Saved plan lists after := by
  obtain ⟨hfinished, hfailed⟩ := RunLists.readFile?_of_save hgrounded (conclude_cases h).2
  exact ⟨hfinished, hfailed⟩

/-- Once all jobs have ended, the lists are accounted for by how they did. -/
theorem Schedule.lists_of_conclude {machine : Machine} {between : FileTree} {events : List Event}
    (hrun : Schedule machine plan tree events between)
    (h : conclude plan (attemptsOf events) between = (after, .ok lists)) :
    Accounted plan (attemptsOf events) lists ∧
      ((plan.resultFile.fileName? = none → machine.KeepsGrounded ∧ tree.Grounded) →
        Saved plan lists after) := by
  refine ⟨accounted_of_conclude hrun.attempts_perm h, fun hkept => ?_⟩
  refine saved_of_conclude (fun hname => ?_) h
  obtain ⟨hmachine, hgrounded⟩ := hkept hname
  exact Pool.Run.grounded hmachine hrun hgrounded

/-- A job of the queue is attempted on what the jobs before it have left. -/
theorem attempt_mem_attemptAll (launch : Launcher) (tree : FileTree) (front back : List Nat)
    {number : Nat} {job : Job} (hjob : (Job.all plan)[number]? = some job) :
    (number, (attempt launch plan job (attemptAll launch plan tree (queueOf plan front)).1).2) ∈
      (attemptAll launch plan tree (queueOf plan (front ++ number :: back))).2 := by
  rw [queueOf_append, queueOf_cons hjob, attemptAll_append]
  exact List.mem_append_right _ List.mem_cons_self

/-- Two workloads on two configurations, with room for two jobs at the same time. -/
def fourJobs : SimulationPlan where
  simulator := ⟨"sh"⟩
  traceDirectory := ⟨"cputraces"⟩
  configDirectory := ⟨"configs"⟩
  outputDirectory := ⟨"stats"⟩
  configurations := ["DDR3", "DDR4"]
  parallel := 2
  programs := ["left", "right"]

/-- Where the reports of the jobs in the two lists are. -/
def outputsOf (lists : Lists) : List String × List String :=
  (lists.finished.map (·.output.text), lists.failed.map (·.output.text))

/-- The simulator of one configuration fails and that of the other one writes a report, but the
reports of one workload can have no directory. -/
def scripted : FileTree :=
  (((FileTree.ofWorkingDirectory []).withFile ⟨"configs/DDR3-config.cfg"⟩
    (Bytes.ofText "exit 3")).withFile ⟨"configs/DDR4-config.cfg"⟩
      (Bytes.ofText "echo cycles 1 > \"$3\"")).withFile ⟨"stats/left"⟩ []

/-- A machine on which anything may happen. -/
def unruly : Machine where
  writes _ _ _ _ := True
  ends _ _ _ _ _ := True

/-- Two jobs run side by side. -/
def sideBySide : List Event :=
  [.launched 3, .wrote 3, .launched 2]

theorem run_sideBySide {tree first after : FileTree}
    (hfirst : MakesParent ⟨"stats/right/DDR4.stats"⟩ tree first (.ok ()))
    (hafter : MakesParent ⟨"stats/right/DDR3.stats"⟩ tree after (.ok ())) :
    Pool.Run unruly fourJobs (.initial fourJobs tree) sideBySide ⟨after, [0, 1], [2, 3]⟩ := by
  have hjob : (Job.all fourJobs)[3]? = some (.ofWorkload fourJobs "right" ["right"] "DDR4") := rfl
  have hother : (Job.all fourJobs)[2]? = some (.ofWorkload fourJobs "right" ["right"] "DDR3") := rfl
  have hlaunch : Pool.Step unruly fourJobs ⟨tree, [0, 1, 2, 3], []⟩ (.launched 3)
      ⟨first, [0, 1, 2], [3]⟩ :=
    .launch (List.elem_iff.mp rfl) Nat.two_pos hjob hfirst
  have hwrite : Pool.Step unruly fourJobs ⟨first, [0, 1, 2], [3]⟩ (.wrote 3)
      ⟨tree, [0, 1, 2], [3]⟩ :=
    .write List.mem_cons_self hjob trivial
  have hbeside : Pool.Step unruly fourJobs ⟨tree, [0, 1, 2], [3]⟩ (.launched 2)
      ⟨after, [0, 1], [2, 3]⟩ :=
    .launch (List.elem_iff.mp rfl) Nat.one_lt_two hother hafter
  exact .step hlaunch (.step hwrite (.step hbeside (.done _)))

end DramSweep.Simulation
