import Mathlib.Data.List.Perm.Basic
import DramSweep.Proofs.Simulation.SavedLists
import DramSweep.Simulation.Pool

/-!
What holds of every run of a pool. No job is lost or doubled, no more run at the same time than
there are workers, and however far a run has come, it can be brought to its end where commands end.
To attempt the jobs one after the other, in any order, is one of the runs.
-/

namespace DramSweep.Simulation

namespace Machine

/-- The launcher does nothing with a command that the machine may not do. -/
def Allows (machine : Machine) (launch : Launcher) : Prop :=
  ∀ program arguments tree, machine.ends program arguments tree
    (launch program arguments tree).1 (launch program arguments tree).2

theorem ofLauncher_allows (launch : Launcher) : (ofLauncher launch).Allows launch :=
  fun _ _ _ => rfl

/-- No command goes on without an end. -/
def AlwaysEnds (machine : Machine) : Prop :=
  ∀ program arguments tree, ∃ after exit, machine.ends program arguments tree after exit

theorem AlwaysEnds.exists_launcher {machine : Machine} (h : machine.AlwaysEnds) :
    ∃ launch, machine.Allows launch := by
  choose after exit hends using h
  exact ⟨fun program arguments tree =>
    (after program arguments tree, exit program arguments tree), hends⟩

/-- Commands make files in directories only. -/
structure KeepsGrounded (machine : Machine) : Prop where
  writes : ∀ {program arguments} {before after : FileTree},
    machine.writes program arguments before after → before.Grounded → after.Grounded
  ends : ∀ {program arguments} {before after : FileTree} {exit},
    machine.ends program arguments before after exit → before.Grounded → after.Grounded

end Machine

theorem makeParent_eq_iff {file : Path} {before after : FileTree} {result : Except Fault Unit} :
    RunLists.makeParent file before = (after, result) ↔ MakesParent file before after result := by
  unfold RunLists.makeParent
  constructor
  · intro h
    split at h
    next parent hparent => exact .create hparent h
    next hparent =>
      cases h
      exact .none hparent
  · rintro (⟨hparent, created⟩ | hparent)
    · rw [hparent, ← created]
    · rw [hparent]

theorem workers_pos (plan : SimulationPlan) : 0 < workers plan :=
  Nat.lt_of_lt_of_le Nat.zero_lt_one (Nat.le_max_right _ _)

section Queue

variable {launch : Launcher} {plan : SimulationPlan}

theorem queueOf_append (front back : List Nat) :
    queueOf plan (front ++ back) = queueOf plan front ++ queueOf plan back :=
  List.filterMap_append

theorem queueOf_cons {number : Nat} {job : Job} (hjob : (Job.all plan)[number]? = some job)
    (rest : List Nat) : queueOf plan (number :: rest) = (number, job) :: queueOf plan rest := by
  simp [queueOf, hjob]

theorem numbers_queueOf {order : List Nat} (h : ∀ number ∈ order, number < (Job.all plan).length) :
    (queueOf plan order).map Prod.fst = order := by
  induction order with
  | nil => rfl
  | cons number rest ih =>
      obtain ⟨hnumber, hrest⟩ := List.forall_mem_cons.mp h
      rw [queueOf_cons (List.getElem?_eq_getElem hnumber), List.map_cons, ih hrest]

/-- Later jobs are attempted on what the earlier ones have left. -/
theorem attemptAll_append (launch : Launcher) (plan : SimulationPlan) (tree : FileTree)
    (front back : List (Nat × Job)) : attemptAll launch plan tree (front ++ back) =
      ((attemptAll launch plan (attemptAll launch plan tree front).1 back).1,
        (attemptAll launch plan tree front).2 ++
          (attemptAll launch plan (attemptAll launch plan tree front).1 back).2) := by
  induction front generalizing tree with
  | nil => rfl
  | cons head rest ih => simp [attemptAll, ih]

end Queue

namespace Pool

variable {machine : Machine} {launch : Launcher} {plan : SimulationPlan}
  {pool next last : Pool} {event : Event} {events more : List Event}

theorem Run.append (hrun : Run machine plan pool events next)
    (hmore : Run machine plan next more last) : Run machine plan pool (events ++ more) last := by
  induction hrun with
  | done pool => exact hmore
  | step first _ ih => exact .step first (ih hmore)

/-- A job that is taken no longer waits. It runs until its attempt has ended, unless that is over at
once. -/
theorem Step.conserves (h : Step machine plan pool event next) :
    (starts [event] ++ next.waiting).Perm pool.waiting ∧
      ((attemptsOf [event]).map Prod.fst ++ next.running).Perm (starts [event] ++ pool.running) := by
  cases h with
  | refuse waits _ _ _ | launch waits _ _ _ =>
      exact ⟨(List.perm_cons_erase waits).symm, .refl _⟩
  | write _ _ _ => exact ⟨.refl _, .refl _⟩
  | finish runs _ _ => exact ⟨.refl _, (List.perm_cons_erase runs).symm⟩

/-- Over a run no job is lost or doubled: what waited is taken or waits, and what ran or was taken
has ended or runs. -/
theorem Run.conserves (h : Run machine plan pool events last) :
    (starts events ++ last.waiting).Perm pool.waiting ∧
      ((attemptsOf events).map Prod.fst ++ last.running).Perm (starts events ++ pool.running) := by
  induction h with
  | done pool => exact ⟨.refl _, .refl _⟩
  | @step pool next last event events first _ ih =>
      obtain ⟨hwaiting, hrunning⟩ := first.conserves
      obtain ⟨ihwaiting, ihrunning⟩ := ih
      -- The first event stands in front of what the rest of the run has conserved.
      have hstarts : starts (event :: events) = starts [event] ++ starts events :=
        List.filterMap_append (l := [event])
      have hends : attemptsOf (event :: events) = attemptsOf [event] ++ attemptsOf events :=
        List.filterMap_append (l := [event])
      rw [hstarts, hends, List.map_append, List.append_assoc, List.append_assoc,
        List.append_assoc]
      constructor
      · exact (ihwaiting.append_left _).trans hwaiting
      · calc
          ((attemptsOf [event]).map Prod.fst ++
                ((attemptsOf events).map Prod.fst ++ last.running)).Perm
              ((attemptsOf [event]).map Prod.fst ++ (starts events ++ next.running)) :=
            ihrunning.append_left _
          _ |>.Perm (starts events ++ ((attemptsOf [event]).map Prod.fst ++ next.running)) :=
            List.perm_append_comm_assoc _ _ _
          _ |>.Perm (starts events ++ (starts [event] ++ pool.running)) :=
            hrunning.append_left _
          _ |>.Perm (starts [event] ++ (starts events ++ pool.running)) :=
            List.perm_append_comm_assoc _ _ _

theorem Step.running_le (h : Step machine plan pool event next)
    (hle : pool.running.length ≤ workers plan) : next.running.length ≤ workers plan := by
  cases h with
  | refuse _ _ _ _ | write _ _ _ => exact hle
  | launch _ free _ _ => exact free
  | finish _ _ _ => exact Nat.le_trans List.length_erase_le hle

/-- No more jobs run at the same time than there are workers. -/
theorem Run.running_le (h : Run machine plan pool events last)
    (hle : pool.running.length ≤ workers plan) : last.running.length ≤ workers plan := by
  induction h with
  | done pool => exact hle
  | step first _ ih => exact ih (first.running_le hle)

theorem Step.grounded (hmachine : machine.KeepsGrounded) (h : Step machine plan pool event next)
    (hgrounded : pool.tree.Grounded) : next.tree.Grounded := by
  cases h with
  | @refuse _ job _ _ _ _ _ hmade | @launch _ job _ _ _ _ hmade =>
      have hkept := RunLists.makeParent_grounded hgrounded job.output
      rwa [makeParent_eq_iff.mpr hmade] at hkept
  | write _ _ wrote => exact hmachine.writes wrote hgrounded
  | finish _ _ ended => exact hmachine.ends ended hgrounded

theorem Run.grounded (hmachine : machine.KeepsGrounded) (h : Run machine plan pool events last)
    (hgrounded : pool.tree.Grounded) : last.tree.Grounded := by
  induction h with
  | done pool => exact hgrounded
  | step first _ ih => exact ih (first.grounded hmachine hgrounded)

/-- What runs can end, one job after the other. -/
theorem exists_run_to_idle (hallows : machine.Allows launch) {running : List Nat}
    (hjobs : ∀ number ∈ running, number < (Job.all plan).length) (tree : FileTree)
    (waiting : List Nat) :
    ∃ events after, Run machine plan ⟨tree, waiting, running⟩ events ⟨after, waiting, []⟩ := by
  induction running generalizing tree with
  | nil => exact ⟨[], tree, .done _⟩
  | cons number rest ih =>
      obtain ⟨hnumber, hrest⟩ := List.forall_mem_cons.mp hjobs
      have hfirst : Step machine plan ⟨tree, waiting, number :: rest⟩ _
          ⟨_, waiting, (number :: rest).erase number⟩ :=
        .finish List.mem_cons_self (List.getElem?_eq_getElem hnumber) (hallows _ _ tree)
      rw [List.erase_cons_head] at hfirst
      obtain ⟨events, after, hrun⟩ := ih hrest _
      exact ⟨_ :: events, after, .step hfirst hrun⟩

/-- The attempt at a job is a part of a run where nothing else happens. -/
theorem exists_run_of_attempt (hallows : machine.Allows launch) {number : Nat} {job : Job}
    {waiting : List Nat} (waits : number ∈ waiting)
    (hjob : (Job.all plan)[number]? = some job) (tree : FileTree) : ∃ events,
      Run machine plan ⟨tree, waiting, []⟩ events
        ⟨(attempt launch plan job tree).1, waiting.erase number, []⟩ ∧
      attemptsOf events = [(number, (attempt launch plan job tree).2)] := by
  unfold attempt
  cases hparent : RunLists.makeParent job.output tree with
  | mk made result =>
      have hmade := makeParent_eq_iff.mp hparent
      cases result with
      | error fault =>
          exact ⟨[.refused number fault],
            .step (.refuse waits (workers_pos plan) hjob hmade) (.done _), rfl⟩
      | ok done =>
          have hended : Step machine plan ⟨made, waiting.erase number, [number]⟩ _
              ⟨_, waiting.erase number, [number].erase number⟩ :=
            .finish List.mem_cons_self hjob (hallows _ _ made)
          rw [List.erase_cons_head] at hended
          exact ⟨[.launched number, .ended number _],
            .step (.launch waits (workers_pos plan) hjob hmade) (.step hended (.done _)), rfl⟩

/-- One worker is enough for any order. -/
theorem exists_run_of_attemptAll (hallows : machine.Allows launch) {order waiting : List Nat}
    (h : order.Perm waiting) (hjobs : ∀ number ∈ order, number < (Job.all plan).length)
    (tree : FileTree) : ∃ events,
      Run machine plan ⟨tree, waiting, []⟩ events
        ⟨(attemptAll launch plan tree (queueOf plan order)).1, [], []⟩ ∧
      attemptsOf events = (attemptAll launch plan tree (queueOf plan order)).2 := by
  induction order generalizing waiting tree with
  | nil =>
      cases h.nil_eq
      exact ⟨[], .done _, rfl⟩
  | cons number rest ih =>
      obtain ⟨hwaits, hrest⟩ := List.cons_perm_iff_perm_erase.mp h
      obtain ⟨hnumber, hothers⟩ := List.forall_mem_cons.mp hjobs
      have hjob := List.getElem?_eq_getElem hnumber
      obtain ⟨events, hrun, hevents⟩ := exists_run_of_attempt hallows hwaits hjob tree
      obtain ⟨more, hmore, hmoreEvents⟩ := ih hrest hothers _
      rw [queueOf_cons hjob]
      refine ⟨events ++ more, hrun.append hmore, ?_⟩
      calc
        attemptsOf (events ++ more) = attemptsOf events ++ attemptsOf more :=
          List.filterMap_append
        _ = _ := by rw [hevents, hmoreEvents, attemptAll, List.singleton_append]

variable {tree : FileTree}

theorem Run.taken_of_initial (h : Run machine plan (.initial plan tree) events last) :
    (starts events ++ last.waiting).Perm (List.range (Job.all plan).length) ∧
      ((attemptsOf events).map Prod.fst ++ last.running).Perm (starts events) := by
  simpa [initial] using h.conserves

/-- However far a run has come, all jobs can be brought to their end from there. -/
theorem Run.exists_end (hends : machine.AlwaysEnds)
    (h : Run machine plan (.initial plan tree) events pool) :
    ∃ more after, Run machine plan pool more ⟨after, [], []⟩ := by
  obtain ⟨htaken, hrunning⟩ := h.taken_of_initial
  have hjobs : ∀ number ∈ starts events ++ pool.waiting, number < (Job.all plan).length :=
    fun number hnumber => List.mem_range.mp (htaken.mem_iff.mp hnumber)
  obtain ⟨launch, hallows⟩ := hends.exists_launcher
  obtain ⟨draining, idle, hidle⟩ := exists_run_to_idle hallows
    (fun number hnumber => hjobs number (List.mem_append_left _
      (hrunning.mem_iff.mp (List.mem_append_right _ hnumber)))) pool.tree pool.waiting
  obtain ⟨rest, hrest, -⟩ := exists_run_of_attemptAll hallows (.refl pool.waiting)
    (fun number hnumber => hjobs number (List.mem_append_right _ hnumber)) idle
  exact ⟨draining ++ rest, _, hidle.append hrest⟩

end Pool

namespace Schedule

variable {machine : Machine} {plan : SimulationPlan} {tree after : FileTree} {events : List Event}

theorem starts_perm (h : Schedule machine plan tree events after) :
    (starts events).Perm (List.range (Job.all plan).length) := by
  simpa using (Pool.Run.taken_of_initial h).1

theorem attempts_perm (h : Schedule machine plan tree events after) :
    ((attemptsOf events).map Prod.fst).Perm (List.range (Job.all plan).length) := by
  have htaken : ((attemptsOf events).map Prod.fst).Perm (starts events) := by
    simpa using (Pool.Run.taken_of_initial h).2
  exact htaken.trans h.starts_perm

end Schedule

end DramSweep.Simulation
