import DramSweep.Simulation.Run

/-!
Jobs on a pool of workers, as a relation between what was and what may come next. A worker that is
free takes a job that waits: it makes the directory of the job's report and launches the simulator.
Simulators run side by side, may change the files while they run, and end in any order.
-/

namespace DramSweep.Simulation

/-- How commands go: what a command may write while it runs, and how it may end. -/
structure Machine where
  writes : (program : String) → (arguments : List String) → (before after : FileTree) → Prop
  ends : (program : String) → (arguments : List String) → (before after : FileTree) → Exit → Prop

/-- The machine where a command does all its work at once, as the launcher has it. -/
def Machine.ofLauncher (launch : Launcher) : Machine where
  writes _ _ _ _ := False
  ends program arguments before after exit := launch program arguments before = (after, exit)

/-- How the directory of a file is made: all that is missing of it, unless the path leads to none. -/
inductive MakesParent (file : Path) (before : FileTree) : FileTree → Except Fault Unit → Prop
  | create {parent : Path} {after : FileTree} {result : Except Fault Unit}
      (hparent : file.parent? = some parent)
      (created : before.createDirectories parent = (after, result)) :
      MakesParent file before after result
  | none (hparent : file.parent? = none) : MakesParent file before before (.ok ())

/-- How many jobs run at the same time at most. No number given for it stops all of them. -/
def workers (plan : SimulationPlan) : Nat :=
  max plan.parallel 1

/-- What happens on a pool, with the number of the job that it happens to. -/
inductive Event where
  | refused (number : Nat) (fault : Fault)
  | launched (number : Nat)
  | wrote (number : Nat)
  | ended (number : Nat) (exit : Exit)
  deriving Repr, DecidableEq

/-- The job that an event takes from those that wait. -/
def Event.start? : Event → Option Nat
  | .refused number _ | .launched number => some number
  | .wrote _ | .ended _ _ => none

/-- The attempt that an event ends. -/
def Event.attempt? : Event → Option (Nat × Attempt)
  | .refused number fault => some (number, .noDirectory fault)
  | .ended number exit => some (number, .exited exit)
  | .launched _ | .wrote _ => none

/-- The numbers of the jobs in the order in which they were taken. -/
def starts (events : List Event) : List Nat :=
  events.filterMap Event.start?

/-- How the jobs ended, in the order in which they did. -/
def attemptsOf (events : List Event) : List (Nat × Attempt) :=
  events.filterMap Event.attempt?

/-- The files, the jobs that nobody has taken yet, and those that run. -/
structure Pool where
  tree : FileTree
  waiting : List Nat
  running : List Nat

/-- At first all jobs of a plan wait. -/
def Pool.initial (plan : SimulationPlan) (tree : FileTree) : Pool :=
  ⟨tree, List.range (Job.all plan).length, []⟩

namespace Pool

variable (machine : Machine) (plan : SimulationPlan)

/-- A job that has no directory for its report is over at once, any other one when its simulator is.
How a job ends makes no difference to what the others may do. -/
inductive Step : Pool → Event → Pool → Prop
  | refuse {pool : Pool} {number : Nat} {job : Job} {after : FileTree} {fault : Fault}
      (waits : number ∈ pool.waiting) (free : pool.running.length < workers plan)
      (hjob : (Job.all plan)[number]? = some job)
      (unmade : MakesParent job.output pool.tree after (.error fault)) :
      Step pool (.refused number fault) ⟨after, pool.waiting.erase number, pool.running⟩
  | launch {pool : Pool} {number : Nat} {job : Job} {after : FileTree}
      (waits : number ∈ pool.waiting) (free : pool.running.length < workers plan)
      (hjob : (Job.all plan)[number]? = some job)
      (made : MakesParent job.output pool.tree after (.ok ())) :
      Step pool (.launched number) ⟨after, pool.waiting.erase number, number :: pool.running⟩
  | write {pool : Pool} {number : Nat} {job : Job} {after : FileTree}
      (runs : number ∈ pool.running) (hjob : (Job.all plan)[number]? = some job)
      (wrote : machine.writes plan.simulator.text (job.arguments plan) pool.tree after) :
      Step pool (.wrote number) ⟨after, pool.waiting, pool.running⟩
  | finish {pool : Pool} {number : Nat} {job : Job} {after : FileTree} {exit : Exit}
      (runs : number ∈ pool.running) (hjob : (Job.all plan)[number]? = some job)
      (ended : machine.ends plan.simulator.text (job.arguments plan) pool.tree after exit) :
      Step pool (.ended number exit) ⟨after, pool.waiting, pool.running.erase number⟩

inductive Run : Pool → List Event → Pool → Prop
  | done (pool : Pool) : Run pool [] pool
  | step {pool next last : Pool} {event : Event} {events : List Event}
      (first : Step machine plan pool event next) (rest : Run next events last) :
      Run pool (event :: events) last

end Pool

/-- All jobs of a plan are brought to their end on a pool. -/
def Schedule (machine : Machine) (plan : SimulationPlan) (tree : FileTree) (events : List Event)
    (after : FileTree) : Prop :=
  Pool.Run machine plan (.initial plan tree) events ⟨after, [], []⟩

end DramSweep.Simulation
