import DramSweep.Simulation.Job
import DramSweep.Simulation.RunLists

/-!
Running the simulator for every job. A launcher stands for the machine: it is given a command and
the files and says how the command ended. A job that cannot be launched or does not succeed keeps
none of the others from running. Jobs may be attempted in any order; the lists of finished and
failed jobs are in the order of the jobs.
-/

namespace DramSweep

/-- How a command ended. -/
inductive Exit where
  | success
  | failure
  | notStarted
  deriving Repr, DecidableEq

/-- Runs a program with arguments over the files. -/
abbrev Launcher := String → List String → FileTree → FileTree × Exit

/-- How the attempt at a job ended. -/
inductive Attempt where
  | noDirectory (fault : Fault)
  | exited (exit : Exit)
  deriving Repr, DecidableEq

def Attempt.succeeded (attempt : Attempt) : Bool :=
  attempt = .exited .success

namespace Simulation

/-- Makes the directory of the job's report and launches the simulator. -/
def attempt (launch : Launcher) (plan : SimulationPlan) (job : Job)
    (tree : FileTree) : FileTree × Attempt :=
  match RunLists.makeParent job.output tree with
  | (tree, .error fault) => (tree, .noDirectory fault)
  | (tree, .ok ()) =>
    let (tree, exit) := launch plan.simulator.text (job.arguments plan) tree
    (tree, .exited exit)

/-- Attempts jobs one after the other, each under the number that it goes by. -/
def attemptAll (launch : Launcher) (plan : SimulationPlan) (tree : FileTree) :
    List (Nat × Job) → FileTree × List (Nat × Attempt)
  | [] => (tree, [])
  | (number, job) :: rest =>
    let (tree, ended) := attempt launch plan job tree
    let (tree, others) := attemptAll launch plan tree rest
    (tree, (number, ended) :: others)

/-- Every job of the queue is attempted once, whatever becomes of the others. -/
theorem numbers_attemptAll (launch : Launcher) (plan : SimulationPlan) (tree : FileTree)
    (queue : List (Nat × Job)) :
    (attemptAll launch plan tree queue).2.map Prod.fst = queue.map Prod.fst := by
  induction queue generalizing tree with
  | nil => rfl
  | cons head rest ih => simp [attemptAll, ih]

def finished (attempts : List (Nat × Attempt)) (number : Nat) : Bool :=
  (attempts.lookup number).any Attempt.succeeded

/-- The jobs that finished and those that did not, both in the order of the jobs. -/
def divide (jobs : List Job) (attempts : List (Nat × Attempt)) :
    List Job × List Job :=
  let (ok, err) := jobs.zipIdx.partition fun (_, number) => finished attempts number
  (ok.map Prod.fst, err.map Prod.fst)

structure Lists where
  finished : List Job
  failed : List Job
  deriving Repr, DecidableEq

/-- The jobs whose numbers `order` names, with these numbers. -/
def queueOf (plan : SimulationPlan) (order : List Nat) : List (Nat × Job) :=
  let jobs := Job.all plan
  order.filterMap fun number => jobs[number]?.map (number, ·)

/-- What follows the attempts: the jobs are divided by how they ended, and both lists are saved. -/
def conclude (plan : SimulationPlan) (attempts : List (Nat × Attempt)) (tree : FileTree) :
    FileTree × Except RunListError Lists :=
  let (finished, failed) := divide (Job.all plan) attempts
  match RunLists.save (finished.map Job.toJson) (failed.map Job.toJson)
      plan.resultFile tree with
  | (tree, .error e) => (tree, .error e)
  | (tree, .ok ()) => (tree, .ok { finished, failed })

/-- Attempts all jobs in the order in which `order` names their numbers, and saves the lists of
finished and failed jobs. -/
def runInOrder (launch : Launcher) (plan : SimulationPlan) (order : List Nat)
    (tree : FileTree) : FileTree × Except RunListError Lists :=
  let (tree, attempts) := attemptAll launch plan tree (queueOf plan order)
  conclude plan attempts tree

/-- Attempts all jobs, the first one first. -/
def run (launch : Launcher) (plan : SimulationPlan) (tree : FileTree) :
    FileTree × Except RunListError Lists :=
  runInOrder launch plan (List.range (Job.all plan).length) tree

end Simulation

end DramSweep
