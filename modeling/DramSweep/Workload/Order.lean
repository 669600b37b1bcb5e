import DramSweep.Workload.Basic

/-!
The order of workloads: heavier memory load first, workloads without a known load last. The sort
is stable. It inserts one workload after the other from the back, past those that it strictly
precedes. While no load is undefined this is what any stable sort makes of any number of workloads.
An undefined load compares with no other, and then it matters how the sort goes about it: a few
workloads are inserted as here, but the order of more than `insertionLimit` is left open.
-/

namespace DramSweep.Workload

/-- Whether a load strictly precedes another. An undefined load precedes nothing and is preceded
by nothing but absence. -/
def precedes : Option Float → Option Float → Bool
  | some a, some b => b < a
  | some _, none => true
  | none, _ => false

/-- The load that a workload is ordered by, absent when it has no reference report. -/
def load? (workload : Workload) : Option Float :=
  workload.memoryLoad.toOption.join

/-- Inserts an element into a list that is sorted from the back to the front. -/
def insertFromBack {α : Type} (before : α → α → Bool) (x : α) : List α → List α
  | [] => [x]
  | y :: rest => if before x y then y :: insertFromBack before x rest else x :: y :: rest

/-- So many elements are inserted one after the other, whatever they are compared by. With more of
them the order is certain only where the comparison is consistent. -/
def insertionLimit : Nat := 20

/-- The elements in order, equal ones as they come. Where the comparison is not consistent, this
stands for lists up to the limit only. -/
def stableSort {α : Type} (before : α → α → Bool) (xs : List α) : List α :=
  (xs.foldl (fun sorted x => insertFromBack before x sorted) []).reverse

/-- Heavier workloads first. More than `insertionLimit` of them may come in another order if some
load is undefined. -/
def heaviestFirst (workloads : List Workload) : List Workload :=
  stableSort (fun a b => precedes a.load? b.load?) workloads

end DramSweep.Workload
