/-!
Why a statistic cannot be given. Two of the causes are fatal: they break a promise of whoever
made the request, and the whole run stops where others would only leave a gap.
-/

namespace DramSweep

/-- The two reports that a speedup compares. -/
inductive Side where
  | alone
  | multicore
  deriving Repr, DecidableEq

/-- What the report is called in messages. -/
def Side.name : Side → String
  | .alone => "single-threaded"
  | .multicore => "multicore"

/-- A cause, with what it concerns. -/
inductive MetricError where
  /-- A report has no value for a metric that was asked for. -/
  | metricUnavailable (workload configuration metric : String)
  /-- The reference configuration is not among the listed ones; `listed` is their list in
  writing. -/
  | referenceNotListed (reference : String) (listed : String)
  /-- A report that a speedup needs has no usable instructions per cycle. -/
  | missingIpc (side : Side)
  /-- A multicore report came with the wrong number of reference reports. -/
  | referenceCount (references cores : Nat)
  | noReferenceReport (reference : String)
  | noReport (configuration : String)
  deriving Repr, DecidableEq

namespace MetricError

/-- Whether the error stops the whole run. -/
def isFatal : MetricError → Bool
  | .referenceCount .. | .noReferenceReport _ | .noReport _ => true
  | _ => false

def message : MetricError → String
  | .metricUnavailable workload configuration metric =>
    "metric `" ++ metric ++ "` is unavailable for configuration `" ++ configuration ++
      "` of workload `" ++ workload ++ "`"
  | .referenceNotListed reference listed =>
    "reference configuration `" ++ reference ++ "` is not in the configuration list " ++ listed
  | .missingIpc side => "the " ++ side.name ++ " report has no usable ipc"
  | .referenceCount .. => "the number of reference reports must equal the number of cores"
  | .noReferenceReport reference => "no report is held for the reference " ++ reference
  | .noReport configuration => "no report is held for the configuration " ++ configuration

end MetricError

end DramSweep
