import DramSweep.Number.Binary

/-!
The values of metrics: a single number, or one for each core.
-/

namespace DramSweep

/-- The value of a metric. -/
inductive Quantity where
  | single (value : Float)
  | perCore (values : List Float)

namespace Quantity

/-- The value in one table cell: values of the cores count as their sum. -/
def total : Quantity → Float
  | .single value => value
  | .perCore values => Number.sum values

def perCore? : Quantity → Option (List Float)
  | .single _ => none
  | .perCore values => some values

/-- What other values of the same metric are divided by: a single number itself, or the value of the
first core. -/
def divisor? : Quantity → Option Float
  | .single value => some value
  | .perCore values => values.head?

/-- Every part of the value divided by the same double. -/
def divideBy (divisor : Float) : Quantity → Quantity
  | .single value => .single (value / divisor)
  | .perCore values => .perCore (values.map (· / divisor))

@[simp] theorem total_single (value : Float) : (single value).total = value := rfl

@[simp] theorem divisor?_perCore_nil : (perCore []).divisor? = none := rfl

end Quantity

end DramSweep
