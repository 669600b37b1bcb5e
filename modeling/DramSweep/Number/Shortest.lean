import DramSweep.Number.Binary

/-!
The shortest decimal of a double: the fewest digits that read back as the same double, and of
those the nearest. A positive double `m · 2 ^ q` is read back from every number between the
midpoints to its two neighbours. For one digit, two digits, and so on, the two neighbours of the
value on that decimal grid are tried; the first grid with a hit gives the answer.
-/

namespace DramSweep.Number

/-- Which way an exact tie between two decimals goes. -/
inductive Tie where
  | toEven
  | up
  deriving Repr, DecidableEq

/-- A positive decimal `coefficient · 10 ^ exponent`, chosen to be written. -/
structure Shortest where
  coefficient : Nat
  exponent : Int
  deriving Repr, DecidableEq

namespace Shortest

/-- The factor `2 ^ q / 10 ^ e` as a fraction of natural numbers. -/
def unit (q e : Int) : Nat × Nat :=
  (Nat.pow 2 q.toNat * Nat.pow 10 (-e).toNat, Nat.pow 2 (-q).toNat * Nat.pow 10 e.toNat)

/-- Whether `c · 10 ^ e` reads back as `m · 2 ^ q`. Below a power of two the neighbour is half as
far away. The midpoints themselves go to the double with the even significand. -/
def readsBack (m : Nat) (q : Int) (c : Nat) (e : Int) : Bool :=
  let (num, den) := unit q e
  let below := if m = Nat.pow 2 storedBits ∧ leastExponent < q then 1 else 2
  let candidate := 4 * c * den
  let low := (4 * m - below) * num
  let high := (4 * m + 2) * num
  if m % 2 = 0 then low ≤ candidate && candidate ≤ high
  else low < candidate && candidate < high

/-- Whether `10 ^ e ≤ m · 2 ^ q`. -/
def powerLe (m : Nat) (q e : Int) : Bool :=
  let (num, den) := unit q e
  den ≤ m * num

/-- The place of the leading digit: the greatest `e` with `10 ^ e ≤ m · 2 ^ q`. It is estimated
from the binary length and then corrected by one step either way. -/
def leadingPlace (m : Nat) (q : Int) : Int :=
  let estimate := ((m.log2 : Int) + q) * 30103 / 100000
  if powerLe m q (estimate + 1) then estimate + 1
  else if powerLe m q estimate then estimate
  else estimate - 1

/-- The neighbour of `m · 2 ^ q` on the grid of multiples of `10 ^ e` that reads back. Of two the
nearer is taken. -/
def onGrid? (tie : Tie) (m : Nat) (q e : Int) : Option Nat :=
  let (num, den) := unit q e
  let floor := m * num / den
  let ceiling := floor + 1
  match readsBack m q floor e, readsBack m q ceiling e with
  | false, false => none
  | true, false => some floor
  | false, true => some ceiling
  | true, true =>
    match compare (2 * (m * num)) ((floor + ceiling) * den), tie with
    | .lt, _ => some floor
    | .gt, _ => some ceiling
    | .eq, .up => some ceiling
    | .eq, .toEven => some (if floor % 2 = 0 then floor else ceiling)

/-- Moves the trailing zeros of the coefficient into the exponent. Each step divides by ten, so
`fuel` need not exceed the number of digits. -/
def strip : Nat → Nat → Int → Shortest
  | 0, c, e => ⟨c, e⟩
  | fuel + 1, c, e => if c ≠ 0 ∧ c % 10 = 0 then strip fuel (c / 10) (e + 1) else ⟨c, e⟩

/-- Seventeen significant digits identify every double. -/
def maxDigits : Nat := 17

/-- The shortest decimal of the positive double `m · 2 ^ q`. -/
def ofBinary (tie : Tie) (m : Nat) (q : Int) : Shortest :=
  let place := leadingPlace m q
  let tried := (List.range maxDigits).findSome? fun (n : Nat) =>
    let e := place - n
    (onGrid? tie m q e).map fun c => strip maxDigits c e
  tried.getD ⟨m, q⟩

end Shortest

end DramSweep.Number
