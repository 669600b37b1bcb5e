/-!
A double as an exact number: its class, and for a finite one the integer significand and the
power of two that make up its value.
-/

namespace DramSweep.Number

/-- What a double is. A finite one is `±significand · 2 ^ exponent`. -/
inductive Class where
  | undefined
  | infinite (negative : Bool)
  | finite (negative : Bool) (significand : Nat) (exponent : Int)
  deriving Repr, DecidableEq

def storedBits : Nat := 52

def leastExponent : Int := -1074

/-- Reads the sign, the exponent field and the stored significand off the bits. A zero exponent
field marks the doubles without the implicit leading bit. -/
def classify (x : Float) : Class :=
  let bits := x.toBits.toNat
  let negative := bits / Nat.pow 2 63 == 1
  let field : Nat := bits / Nat.pow 2 storedBits % Nat.pow 2 11
  let stored := bits % Nat.pow 2 storedBits
  if field = 2047 then
    if stored = 0 then .infinite negative else .undefined
  else if field = 0 then .finite negative stored leastExponent
  else .finite negative (Nat.pow 2 storedBits + stored) (leastExponent + field - 1)

/-- The sum of a list from left to right. It starts from negative zero, the one double that
changes no other when it is added, so an empty sum is negative zero. -/
def sum (values : List Float) : Float :=
  values.foldl (· + ·) (-0.0)

theorem sum_nil : sum [] = -0.0 := rfl

/-- One more value at the end is added last. -/
theorem sum_concat (values : List Float) (last : Float) :
    sum (values ++ [last]) = sum values + last := by
  simp [sum]

/-- The larger of two doubles, and the other one where one is undefined. Equal doubles differ in the
sign of a zero at most. A maximum of doubles leaves open which of them it is; here the second is
taken. -/
def larger (a b : Float) : Float :=
  if b.isNaN || b < a then a else b

end DramSweep.Number
