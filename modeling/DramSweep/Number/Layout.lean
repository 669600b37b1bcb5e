import DramSweep.Number.Shortest

/-!
How a double is written. A layout says where positional notation ends, whether an integral value
keeps a point, and which way ties between shortest decimals go; `render` lays out the shortest
decimal accordingly. `fixed` writes a set number of places instead.
-/

namespace DramSweep.Number

/-- The decisions of a number format. -/
structure Layout where
  /-- Whether a value with its leading digit at this place is written positionally. -/
  positional : Int → Bool
  /-- Whether an integral value is written with `.0`. -/
  pointZero : Bool
  /-- Which of two equally near shortest decimals is written. -/
  tie : Tie
  infinite : String
  signedInfinite : Bool
  undefined : String

namespace Layout

def zeros (count : Nat) : String :=
  String.ofList (List.replicate count '0')

/-- Digits with the point `places` digits from the right, where `places` is at least one. -/
def withPoint (digits : List Char) (places : Nat) : String :=
  let padded := List.replicate (places + 1 - digits.length) '0' ++ digits
  let whole := padded.take (padded.length - places)
  let fraction := padded.drop (padded.length - places)
  String.ofList whole ++ "." ++ String.ofList fraction

/-- A signed exponent, at least one digit wide. -/
def exponentText (e : Int) : String :=
  (if e < 0 then "e-" else "e+") ++ Nat.repr e.natAbs

/-- Lays out a positive decimal. -/
def decimal (layout : Layout) (d : Shortest) : String :=
  let digits := Nat.toDigits 10 d.coefficient
  let place := d.exponent + digits.length - 1
  if layout.positional place then
    if 0 ≤ d.exponent then
      String.ofList digits ++ zeros d.exponent.toNat ++ (if layout.pointZero then ".0" else "")
    else withPoint digits (-d.exponent).toNat
  else
    let mantissa := if digits.length = 1 then String.ofList digits
      else withPoint digits (digits.length - 1)
    mantissa ++ exponentText place

def sign (negative : Bool) : String :=
  if negative then "-" else ""

def render (layout : Layout) (x : Float) : String :=
  match classify x with
  | .undefined => layout.undefined
  | .infinite negative => sign (negative && layout.signedInfinite) ++ layout.infinite
  | .finite negative 0 _ => sign negative ++ (if layout.pointZero then "0.0" else "0")
  | .finite negative m q => sign negative ++ layout.decimal (Shortest.ofBinary layout.tie m q)

/-- The plain form: positional throughout, with a point only where there is a fraction. -/
def plain : Layout where
  positional := fun _ => true
  pointZero := false
  tie := .up
  infinite := "inf"
  signedInfinite := true
  undefined := "NaN"

end Layout

/-- A quotient rounded to the nearest integer, a half to the even one. -/
def roundDiv (num den : Nat) : Nat :=
  let quotient := num / den
  match compare (2 * (num % den)) den with
  | .lt => quotient
  | .gt => quotient + 1
  | .eq => if quotient % 2 = 0 then quotient else quotient + 1

/-- A double with `places` decimal places, at least one: the exact value is rounded once, a half
goes to the even neighbour, and a negative zero keeps its sign. -/
def fixed (places : Nat) (x : Float) : String :=
  match classify x with
  | .undefined => "NaN"
  | .infinite negative => Layout.sign negative ++ "inf"
  | .finite negative m q =>
    let (num, den) := Shortest.unit q (-places)
    Layout.sign negative ++ Layout.withPoint (Nat.toDigits 10 (roundDiv (m * num) den)) places

end DramSweep.Number
