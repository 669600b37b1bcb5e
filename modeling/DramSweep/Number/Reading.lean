/-!
Reading numbers. A value is a decimal with an optional sign, point and exponent, or one of the
words for infinity and for the undefined value in any case; it is rounded once, to the nearest
double. An index is a natural number below `2 ^ 64`, with an optional plus sign.
-/

namespace DramSweep.Number

/-- The value of a digit, `0` to `9`. -/
def digitValue (c : Char) : Nat :=
  c.toNat - '0'.toNat

/-- The number that a run of decimal digits denotes, most significant digit first. -/
def ofDigits (digits : List Char) : Nat :=
  digits.foldl (fun n c => 10 * n + digitValue c) 0

/-- A non-negative decimal `coefficient · 10 ^ exponent`. -/
structure Decimal where
  coefficient : Nat
  exponent : Int
  deriving Repr, DecidableEq

namespace Decimal

/-- Decimals whose leading digit stands at or beyond this place exceed every double. -/
def overflowPlace : Int := 400

/-- Decimals whose leading digit stands at or below this place are closer to zero than to the
least positive double. -/
def underflowPlace : Int := -400

/-- The nearest double. The two bounds spare the computation of powers that cannot matter. -/
def toFloat (d : Decimal) : Float :=
  let place := d.exponent + (Nat.toDigits 10 d.coefficient).length
  if d.coefficient = 0 ∨ place ≤ underflowPlace then 0
  else if overflowPlace ≤ place then 1 / 0
  else Float.ofScientific d.coefficient (d.exponent < 0) d.exponent.natAbs

end Decimal

/-- What may follow the sign of a value. -/
inductive Magnitude where
  | undefined
  | infinite
  | finite (decimal : Decimal)
  deriving Repr, DecidableEq

def Magnitude.toFloat : Magnitude → Float
  | .undefined => 0 / 0
  | .infinite => 1 / 0
  | .finite decimal => decimal.toFloat

/-- The sign in front, as `true` for minus, and the rest. -/
def splitSign : List Char → Bool × List Char
  | '-' :: rest => (true, rest)
  | '+' :: rest => (false, rest)
  | text => (false, text)

/-- An exponent mark with an optional sign and at least one digit, or nothing at all. -/
def readExponent? : List Char → Option Int
  | [] => some 0
  | mark :: rest =>
    let (negative, digits) := splitSign rest
    if (mark = 'e' ∨ mark = 'E') ∧ digits ≠ [] ∧ digits.all Char.isDigit then
      some (if negative then -(ofDigits digits : Int) else ofDigits digits)
    else none

/-- Digits with an optional point among or beside them, then an optional exponent. -/
def readDecimal? (text : List Char) : Option Decimal :=
  let whole := text.takeWhile Char.isDigit
  let (fraction, rest) :=
    match text.dropWhile Char.isDigit with
    | '.' :: rest => (rest.takeWhile Char.isDigit, rest.dropWhile Char.isDigit)
    | rest => ([], rest)
  if whole ++ fraction = [] then none
  else (readExponent? rest).map fun exponent =>
    { coefficient := ofDigits (whole ++ fraction), exponent := exponent - fraction.length }

/-- A magnitude: one of the words `inf`, `infinity` and `nan`, or a decimal. -/
def readMagnitude? (text : List Char) : Option Magnitude :=
  let word := text.map Char.toLower
  if word = "nan".toList then some .undefined
  else if word = "inf".toList ∨ word = "infinity".toList then some .infinite
  else (readDecimal? text).map .finite

def readFloat? (text : List Char) : Option Float :=
  let (negative, rest) := splitSign text
  (readMagnitude? rest).map fun magnitude =>
    if negative then -magnitude.toFloat else magnitude.toFloat

/-- One more than the greatest index, `2 ^ 64`. -/
def indexBound : Nat := 18446744073709551616

/-- The index that a text denotes. A number that does not fit is refused; nothing wraps. -/
def readIndex? (text : List Char) : Option Nat :=
  let digits := match text with
    | '+' :: rest => rest
    | text => text
  if digits ≠ [] ∧ digits.all Char.isDigit ∧ ofDigits digits < indexBound then
    some (ofDigits digits)
  else none

end DramSweep.Number
