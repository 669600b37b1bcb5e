import DramSweep.Number.Reading
import DramSweep.Toml.Scan
import DramSweep.Toml.Table

/-!
Numbers in a document. Underscores may stand between digits; an integer has no leading zeros
unless it is in base sixteen, eight or two; it must fit into 64 bits, and a float must be finite
unless it is written as a word.
-/

namespace DramSweep.Toml

def digitIn? (base : Nat) (c : Char) : Option Nat :=
  let value? :=
    if c.isDigit then some (c.toNat - '0'.toNat)
    else if 'a' ≤ c ∧ c ≤ 'f' then some (c.toNat - 'a'.toNat + 10)
    else if 'A' ≤ c ∧ c ≤ 'F' then some (c.toNat - 'A'.toNat + 10)
    else none
  value?.filter (· < base)

/-- Whether a run of digits and underscores is well formed: an underscore stands between two
digits. -/
def isGrouped : List Char → Bool
  | [] => false
  | ['_'] => false
  | '_' :: _ => false
  | [_] => true
  | _ :: '_' :: rest => isGrouped rest
  | _ :: rest => isGrouped rest

/-- The leading digits of a text, grouped by underscores, and what follows them. -/
def splitDigits? (base : Nat) (leadingZeros : Bool) (text : List Char) :
    Option (List Char × List Char) :=
  let isMember (c : Char) : Bool := (digitIn? base c).isSome || c = '_'
  let digits := text.takeWhile isMember
  let plain := digits.filter (· ≠ '_')
  if !isGrouped digits then none
  else if !leadingZeros && plain.head? = some '0' && plain.length ≠ 1 then none
  else some (plain, text.dropWhile isMember)

def splitSigned? (text : List Char) (leadingZeros : Bool) :
    Option (Bool × List Char × List Char) :=
  let (negative, digits) := Number.splitSign text
  (splitDigits? 10 leadingZeros digits).map fun (digits, rest) => (negative, digits, rest)

def ofDigitsIn (base : Nat) (digits : List Char) : Nat :=
  digits.foldl (fun n c => base * n + (digitIn? base c).getD 0) 0

/-- The magnitude of the least integer of 64 bits, `2 ^ 63`. -/
def integerBound : Nat := 9223372036854775808

/-- An integer that fits into 64 bits. -/
def boundedInteger? (negative : Bool) (n : Nat) : Option Toml :=
  if negative then if n ≤ integerBound then some (.integer (-n)) else none
  else if n < integerBound then some (.integer n) else none

def decimalInteger? (text : List Char) : Option Toml :=
  (splitSigned? text false).bind fun (negative, digits, rest) =>
    if rest = [] then boundedInteger? negative (ofDigitsIn 10 digits) else none

def basedInteger? (base : Nat) (text : List Char) : Option Toml :=
  (splitDigits? base true text).bind fun (digits, rest) =>
    if rest = [] then boundedInteger? false (ofDigitsIn base digits) else none

def finite? (negative : Bool) (decimal : Number.Decimal) : Option Toml :=
  let x := decimal.toFloat
  if x.isFinite then some (.real (if negative then -x else x)) else none

namespace Scan

/-- The exponent of a float, from its mark on. The mark may be the end of the run, and a plus sign
and the digits come after it. -/
def exponent (suffix : List Char) : Scan Int := do
  match suffix with
  | [] => return 0
  | mark :: text =>
    if mark ≠ 'e' ∧ mark ≠ 'E' then failure
    let parsed? ← if text = [] then do
        let _ ← accept '+'
        let digits ← takeSome isBare
        pure ((splitDigits? 10 true digits).map fun (digits, rest) => (false, digits, rest))
      else pure (splitSigned? text true)
    match parsed? with
    | some (negative, digits, []) =>
      let n : Int := Number.ofDigits digits
      return if negative then -n else n
    | _ => failure

/-- A float: its run of characters, and the run behind the point if there is one. -/
def float (text : List Char) (fraction? : Option (List Char)) : Scan Toml := do
  let some (negative, whole, suffix) := splitSigned? text false | failure
  let (fraction, suffix) ← match fraction? with
    | none => pure ([], suffix)
    | some run =>
      if suffix ≠ [] then failure
      match splitDigits? 10 true run with
      | some parts => pure parts
      | none => failure
  let exponent ← exponent suffix
  let decimal : Number.Decimal :=
    { coefficient := Number.ofDigits (whole ++ fraction), exponent := exponent - fraction.length }
  match finite? negative decimal with
  | some value => return value
  | none => failure

def number (text : List Char) : Scan Toml := do
  let lift (value? : Option Toml) : Scan Toml :=
    match value? with
    | some value => return value
    | none => failure
  match text with
  | '0' :: 'x' :: digits => lift (basedInteger? 16 digits)
  | '0' :: 'o' :: digits => lift (basedInteger? 8 digits)
  | '0' :: 'b' :: digits => lift (basedInteger? 2 digits)
  | _ =>
    if text.contains 'e' || text.contains 'E' then float text none
    else if ← accept '.' then float text (some (← takeSome isBare))
    else if text = "inf".toList then return .real (1 / 0)
    else if text = "-inf".toList then return .real (-(1 / 0))
    else if text = "nan".toList ∨ text = "-nan".toList then return .real (0 / 0)
    else lift (decimalInteger? text)

end Scan

end DramSweep.Toml
