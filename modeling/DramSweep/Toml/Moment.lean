import DramSweep.Number.Reading
import DramSweep.Toml.Scan
import DramSweep.Toml.Table

/-!
Dates and times. A moment is a time, a date, or a date and a time with an optional offset; it is
kept as a text in canonical form, with a `T` between date and time and no trailing zeros in the
fraction.
-/

namespace DramSweep.Toml

/-- A number of exactly so many digits. -/
def Scan.digits (count : Nat) : Scan Nat := do
  let text ← get
  let taken := text.take count
  if taken.length ≠ count ∨ !taken.all Char.isDigit then failure
  set (text.drop count)
  return Number.ofDigits taken

/-- A number with leading zeros to a width. -/
def padded (width n : Nat) : String :=
  let digits := Nat.toDigits 10 n
  String.ofList (List.replicate (width - digits.length) '0' ++ digits)

namespace Scan

def twoDigits (least greatest : Nat) : Scan Nat := do
  let n ← digits 2
  if n < least ∨ greatest < n then failure
  return n

def date : Scan String := do
  let year ← digits 4
  expect '-'
  let month ← twoDigits 1 12
  expect '-'
  let day ← twoDigits 1 31
  return padded 4 year ++ "-" ++ padded 2 month ++ "-" ++ padded 2 day

def fractionDigits : Nat := 9

/-- A fraction of a second, in canonical form with its point. -/
def fraction : Scan String := do
  if !(← accept '.') then return ""
  let digits ← takeSome Char.isDigit
  let kept := ((digits.take fractionDigits).reverse.dropWhile (· = '0')).reverse
  return if kept = [] then "" else String.ofList ('.' :: kept)

def time : Scan String := do
  let hour ← twoDigits 0 24
  expect ':'
  let minute ← twoDigits 0 59
  expect ':'
  let second ← twoDigits 0 59
  return padded 2 hour ++ ":" ++ padded 2 minute ++ ":" ++ padded 2 second ++ (← fraction)

/-- An offset, in canonical form. An offset of no hours has a plus sign. -/
def offset : Scan String := do
  match ← peek with
  | none => return ""
  | some c =>
    let _ ← next
    if c = 'Z' ∨ c = 'z' then return "Z"
    if c ≠ '+' ∧ c ≠ '-' then failure
    let hours ← digits 2
    expect ':'
    let minutes ← digits 2
    let sign := if c = '-' ∧ hours ≠ 0 then "-" else "+"
    return sign ++ padded 2 hours ++ ":" ++ padded 2 minutes

/-- What stands between a date and a time. -/
def timeMark : Scan Bool := do
  match ← get with
  | c :: rest =>
    if c = 'T' ∨ c = 't' ∨ c = ' ' then set rest; return true else return false
  | [] => return false

def moment : Scan String := do
  if (← get)[2]? = some ':' then time
  else
    let date ← date
    if ← timeMark then
      let time ← time
      return date ++ "T" ++ time ++ (← offset)
    else return date

/-- The canonical form of the moment that a whole text spells. -/
def moment? (text : List Char) : Option String :=
  match moment text with
  | some (result, []) => some result
  | _ => none

/-- Takes a sign if it is next, and then a run of characters that must follow it. -/
def signedRun (sign : Char) : Scan (List Char) := do
  if ← accept sign then return sign :: (← takeSome isBare)
  return []

/-- The text of a moment that begins with the given run of characters: one space and a time may
follow a date, and colons, a fraction and an offset a time. -/
def momentText (first : List Char) (colon : Bool) : Scan (List Char) := do
  let hour ← match ← get with
    | ' ' :: c :: rest =>
      if isBare c then
        set (c :: rest)
        pure (' ' :: (← takeRun isBare))
      else pure []
    | _ => pure []
  if !colon then
    if !(← accept ':') then return first ++ hour
  let minutes ← takeSome isBare
  expect ':'
  let seconds ← takeSome isBare
  let fraction ← signedRun '.'
  let plus ← signedRun '+'
  let offset ← signedRun ':'
  let start := if colon then first ++ ':' :: hour else first ++ hour ++ [':']
  return start ++ minutes ++ ':' :: seconds ++ fraction ++ plus ++ offset

def momentFrom (first : List Char) (colon : Bool) : Scan Toml := do
  match moment? (← momentText first colon) with
  | some text => return .moment text
  | none => failure

/-- Whether a run of characters holds an exponent mark with a minus sign. -/
def hasNegativeExponent : List Char → Bool
  | 'e' :: '-' :: _ | 'E' :: '-' :: _ => true
  | _ :: rest => hasNegativeExponent rest
  | [] => false

def beginsDate (run : List Char) : Bool :=
  run.contains 'T' || run.contains 't' || (run.tail.contains '-' && !hasNegativeExponent run)

end Scan

end DramSweep.Toml
