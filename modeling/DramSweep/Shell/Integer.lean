/-!
The integers of a shell: 64 bits with a sign. Reading one takes as much of a text as spells it,
and sums and products wrap.
-/

namespace DramSweep.Shell.Integer

/-- The number of integers, `2 ^ 64`. -/
def modulus : Nat := 18446744073709551616

def greatest : Int := 9223372036854775807

def least : Int := -9223372036854775808

/-- The integer that agrees with a number up to a multiple of the modulus. -/
def wrap (n : Int) : Int :=
  n.bmod modulus

/-- The value of a digit of bases up to sixteen. -/
def digit? (c : Char) : Option Nat :=
  if c.isDigit then some (c.toNat - '0'.toNat)
  else if 'a' ≤ c ∧ c ≤ 'f' then some (c.toNat - 'a'.toNat + 10)
  else if 'A' ≤ c ∧ c ≤ 'F' then some (c.toNat - 'A'.toNat + 10)
  else none

/-- The longest run of digits of a base: its number, whether it has a digit, and the rest. -/
def digits (base : Nat) (text : List Char) : Nat × Bool × List Char :=
  let isMember := fun c => (digit? c).any (· < base)
  let run := text.takeWhile isMember
  (run.foldl (fun n c => base * n + (digit? c).getD 0) 0, !run.isEmpty, text.dropWhile isMember)

/-- What was read off the front of a text. -/
structure Reading where
  value : Int
  isPresent : Bool
  /-- Whether it lies beyond the integers; the nearest one stands for it. -/
  isBeyond : Bool := false
  rest : List Char
  deriving Repr, DecidableEq

/-- Whether a character is passed over in front of a number. -/
def isSpace (c : Char) : Bool :=
  c = ' ' || ('\t' ≤ c && c ≤ '\r')

/-- Reads a number. With `prefixes` a leading zero makes it octal, and one with an `x`
hexadecimal. -/
def read (prefixes : Bool) (text : List Char) : Reading :=
  let start := text.dropWhile isSpace
  let (negative, body) := match start with
    | '-' :: rest => (true, rest)
    | '+' :: rest => (false, rest)
    | rest => (false, rest)
  let (magnitude, isPresent, rest) := match prefixes, body with
    | true, '0' :: x :: c :: rest =>
      if (x = 'x' || x = 'X') && (digit? c).isSome then digits 16 (c :: rest) else digits 8 body
    | true, '0' :: _ => digits 8 body
    | _, _ => digits 10 body
  if !isPresent then { value := 0, isPresent, rest := text }
  else
    let value : Int := if negative then -magnitude else magnitude
    if greatest < value then { value := greatest, isPresent, isBeyond := true, rest }
    else if value < least then { value := least, isPresent, isBeyond := true, rest }
    else { value, isPresent, rest }

/-- The number that a whole text spells, with space around it. -/
def ofText? (prefixes : Bool) (text : String) : Option Int :=
  let reading := read prefixes text.toList
  if reading.isBeyond || !(reading.rest.dropWhile isSpace).isEmpty then none
  else if reading.isPresent || prefixes then some reading.value
  else none

/-- A number that a whole text spells with digits alone. -/
def count? (text : String) : Option Nat :=
  if text.isEmpty || !text.toList.all Char.isDigit then none
  else some (digits 10 text.toList).1

end DramSweep.Shell.Integer
