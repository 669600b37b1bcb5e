import DramSweep.Number.Layout

/-!
JSON values and how they are printed. A number is either a natural number or a double; a double
is written with a point or an exponent, so the two never look alike, and one that is not finite
is written as null. Members of an object are kept in the order in which they are given.
-/

namespace DramSweep

inductive Json where
  | null
  | natural (n : Nat)
  | double (x : Float)
  | text (s : String)
  | array (items : List Json)
  | object (members : List (String × Json))

namespace Json

/-- The shortest digits, positionally for values from `0.00001` up to below `10 ^ 16`, and with a
signed exponent otherwise. -/
def doubleLayout : Number.Layout where
  positional := fun place => -5 ≤ place && place < 16
  pointZero := true
  tie := .toEven
  infinite := "null"
  signedInfinite := false
  undefined := "null"

/-- Four hexadecimal digits in lower case, for a number below `0x10000`. -/
def fourHex (n : Nat) : List Char :=
  let digits := Nat.toDigits 16 n
  List.replicate (4 - digits.length) '0' ++ digits

/-- A character inside a JSON string. Only the quote, the backslash and the characters below the
space are escaped. -/
def escapeChar (c : Char) : List Char :=
  if c = '"' then ['\\', '"']
  else if c = '\\' then ['\\', '\\']
  else if c = '\x08' then ['\\', 'b']
  else if c = '\x0c' then ['\\', 'f']
  else if c = '\n' then ['\\', 'n']
  else if c = '\r' then ['\\', 'r']
  else if c = '\t' then ['\\', 't']
  else if c.toNat < 0x20 then ['\\', 'u'] ++ fourHex c.toNat
  else [c]

def stringChars (s : String) : List Char :=
  '"' :: s.toList.flatMap escapeChar ++ ['"']

/-- The blanks in front of a line, two for each level. -/
def indent (level : Nat) : List Char :=
  List.replicate (2 * level) ' '

/-- Items between two brackets, one on each line. No item leaves the brackets side by side. -/
def bracketed (opening closing : Char) (level : Nat) (items : List (List Char)) : List Char :=
  match items with
  | [] => [opening, closing]
  | items =>
    let lines := items.map fun item => '\n' :: indent (level + 1) ++ item
    opening :: [','].intercalate lines ++ '\n' :: indent level ++ [closing]

mutual

/-- A value, printed over several lines at a level of indentation. -/
def chars (level : Nat) : Json → List Char
  | .null => "null".toList
  | .natural n => Nat.toDigits 10 n
  | .double x => (doubleLayout.render x).toList
  | .text s => stringChars s
  | .array items => bracketed '[' ']' level (itemChars (level + 1) items)
  | .object members => bracketed '\x7b' '\x7d' level (memberChars (level + 1) members)

/-- The items of an array, each printed at the same level. -/
def itemChars (level : Nat) : List Json → List (List Char)
  | [] => []
  | item :: rest => chars level item :: itemChars level rest

/-- The members of an object, each printed behind its name. -/
def memberChars (level : Nat) : List (String × Json) → List (List Char)
  | [] => []
  | (name, value) :: rest =>
    (stringChars name ++ ':' :: ' ' :: chars level value) :: memberChars level rest

end

/-- The text of a value, over several lines. -/
def pretty (value : Json) : String :=
  String.ofList (value.chars 0)

end Json

end DramSweep
