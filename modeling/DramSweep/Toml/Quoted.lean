import DramSweep.Toml.Scan

/-!
Quoted strings. Basic strings know escapes and literal strings do not; both may run over several
lines when they are opened by three quotes.
-/

namespace DramSweep.Toml

namespace Scan

def hexValue? (c : Char) : Option Nat :=
  if c.isDigit then some (c.toNat - '0'.toNat)
  else if 'a' ≤ c ∧ c ≤ 'f' then some (c.toNat - 'a'.toNat + 10)
  else if 'A' ≤ c ∧ c ≤ 'F' then some (c.toNat - 'A'.toNat + 10)
  else none

def hexNumber : Nat → Nat → Scan Nat
  | 0, n => return n
  | digits + 1, n => do
    match hexValue? (← next) with
    | some digit => hexNumber digits (16 * n + digit)
    | none => failure

def hexChar (digits : Nat) : Scan (List Char) := do
  let n ← hexNumber digits 0
  if n.isValidChar then return [Char.ofNat n] else failure

/-- What an escape stands for, behind its backslash. In a string of several lines a backslash at
the end of a line takes away the blanks and line ends that follow. -/
def escape (multiline : Bool) : Scan (List Char) := do
  match ← next with
  | '"' => return ['"']
  | '\\' => return ['\\']
  | 'b' => return ['\x08']
  | 'f' => return ['\x0c']
  | 'n' => return ['\n']
  | 'r' => return ['\r']
  | 't' => return ['\t']
  | 'u' => hexChar 4
  | 'U' => hexChar 8
  | c =>
    if !multiline then failure
    if c ≠ '\n' then
      if !isBlank c then failure
      blanks
      if (← peek).isSome then expect '\n'
    let _ ← takeRun fun c => isBlank c || c = '\n'
    return []

def isPlain (c : Char) : Bool :=
  c = '\t' || (0x20 ≤ c.toNat && c.toNat ≠ 0x7F)

/-- What closes a string, behind one quote: nothing more on a single line, and two more quotes
otherwise, of which up to two in front belong to the string. Without them the quotes themselves
are part of the string. -/
def closing (quote : Char) (multiline : Bool) : Scan (Bool × List Char) := do
  if !multiline then return (true, [])
  if !(← accept quote) then return (false, [quote])
  if !(← accept quote) then return (false, [quote, quote])
  if !(← accept quote) then return (true, [])
  if !(← accept quote) then return (true, [quote])
  return (true, [quote, quote])

/-- The rest of a string, up to and including what closes it. `fuel` bounds its length. -/
def stringBody (quote : Char) (escapes multiline : Bool) : Nat → Scan (List Char)
  | 0 => failure
  | fuel + 1 => do
    let c ← next
    if c = quote then
      let (closed, text) ← closing quote multiline
      if closed then return text
      return text ++ (← stringBody quote escapes multiline fuel)
    else if c = '\n' then
      if !multiline then failure
      return c :: (← stringBody quote escapes multiline fuel)
    else if escapes && c = '\\' then
      let text ← escape multiline
      return text ++ (← stringBody quote escapes multiline fuel)
    else if isPlain c then
      return c :: (← stringBody quote escapes multiline fuel)
    else failure

/-- A string, behind its first quote, and whether it may run over several lines. A line end right
behind three opening quotes is not part of it. -/
def string (quote : Char) (escapes : Bool) : Scan (List Char × Bool) := do
  let fuel := (← get).length + 1
  if ← accept quote then
    if ← accept quote then
      let _ ← accept '\n'
      return (← stringBody quote escapes true fuel, true)
    else return ([], false)
  else return (← stringBody quote escapes false fuel, false)

/-- A part of a key: bare, or a string that cannot run over several lines. -/
def keyPart : Scan String := do
  if ← accept '"' then
    let (text, multiline) ← string '"' true
    if multiline then failure
    return String.ofList text
  else if ← accept '\x27' then
    let (text, multiline) ← string '\x27' false
    if multiline then failure
    return String.ofList text
  else return String.ofList (← takeSome isBare)

/-- Further parts of a key, each behind a point. `fuel` bounds their number. -/
def keyParts : Nat → Scan (List String)
  | 0 => failure
  | fuel + 1 => do
    blanks
    if ← accept '.' then
      blanks
      let part ← keyPart
      return part :: (← keyParts fuel)
    else return []

/-- A key of one or more parts, with the blanks around them. -/
def key : Scan (List String) := do
  blanks
  let first ← keyPart
  return first :: (← keyParts ((← get).length + 1))

end Scan

end DramSweep.Toml
