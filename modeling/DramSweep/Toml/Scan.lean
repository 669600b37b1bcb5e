/-!
Reading a document from left to right. A scanner takes what it reads off the front of the text, or
refuses. These are the small ones: single characters, runs of characters, blanks, comments and the
ends of lines.
-/

namespace DramSweep.Toml

/-- Reads something off the front of a text. -/
abbrev Scan := StateT (List Char) Option

namespace Scan

def peek : Scan (Option Char) :=
  return (← get).head?

def next : Scan Char := do
  match ← get with
  | [] => failure
  | c :: rest => set rest; return c

def accept (c : Char) : Scan Bool := do
  match ← get with
  | d :: rest => if d = c then set rest; return true else return false
  | [] => return false

/-- Takes a character that must be the next one. -/
def expect (c : Char) : Scan Unit := do
  if !(← accept c) then failure

/-- Takes the longest run of characters of a class. -/
def takeRun (isMember : Char → Bool) : Scan (List Char) := do
  let text ← get
  set (text.dropWhile isMember)
  return text.takeWhile isMember

/-- Takes the longest run of characters of a class, at least one. -/
def takeSome (isMember : Char → Bool) : Scan (List Char) := do
  let taken ← takeRun isMember
  if taken = [] then failure
  return taken

def isBlank (c : Char) : Bool :=
  c = ' ' || c = '\t'

/-- Passes over spaces and tabs. -/
def blanks : Scan Unit := do
  let _ ← takeRun isBlank

/-- A character that may stand in a bare key, or in a number or date. -/
def isBare (c : Char) : Bool :=
  c.isAlphanum || c = '-' || c = '_'

/-- A character of a comment: a tab or anything from the space on. -/
def isComment (c : Char) : Bool :=
  c = '\t' || 0x20 ≤ c.toNat

def lineEnd : Scan Unit := do
  if (← peek).isSome then expect '\n'

/-- Passes over a comment with the end of its line, if there is one. -/
def comment : Scan Bool := do
  if ← accept '#' then
    let _ ← takeRun isComment
    lineEnd
    return true
  else return false

/-- What may follow a complete expression on its line. -/
def finishLine : Scan Unit := do
  blanks
  if !(← comment) then lineEnd

/-- Passes over blanks, comments and empty lines. `fuel` bounds the number of lines. -/
def emptyLines : Nat → Scan Unit
  | 0 => return ()
  | fuel + 1 => do
    blanks
    if ← comment then emptyLines fuel
    else if ← accept '\n' then emptyLines fuel

end Scan

end DramSweep.Toml
