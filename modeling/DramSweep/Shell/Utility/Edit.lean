import DramSweep.Shell.Regex
import DramSweep.Shell.Utility

/-!
Editing lines by a small program: commands that change, print or drop the line at hand, each for
the lines that its addresses name.
-/

namespace DramSweep.Shell.Utility

/-- What names a line. -/
inductive Address where
  | number (n : Nat)
  | lastLine
  | expression (regex : Regex)
  deriving Repr, DecidableEq

/-- A piece of the text that is put in place of a match. -/
inductive Piece where
  | text (c : Char)
  /-- What a group took; zero is the whole match. -/
  | taken (group : Nat)
  deriving Repr, DecidableEq

/-- What is done to a line. -/
inductive Deed where
  /-- Puts a text in place of a match: of the one of a number, and with `all` of those behind it. -/
  | substitute (regex : Regex) (pieces : List Piece) (number : Nat) (all prints : Bool)
  | exchange (pairs : List (Char × Char))
  | print
  | drop
  /-- Ends the run, with the line printed or not. -/
  | quit (prints : Bool) (status : Nat)
  | showNumber
  | append (text : List Char)
  | insert (text : List Char)
  | replace (text : List Char)
  deriving Repr, DecidableEq

/-- A command: the addresses of its first and last line, whether it is for all other lines, and
what it does. -/
structure EditCommand where
  first : Option Address
  last : Option Address
  negated : Bool
  deed : Deed
  deriving Repr, DecidableEq

namespace EditCommand

/-- Reads something off the front of a program, or finds a mistake. -/
abbrev Reading := StateT (List Char) Option

/-- Passes over characters of a class. -/
def skip (isMember : Char → Bool) : Reading Unit :=
  modify (List.dropWhile isMember)

def accept (c : Char) : Reading Bool := do
  match ← get with
  | d :: rest => if c = d then set rest; return true else return false
  | [] => return false

/-- The text up to a sign, which a backslash shields. The sign loses its backslash. `fuel` bounds
the length. -/
def upTo (sign : Char) : Nat → List Char → Option (List Char × List Char)
  | 0, _ => none
  | fuel + 1, text =>
    match text with
    | [] => none
    | '\\' :: c :: rest =>
      (upTo sign fuel rest).map fun (text, rest) =>
        (if c = sign then c :: text else '\\' :: c :: text, rest)
    | c :: rest =>
      if c = sign then some ([], rest)
      else (upTo sign fuel rest).map fun (text, rest) => (c :: text, rest)

def takeUpTo (sign : Char) : Reading (List Char) := do
  let text ← get
  match upTo sign (text.length + 1) text with
  | some (taken, rest) => set rest; return taken
  | none => failure

def number? : Reading (Option Nat) := do
  let run := (← get).takeWhile Char.isDigit
  skip Char.isDigit
  return Integer.count? (String.ofList run)

def address? (extended : Bool) : Reading (Option Address) := do
  match ← get with
  | '$' :: rest => set rest; return some .lastLine
  | '/' :: rest =>
    set rest
    match Regex.read? extended (← takeUpTo '/') with
    | some regex => return some (.expression regex)
    | none => failure
  | _ => return (← number?).map .number

/-- The pieces of a text that is put in place of a match. -/
def pieces : List Char → List Piece
  | '\\' :: 'n' :: rest => .text '\n' :: pieces rest
  | '\\' :: 't' :: rest => .text '\t' :: pieces rest
  | '\\' :: c :: rest =>
    (if c.isDigit then .taken (c.toNat - '0'.toNat) else .text c) :: pieces rest
  | '&' :: rest => .taken 0 :: pieces rest
  | c :: rest => .text c :: pieces rest
  | [] => []

/-- The flags behind a substitution: which match is meant, whether all behind it are, whether the
line is printed, and whether letters match in either case. `fuel` bounds their number. -/
def flags : Nat → Nat → Bool → Bool → Reading (Nat × Bool × Bool)
  | 0, _, _, _ => failure
  | fuel + 1, number, all, prints => do
    if ← accept 'g' then return ← flags fuel number true prints
    if ← accept 'p' then return ← flags fuel number all true
    match ← number? with
    | some 0 => failure
    | some n => flags fuel n all prints
    | none => return (number, all, prints)

/-- The text behind a command that adds lines: that of the next line, or what is left of this
one. -/
def addedText : Reading (List Char) := do
  skip fun c => c = ' ' || c = '\t'
  match ← get with
  | '\\' :: '\n' :: rest => set rest
  | '\\' :: rest => set rest
  | _ => pure ()
  let text := (← get).takeWhile (· ≠ '\n')
  if text.isEmpty then failure
  skip (· ≠ '\n')
  return text ++ ['\n']

def readDeed (extended : Bool) : Reading Deed := do
  match ← get with
  | [] => failure
  | c :: rest =>
    set rest
    match c with
    | 's' =>
      match ← get with
      | [] => failure
      | sign :: rest =>
        set rest
        let expression ← takeUpTo sign
        let text ← takeUpTo sign
        let (number, all, prints) ← flags (text.length + expression.length + 16) 1 false false
        match Regex.read? extended expression with
        | some regex => return .substitute regex (pieces text) number all prints
        | none => failure
    | 'y' =>
      match ← get with
      | [] => failure
      | sign :: rest =>
        set rest
        let old ← takeUpTo sign
        let new ← takeUpTo sign
        if old.length ≠ new.length then failure
        return .exchange (old.zip new)
    | 'p' => return .print
    | 'd' => return .drop
    | 'q' =>
      skip (· = ' ')
      return .quit true ((← number?).getD 0)
    | 'Q' =>
      skip (· = ' ')
      return .quit false ((← number?).getD 0)
    | '=' => return .showNumber
    | 'a' => return .append (← addedText)
    | 'i' => return .insert (← addedText)
    | 'c' => return .replace (← addedText)
    | _ => failure

/-- The commands of a program. `fuel` bounds their number. -/
def readAll (extended : Bool) : Nat → Reading (List EditCommand)
  | 0 => failure
  | fuel + 1 => do
    let isBlank := fun c => c = ' ' || c = '\t'
    skip fun c => isBlank c || c = '\n' || c = ';'
    match ← get with
    | [] => return []
    | '#' :: _ =>
      skip (· ≠ '\n')
      readAll extended fuel
    | _ =>
      let first ← address? extended
      skip isBlank
      let last ←
        if first.isSome && (← accept ',') then
          skip isBlank
          match ← address? extended with
          | some last => pure (some last)
          | none => failure
        else pure none
      skip isBlank
      let negated ← accept '!'
      skip isBlank
      let deed ← readDeed extended
      skip isBlank
      match ← get with
      | c :: _ => if c ≠ ';' && c ≠ '\n' then failure
      | [] => pure ()
      return { first, last, negated, deed } :: (← readAll extended fuel)

def ofText? (extended : Bool) (text : List Char) : Option (List EditCommand) :=
  ((readAll extended (text.length + 1)).run text).map Prod.fst

end EditCommand

/-- A line that is edited, and what happens to it. -/
structure EditedLine where
  text : List Char
  ending : List Char
  printed : List (List Char) := []
  behind : List (List Char) := []
  isDropped : Bool := false
  quit : Option (Bool × Nat) := none
  deriving Repr, DecidableEq

namespace Edit

/-- The text of pieces, for a match that begins at a position. -/
def fill (line : Array Char) (first : Nat) (place : Regex.Place) (pieces : List Piece) :
    List Char :=
  pieces.flatMap fun
    | .text c => [c]
    | .taken 0 => (line.extract first place.position).toList
    | .taken group => place.taken line group

/-- The line from a position on, with a text in place of matches: `count` of them are passed over
first. Nothing if there is no match. An empty match right behind another one does not count. `fuel`
bounds the number of matches. -/
def substitute (regex : Regex) (pieces : List Piece) (all : Bool) (line : Array Char) :
    Nat → Nat → Option Nat → Nat → Option (List Char)
  | 0, _, _, _ => none
  | fuel + 1, count, behind, position =>
    match regex.find? line position with
    | none => none
    | some (first, place) =>
      let before := (line.extract position first).toList
      let found := (line.extract first place.position).toList
      let rest := fun (from? : Nat) => (line.extract from? line.size).toList
      let isEmpty := first = place.position
      let next := if isEmpty then place.position + 1 else place.position
      let passed := if isEmpty then (line.extract first next).toList else []
      let goOn := fun (count : Nat) =>
        if line.size < next then none
        else substitute regex pieces all line fuel count (some place.position) next
      if isEmpty && behind = some first then
        (goOn count).map fun text => before ++ passed ++ text
      else if count ≠ 0 then
        (goOn (count - 1)).map fun text => before ++ found ++ passed ++ text
      else
        let new := before ++ fill line first place pieces
        if all then some (new ++ passed ++ (goOn 0).getD (rest next))
        else some (new ++ rest place.position)

def perform (number : Nat) (line : EditedLine) : Deed → EditedLine
  | .substitute regex pieces count all prints =>
    let chars := line.text.toArray
    match substitute regex pieces all chars (chars.size + 2) (count - 1) none 0 with
    | some text =>
      { line with text, printed := line.printed ++ (if prints then [text ++ line.ending] else []) }
    | none => line
  | .exchange pairs =>
    { line with text := line.text.map fun c => (pairs.lookup c).getD c }
  | .print => { line with printed := line.printed ++ [line.text ++ line.ending] }
  | .drop => { line with isDropped := true }
  | .quit prints status => { line with quit := some (prints, status) }
  | .showNumber => { line with printed := line.printed ++ [(Nat.repr number).toList ++ ['\n']] }
  | .append text => { line with behind := line.behind ++ [text] }
  | .insert text => { line with printed := line.printed ++ [text] }
  | .replace text => { line with printed := line.printed ++ [text], isDropped := true }

def names (number : Nat) (isLast : Bool) (text : List Char) : Address → Bool
  | .number n => n = number
  | .lastLine => isLast
  | .expression regex => (regex.find? text.toArray 0).isSome

/-- Whether a command is for a line, and whether the lines behind it are in its range. -/
def concerns (command : EditCommand) (isOpen : Bool) (number : Nat) (isLast : Bool)
    (text : List Char) : Bool × Bool :=
  match command.first, command.last with
  | none, _ => (true, false)
  | some first, none => (names number isLast text first, false)
  | some first, some last =>
    let begins := names number isLast text first
    if isOpen then
      match last with
      | .number n => if n < number then (begins, false) else (true, number < n)
      | last => (true, !names number isLast text last)
    else if begins then
      match last with
      | .number n => (true, number < n)
      | .lastLine => (true, !isLast)
      | .expression _ => (true, true)
    else (false, false)

def runAll (number : Nat) (isLast : Bool) :
    List (EditCommand × Bool) → EditedLine → List (EditCommand × Bool) × EditedLine
  | [], line => ([], line)
  | (command, isOpen) :: rest, line =>
    if line.isDropped || line.quit.isSome then ((command, isOpen) :: rest, line)
    else
      let (isFor, isOpen) := concerns command isOpen number isLast line.text
      let deed := match command.deed, isOpen with
        | .replace _, true => .drop
        | deed, _ => deed
      let line := if isFor != command.negated then perform number line deed else line
      let (rest, line) := runAll number isLast rest line
      ((command, isOpen) :: rest, line)

/-- Adds a text to what is printed. A line without a break gets one if something follows it. -/
def emit (output text : List Char) : List Char :=
  if output.getLast?.any (· ≠ '\n') then output ++ '\n' :: text else output ++ text

/-- Edits lines from a number on: what is printed, and the status if the run was ended. -/
def run (quiet : Bool) : List (EditCommand × Bool) → Nat → List Char → List String →
    List Char × Option Nat
  | _, _, output, [] => (output, none)
  | commands, number, output, line :: rest =>
    let text := withoutBreak line
    let ending := line.toList.drop text.length
    let (commands, edited) := runAll number rest.isEmpty commands { text, ending }
    let goesOn := edited.quit.all Prod.fst
    let shown := edited.printed ++
      (if quiet || edited.isDropped || !goesOn then [] else [edited.text ++ ending]) ++
      (if goesOn then edited.behind else [])
    let output := shown.foldl emit output
    match edited.quit with
    | some (_, status) => (output, some status)
    | none => run quiet commands (number + 1) output rest

end Edit

/-- Prints the lines of files as commands change them, or puts them back in the files. -/
def sed : Program := withOptions "nErsiu" "e" 1 fun arguments => do
  let given := arguments.valuesOf 'e'
  let (program, operands) := match given, arguments.operands with
    | [], program :: operands => (some program, operands)
    | [], [] => (none, [])
    | given, operands => (some ("\n".intercalate given), operands)
  let extended := arguments.has 'E' || arguments.has 'r'
  match program.bind fun text => EditCommand.ofText? extended text.toList with
  | none => Run.complain "sed: invalid program" 1
  | some commands =>
    let commands := commands.map fun command => (command, false)
    let edit := fun (lines : List String) =>
      Edit.run (arguments.has 'n') commands 1 [] lines
    let (found, complete) ← contents "sed" operands
    let mut status := if complete then 0 else 2
    if arguments.has 'i' then
      for (operand, text) in found do
        let (output, quit) := edit (linesOf text)
        let _ ← change "sed" fun tree =>
          tree.writeFile (toPath operand) (toBytes (String.ofList output))
        status := quit.getD status
    else
      let (output, quit) := edit (found.flatMap fun (_, text) => linesOf text)
      let _ ← Run.write 1 (String.ofList output)
      status := quit.getD status
    Run.finish status

end DramSweep.Shell.Utility
