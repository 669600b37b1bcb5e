import DramSweep.Shell.Integer
import DramSweep.Shell.State

/-!
What commands that are programs of their own have in common: each takes its arguments apart, reads
and writes the streams it is given, and ends with a status.
-/

namespace DramSweep.Shell

abbrev Program := List String → Run Unit

/-- The arguments of a program, taken apart. -/
structure Arguments where
  letters : List Char := []
  values : List (Char × String) := []
  operands : List String := []
  deriving Repr, DecidableEq

namespace Arguments

def has (arguments : Arguments) (letter : Char) : Bool :=
  arguments.letters.contains letter

def value? (arguments : Arguments) (letter : Char) : Option String :=
  arguments.values.reverse.lookup letter

def valuesOf (arguments : Arguments) (letter : Char) : List String :=
  (arguments.values.filter fun (other, _) => other = letter).map Prod.snd

/-- Adds letters of one argument in front of others. A letter that takes a value has the rest of
the argument for it, or the next argument. -/
def addLetters (plain valued : List Char) (letters : List Char) (next : Option String)
    (others : Bool → Option Arguments) : Option Arguments :=
  match letters with
  | [] => others false
  | letter :: rest =>
    if valued.contains letter then
      let withValue := fun (value : String) (others : Option Arguments) =>
        others.map fun found => { found with values := (letter, value) :: found.values }
      match rest, next with
      | [], some value => withValue value (others true)
      | [], none => none
      | rest, _ => withValue (String.ofList rest) (others false)
    else if plain.contains letter then
      (addLetters plain valued rest next others).map fun found =>
        { found with letters := letter :: found.letters }
    else none

/-- Takes arguments apart, options standing in front of `--`, and with `mixed` also behind operands.
An option that is not known spoils them. -/
def read? (mixed : Bool) (plain valued : List Char) : List String → Option Arguments
  | [] => some {}
  | argument :: rest =>
    match argument.toList with
    | ['-', '-'] => some { operands := rest }
    | '-' :: letter :: more =>
      addLetters plain valued (letter :: more) rest.head? fun usesNext =>
        match usesNext, rest with
        | true, _ :: rest => read? mixed plain valued rest
        | _, rest => read? mixed plain valued rest
    | _ =>
      if mixed then
        (read? mixed plain valued rest).map fun found =>
          { found with operands := argument :: found.operands }
      else some { operands := argument :: rest }

end Arguments

namespace Utility

/-- A program with options: the letters of those without and with a value, and the status when
another one is given. -/
def withOptions (plain valued : String) (status : Nat) (body : Arguments → Run Unit) : Program :=
  fun arguments =>
    match Arguments.read? true plain.toList valued.toList arguments with
    | some arguments => body arguments
    | none => Run.complain "invalid option" status

def entry? (target : String) : Run (Option Entry) := do
  return (← get).tree.find? (toPath target)

/-- Does something with each operand. The command fails if it fails for one of them. -/
def forEach (operands : List String) (step : String → Run Bool) : Run Unit := do
  let mut status := 0
  for operand in operands do
    if !(← step operand) then status := 1
  Run.finish status

/-- Says that something cannot be done, beside what is printed. -/
def refuse (message : String) : Run Bool := do
  let _ ← Run.write 2 (message ++ "\n")
  return false

/-- Why files cannot be changed, in the words of a program that says so. -/
def reason : Fault → String
  | .notFound => "No such file or directory"
  | .notDirectory => "Not a directory"
  | .isDirectory => "Is a directory"
  | .alreadyThere => "File exists"
  | .nameTooLong => "File name too long"
  | .badName => "Invalid argument"

def missingFile (program operand : String) : String :=
  let subject := match program with
    | "head" | "tail" => "cannot open '" ++ operand ++ "' for reading"
    | "sed" => "can\x27t read " ++ operand
    | "sort" => "cannot read: " ++ operand
    | _ => operand
  program ++ ": " ++ subject ++ ": " ++ reason .notFound

/-- What an operand names to be read: a file, or the input for a hyphen. -/
def content? (program operand : String) : Run (Option String) := do
  if operand = "-" then return some (← Run.readAll 0)
  if operand = nullDevice then return some ""
  match ← entry? operand with
  | some (.file content) => return some (ofBytes content)
  | some .directory =>
    let _ ← refuse (program ++ ": " ++ operand ++ ": " ++ reason .isDirectory)
    return none
  | none =>
    let _ ← refuse (missingFile program operand)
    return none

/-- Prints what a function makes of each operand, or of the input if there are none. -/
def filter (program : String) (operands : List String) (change : String → String) : Run Unit :=
  forEach (if operands.isEmpty then ["-"] else operands) fun operand => do
    match ← content? program operand with
    | some text => Run.write 1 (change text)
    | none => return false

/-- Changes the files, or says what cannot be done and why. -/
def change (message : String) (step : FileTree → Except Fault FileTree) : Run Bool := do
  let shell ← get
  match step shell.tree with
  | .ok tree =>
    set { shell with tree }
    return true
  | .error fault => refuse (message ++ ": " ++ reason fault)

def linesOf (text : String) : List String :=
  let pieces := text.toList.splitOn '\n'
  (pieces.dropLast.map fun line => String.ofList (line ++ ['\n'])) ++
    (pieces.getLast?.filter (· ≠ [])).toList.map String.ofList

def withoutBreak (line : String) : List Char :=
  if line.toList.getLast? = some '\n' then line.toList.dropLast else line.toList

def bareLines (text : String) : List String :=
  (linesOf text).map fun line => String.ofList (withoutBreak line)

/-- What operands name, or the input if there are none, and whether all of it could be read. -/
def contents (program : String) (operands : List String) :
    Run (List (String × String) × Bool) := do
  let mut found := []
  let mut complete := true
  for operand in if operands.isEmpty then ["-"] else operands do
    match ← content? program operand with
    | some text => found := found ++ [(operand, text)]
    | none => complete := false
  return (found, complete)

/-- Ends well, whatever it is told. -/
def rest : Program := fun _ => Run.finish 0

end Utility

end DramSweep.Shell
