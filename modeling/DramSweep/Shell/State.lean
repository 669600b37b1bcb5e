import DramSweep.FileTree
import DramSweep.Shell.Source

/-!
What a shell knows and does while it runs a script: parameters and variables, open streams, and
the files. A step of a run changes this state and may stop the run at some level: a loop, a
function, or the script. What was done before a stop stays done.
-/

namespace DramSweep.Shell

def ofBytes (bytes : Bytes) : String :=
  String.ofList (bytes.map fun b => Char.ofNat b.toNat)

def toBytes (text : String) : Bytes :=
  text.toList.map fun c => UInt8.ofNat c.toNat

/-- The path that a text with one character for each byte spells. -/
def toPath (text : String) : Path :=
  ⟨(Bytes.text? (toBytes text)).getD text⟩

def ofText (text : String) : String :=
  ofBytes (Bytes.ofText text)

/-- The path of a device that gives nothing and keeps nothing, and that is always there. -/
def nullDevice : String :=
  "/dev/null"

/-- Where the bytes of a stream come from and go to. -/
inductive Stream where
  /-- It gives nothing and keeps nothing. -/
  | null
  | file (location : Location) (offset : Nat) (appending : Bool)
  /-- What was written and not read yet. -/
  | pipe (text : String)
  deriving Repr, DecidableEq

/-- A variable. One that was declared need not have a value. -/
structure Variable where
  name : String
  value : Option String := none
  exported : Bool := false
  constant : Bool := false
  deriving Repr, DecidableEq

/-- What a run is told to care about, by the letters for it. -/
structure Options where
  letters : List Char := []
  deriving Repr, DecidableEq

/-- The script ends when a command fails. -/
def Options.exitOnFailure (options : Options) : Bool :=
  options.letters.contains 'e'

def Options.valueNeeded (options : Options) : Bool :=
  options.letters.contains 'u'

/-- Words are not taken as patterns for paths. -/
def Options.noPaths (options : Options) : Bool :=
  options.letters.contains 'f'

/-- A file that is there is not written from its start. -/
def Options.sparing (options : Options) : Bool :=
  options.letters.contains 'C'

def Options.readOnly (options : Options) : Bool :=
  options.letters.contains 'n'

/-- The state of a shell. -/
structure State where
  tree : FileTree
  name : String
  arguments : List String
  known : List Variable := []
  functions : List (String × Command) := []
  documents : List Word := []
  options : Options := {}
  /-- How the last command ended; zero is success. -/
  status : Nat := 0
  /-- How the last substituted command ended. -/
  substituted : Nat := 0
  streams : Array Stream := #[.null]
  descriptors : List (Nat × Nat) := [(0, 0), (1, 0), (2, 0)]
  /-- Commands for signals, by the number of the signal; zero is the end of the script. -/
  traps : List (Nat × String) := []
  /-- Variables to be put back at the end of a function, for each function that runs. -/
  saved : List (List Variable) := []
  /-- How many loops run inside each other. -/
  loops : Nat := 0
  background : Option Nat := none
  line : Nat := 1
  /-- The command of the shell that runs, as mistakes are told. -/
  speaker : Option String := none

/-- Why a run stops before its end, and at which level. -/
inductive Stop where
  /-- A mistake that ends the script. -/
  | fault
  | exit
  /-- A signal that cannot be dealt with. -/
  | killed
  | back
  | leave (loops : Nat)
  /-- The next turn of the loop so many levels out. -/
  | again (loops : Nat)
  deriving Repr, DecidableEq

abbrev Run := ExceptT Stop (StateM State)

namespace Run

/-- Sets how the last command ended. -/
def finish (status : Nat) : Run Unit :=
  modify fun shell => { shell with status }

end Run

def ownNumber : Nat := 1

/-- The number that a script is told a command in the background has. -/
def otherNumber : Nat := 2

namespace State

def separators (shell : State) : List Char :=
  match shell.known.find? (·.name = "IFS") with
  | some found => (found.value.getD " \t\n").toList
  | none => " \t\n".toList

/-- The value of a parameter other than the list of all arguments. -/
def value? (shell : State) (name : String) : Option String :=
  match name.toList with
  | ['0'] => some shell.name
  | ['#'] => some (Nat.repr shell.arguments.length)
  | ['?'] => some (Nat.repr shell.status)
  | ['$'] => some (Nat.repr ownNumber)
  | ['!'] => shell.background.map fun _ => Nat.repr otherNumber
  | ['-'] => some (String.ofList shell.options.letters)
  | c :: rest =>
    if c.isDigit then
      let number := (c :: rest).foldl (fun n c => 10 * n + (c.toNat - '0'.toNat)) 0
      if number = 0 then some shell.name else shell.arguments[number - 1]?
    else (shell.known.find? (·.name = name)).bind (·.value)
  | [] => none

def variableOf (shell : State) (name : String) : Variable :=
  (shell.known.find? (·.name = name)).getD { name }

def put (shell : State) (new : Variable) : State :=
  { shell with known := new :: shell.known.filter fun other => other.name ≠ new.name }

end State

namespace Run

def stream? (descriptor : Nat) : Run (Option Nat) :=
  return (← get).descriptors.lookup descriptor

def addStream (stream : Stream) : Run Nat := do
  let shell ← get
  set { shell with streams := shell.streams.push stream }
  return shell.streams.size

def connect (descriptor : Nat) (stream : Option Nat) : Run Unit :=
  modify fun shell => { shell with
    descriptors := (stream.map fun number => (descriptor, number)).toList ++
      shell.descriptors.filter fun (other, _) => other ≠ descriptor }

def setStream (number : Nat) (stream : Stream) : Run Unit :=
  modify fun shell => { shell with streams := shell.streams.setIfInBounds number stream }

def write (descriptor : Nat) (text : String) : Run Bool := do
  match ← stream? descriptor with
  | none => return false
  | some number =>
    let shell ← get
    match shell.streams.getD number .null with
    | .null => return true
    | .pipe before =>
      setStream number (.pipe (before ++ text))
      return true
    | .file location offset appending =>
      let offset := match appending, shell.tree.at? location with
        | true, some (.file content) => content.length
        | _, _ => offset
      let bytes := toBytes text
      set { shell with tree := shell.tree.writeAt location offset bytes }
      setStream number (.file location (offset + bytes.length) appending)
      return true

/-- Prints a text and ends a command: a stream that is closed makes it fail. -/
def print (text : String) : Run Unit := do
  if ← write 1 text then finish 0 else finish 1

/-- Prints a message beside what a command prints, and ends the command with a status. -/
def complain (message : String) (status : Nat) : Run Unit := do
  let _ ← write 2 (message ++ "\n")
  finish status

/-- Says what is wrong, with the script and its line in front. -/
def report (message : String) : Run Unit := do
  let shell ← get
  let place := shell.name ++ ": " ++ Nat.repr shell.line ++ ": "
  let _ ← write 2 (place ++ (shell.speaker.elim "" (· ++ ": ")) ++ message ++ "\n")

/-- Says what is wrong and ends the command with a status. -/
def reject (message : String) (status : Nat) : Run Unit := do
  report message
  finish status

/-- Ends the script because of a mistake that was told. -/
def abandon {α : Type} : Run α := do
  finish 2
  throw .fault

/-- Ends the script with a mistake. -/
def fail {α : Type} (message : String) : Run α := do
  report message
  abandon

def speaking (speaker : Option String) (step : Run Unit) : Run Unit := do
  let before := (← get).speaker
  modify fun shell => { shell with speaker }
  try step
  catch stop =>
    modify fun shell => { shell with speaker := before }
    throw stop
  modify fun shell => { shell with speaker := before }

def assign (name value : String) : Run Unit := do
  let shell ← get
  let old := shell.variableOf name
  if old.constant then fail (name ++ ": is read only")
  let exported := old.exported || shell.options.letters.contains 'a'
  set (shell.put { old with value := some value, exported })

def readable (descriptor : Nat) : Run String := do
  let shell ← get
  match shell.descriptors.lookup descriptor with
  | none => return ""
  | some number =>
    match shell.streams.getD number .null with
    | .null => return ""
    | .pipe text => return text
    | .file location offset _ =>
      match shell.tree.at? location with
      | some (.file content) => return ofBytes (content.drop offset)
      | _ => return ""

/-- Passes over so many bytes of a stream. -/
def skip (descriptor count : Nat) : Run Unit := do
  match ← stream? descriptor with
  | none => return ()
  | some number =>
    match (← get).streams.getD number .null with
    | .null => return ()
    | .pipe text => setStream number (.pipe (String.ofList (text.toList.drop count)))
    | .file location offset appending =>
      setStream number (.file location (offset + count) appending)

def readAll (descriptor : Nat) : Run String := do
  let text ← readable descriptor
  skip descriptor text.length
  return text

/-- Opens a file, or says that this cannot be done. -/
def openFile (opening : Opening) (target : String) : Run (Option Nat) := do
  let path := toPath target
  if path.text = nullDevice then return some (← addStream .null)
  let shell ← get
  match shell.tree.walk path with
  | .error _ => return none
  | .ok location =>
    match opening, shell.tree.at? location with
    | .reading, none => return none
    | .reading, some _ => return some (← addStream (.file location 0 false))
    | _, some .directory => return none
    | .writing, some (.file _) =>
      if shell.options.sparing then return none
      set { shell with tree := shell.tree.put location (.file []) }
      return some (← addStream (.file location 0 false))
    | .replacing, _ | _, none =>
      set { shell with tree := shell.tree.put location (.file []) }
      return some (← addStream (.file location 0 (opening = .appending)))
    | .appending, some _ => return some (← addStream (.file location 0 true))
    | .updating, some _ => return some (← addStream (.file location 0 false))

/-- Runs a step and puts the descriptors back after it, also if it stops. -/
def keepingDescriptors (step : Run Unit) : Run Unit := do
  let descriptors := (← get).descriptors
  try step
  catch stop =>
    modify fun shell => { shell with descriptors }
    throw stop
  modify fun shell => { shell with descriptors }

/-- A status as others see it: one byte of the number. -/
def asStatus (number : Nat) : Nat :=
  number % 256

/-- Runs a step whose changes to anything but files and streams are dropped. It ends by itself:
only a signal reaches beyond it. -/
def apart (step : Run Unit) : Run Unit := do
  let before ← get
  let stopped ← try step; pure none catch stop => pure (some stop)
  modify fun after => { before with
    tree := { after.tree with workingDirectory := before.tree.workingDirectory }
    streams := after.streams
    status := asStatus after.status }
  if stopped = some .killed then throw .killed

/-- Runs a step apart and gives what it printed. -/
def captured (step : Run Unit) : Run String := do
  let descriptors := (← get).descriptors
  let number ← addStream (.pipe "")
  connect 1 (some number)
  apart step
  modify fun shell => { shell with descriptors }
  match (← get).streams.getD number .null with
  | .pipe text => return text
  | _ => return ""

end Run

end DramSweep.Shell
