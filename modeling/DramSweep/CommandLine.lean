/-!
The command line: two options with a value each, help and version, and files. Options come first;
from the first file on, and behind `--`, everything is a file. An argument that is no option is
refused where it stands; the values of options are looked at in the end.
-/

namespace DramSweep

/-- What a run does. -/
inductive Activity where
  | analyze
  | simulate
  | speedup
  | dump
  deriving Repr, DecidableEq

/-- A shell that completions can be generated for. -/
inductive Shell where
  | bash
  | elvish
  | fish
  | powershell
  | zsh
  deriving Repr, DecidableEq

def Activity.words : List (String × Activity) :=
  [("analyze", .analyze), ("simulate", .simulate), ("speedup", .speedup), ("dump", .dump)]

def Shell.words : List (String × Shell) :=
  [("bash", .bash), ("elvish", .elvish), ("fish", .fish), ("powershell", .powershell),
    ("zsh", .zsh)]

/-- What the command line asks for. -/
structure Arguments where
  generate : Option Shell := none
  activity : Option Activity := none
  files : List String := []
  deriving Repr, DecidableEq

/-- Why a command line is not followed. -/
inductive UsageError where
  | unknownArgument
  | invalidValue
  | emptyValue
  | repeated
  | tooManyValues
  | help
  | version
  deriving Repr, DecidableEq

def UsageError.message : UsageError → String
  | .unknownArgument => "an argument is not known"
  | .invalidValue => "an option does not take the value given"
  | .emptyValue => "an option needs a value"
  | .repeated => "an option is given more than once"
  | .tooManyValues => "an option takes no value"
  | .help => "usage: [--generate SHELL] [--run-mode MODE] [FILES]"
  | .version => "version 1.0"

namespace CommandLine

/-- An option that takes a value. -/
inductive Opt where
  | generate
  | activity
  deriving Repr, DecidableEq

/-- What an argument names, if it is of the form of an option. -/
inductive Flag where
  | takesValue (opt : Opt)
  | help
  | version
  deriving Repr, DecidableEq

/-- The meaning of a single letter. -/
def shortFlag? : Char → Option Flag
  | 'g' => some (.takesValue .generate)
  | 'r' => some (.takesValue .activity)
  | 'h' => some .help
  | 'V' => some .version
  | _ => none

def longFlag? (name : List Char) : Option Flag :=
  if name = "generate".toList then some (.takesValue .generate)
  else if name = "run-mode".toList then some (.takesValue .activity)
  else if name = "help".toList then some .help
  else if name = "version".toList then some .version
  else none

/-- What an argument is, by its form. -/
inductive Form where
  | plain
  | separator
  | flag (flag : Flag) (attached : Option (List Char))
  | unknown
  deriving Repr, DecidableEq

/-- A word with what is attached to it by an equals sign. -/
def longForm (text : List Char) : Form :=
  match longFlag? (text.takeWhile (· ≠ '=')) with
  | none => .unknown
  | some flag =>
    match text.dropWhile (· ≠ '=') with
    | [] => .flag flag none
    | _ :: attached => .flag flag (some attached)

/-- A letter with what is attached to it, by an equals sign or at once. -/
def shortForm (letter : Char) (rest : List Char) : Form :=
  match shortFlag? letter with
  | none => .unknown
  | some flag =>
    match rest with
    | [] => .flag flag none
    | '=' :: attached => .flag flag (some attached)
    | attached => .flag flag (some attached)

/-- The form of an argument among the options. A lone hyphen and an empty argument are plain. -/
def formOf (argument : String) : Form :=
  match argument.toList with
  | ['-', '-'] => .separator
  | '-' :: '-' :: rest => longForm rest
  | '-' :: letter :: rest => shortForm letter rest
  | _ => .plain

structure Given where
  opt : Opt
  /-- One for each time the option was named; none where no value followed. -/
  values : List (Option (List Char))
  deriving Repr, DecidableEq

/-- What was read so far: the options in the order of their first mention, the option that waits
for its value, and the files. -/
structure Reading where
  given : List Given := []
  pending : Option Opt := none
  files : List String := []
  deriving Repr, DecidableEq

def mention (opt : Opt) (value : Option (List Char)) : List Given → List Given
  | [] => [⟨opt, [value]⟩]
  | first :: rest =>
    if first.opt = opt then ⟨opt, first.values ++ [value]⟩ :: rest
    else first :: mention opt value rest

/-- Records that the waiting option got no value. -/
def Reading.settle (reading : Reading) : Reading :=
  match reading.pending with
  | none => reading
  | some opt => { reading with given := mention opt none reading.given, pending := none }

/-- The end of the options: all further arguments are files. An option that waits has no value;
it goes on waiting in vain if no file follows. -/
def finish (reading : Reading) (files : List String) : Reading × Option Opt :=
  ({ reading.settle with files }, if files = [] then reading.pending else none)

/-- Reads the arguments up to the end: what was read, and the option that waits for a value
still. -/
def read (reading : Reading) : List String → Except UsageError (Reading × Option Opt)
  | [] => .ok (finish reading [])
  | argument :: rest =>
    match formOf argument with
    | .separator => .ok (finish reading rest)
    | .unknown => .error .unknownArgument
    | .flag .help attached =>
      if argument.startsWith "--" && attached.isSome then .error .tooManyValues
      else .error .help
    | .flag .version attached =>
      if argument.startsWith "--" && attached.isSome then .error .tooManyValues
      else .error .version
    | .flag (.takesValue opt) attached =>
      let reading := reading.settle
      match attached with
      | some value => read { reading with given := mention opt (some value) reading.given } rest
      | none => read { reading with pending := some opt } rest
    | .plain =>
      match reading.pending with
      | some opt =>
        let given := mention opt (some argument.toList) reading.given
        read { reading with given, pending := none } rest
      | none => .ok (finish reading (argument :: rest))

def isValue (opt : Opt) (word : List Char) : Bool :=
  match opt with
  | .generate => Shell.words.any fun (name, _) => name.toList = word
  | .activity => Activity.words.any fun (name, _) => name.toList = word

/-- The fault in what an option was given, if there is one: no value at all, a value that it does
not take, or more than one mention. -/
def Given.fault? (given : Given) : Option UsageError :=
  let values := given.values.filterMap id
  if values = [] then some .emptyValue
  else if !values.all (isValue given.opt) then some .invalidValue
  else if 1 < given.values.length then some .repeated
  else none

def lacksValue (given : List Given) (opt : Opt) : Bool :=
  given.any fun g => g.opt = opt && g.values.all (· = none)

/-- The first fault in what was read. An option that still waits for its only value comes
first. -/
def fault? (reading : Reading) (waiting : Option Opt) : Option UsageError :=
  if waiting.any (lacksValue reading.given) then some .emptyValue
  else reading.given.findSome? Given.fault?

def valueOf {α : Type} (words : List (String × α)) (given : List Given) (opt : Opt) : Option α :=
  (given.find? (·.opt = opt)).bind fun g =>
    (g.values.filterMap id).head?.bind fun word => words.lookup (String.ofList word)

def parse (arguments : List String) : Except UsageError Arguments := do
  let (reading, waiting) ← read {} arguments
  match fault? reading waiting with
  | some fault => throw fault
  | none =>
    return { generate := valueOf Shell.words reading.given .generate
             activity := valueOf Activity.words reading.given .activity
             files := reading.files }

end CommandLine

end DramSweep
