import DramSweep.Shell.Condition
import DramSweep.Shell.Format
import DramSweep.Shell.Pattern
import DramSweep.Shell.Utility

/-!
Commands that are part of the shell and need no other command to do their work. They change its
state, stop a loop, a function or the script, print, or ask for a condition.
-/

namespace DramSweep.Shell.Builtin

def number (argument : String) : Run Nat := do
  match (Integer.count? argument).filter (· ≤ 2147483647) with
  | some n => return n
  | none => Run.fail ("Illegal number: " ++ argument)

def exit : Program
  | [] => throw .exit
  | argument :: _ => do
    Run.finish (← number argument)
    throw .exit

def back : Program
  | [] => throw .back
  | argument :: _ => do
    Run.finish (← number argument)
    throw .back

/-- Stops loops: so many as the argument says, but no more than there are. -/
def stopLoop (stop : Nat → Stop) : Program := fun arguments => do
  let count ← match arguments with
    | [] => pure 1
    | argument :: _ => number argument
  if count = 0 then Run.fail "Illegal number: 0"
  let loops := (← get).loops
  Run.finish 0
  if loops ≠ 0 then throw (stop (min count loops))

def shift : Program := fun arguments => do
  let count ← match arguments with
    | [] => pure 1
    | argument :: _ => number argument
  let shell ← get
  if shell.arguments.length < count then Run.fail "can't shift that many"
  set { shell with arguments := shell.arguments.drop count, status := 0 }

def optionNames : List (String × Char) :=
  [("errexit", 'e'), ("noglob", 'f'), ("ignoreeof", 'I'), ("interactive", 'i'), ("monitor", 'm'),
    ("noexec", 'n'), ("stdin", 's'), ("xtrace", 'x'), ("verbose", 'v'), ("vi", 'V'),
    ("emacs", 'E'), ("noclobber", 'C'), ("allexport", 'a'), ("notify", 'b'), ("nounset", 'u')]

def setOption (turnOn : Bool) (letter : Char) : Run Unit := do
  if !(optionNames.map Prod.snd).contains letter then
    Run.fail ("Illegal option -" ++ letter.toString)
  modify fun shell =>
    let others := shell.options.letters.filter (· ≠ letter)
    { shell with options := { letters := if turnOn then others ++ [letter] else others } }

/-- Turns the options in front of arguments on or off: the rest, and whether it is meant to be the
arguments of the script. -/
def setOptions : List String → Run (List String × Bool)
  | [] => return ([], false)
  | argument :: rest => do
    let named := fun (turnOn : Bool) => do
      match rest with
      | [] => return ([], false)
      | name :: rest =>
        match optionNames.lookup name with
        | some letter =>
          setOption turnOn letter
          setOptions rest
        | none => Run.fail ("Illegal option -o " ++ name)
    match argument.toList with
    | ['-', '-'] => return (rest, true)
    | ['-'] => return (rest, !rest.isEmpty)
    | ['-', 'o'] => named true
    | ['+', 'o'] => named false
    | '-' :: letters =>
      letters.forM (setOption true)
      setOptions rest
    | '+' :: letters =>
      letters.forM (setOption false)
      setOptions rest
    | _ => return (argument :: rest, true)

/-- Turns options on or off and gives the script other arguments. -/
def setShell : Program := fun arguments => do
  let (rest, given) ← setOptions arguments
  if given then modify fun shell => { shell with arguments := rest }
  Run.finish 0

/-- A name, with the value behind an equals sign if there is one. -/
def nameAndValue (argument : String) : Option (String × Option String) :=
  let name := argument.toList.takeWhile (· ≠ '=')
  let value := match argument.toList.drop name.length with
    | _ :: value => some (String.ofList value)
    | [] => none
  if isName name then some (String.ofList name, value) else none

/-- Changes how variables are kept, and gives a value to those that come with one. -/
def declare (mark : Variable → Variable) : Program := fun arguments => do
  let arguments := arguments.filter fun argument => argument ≠ "-p" && argument ≠ "--"
  for argument in arguments do
    match nameAndValue argument with
    | none => Run.fail (argument ++ ": bad variable name")
    | some (name, value) =>
      if let some value := value then Run.assign name value
      modify fun shell => shell.put (mark (shell.variableOf name))
  Run.finish 0

def unset : Program := fun arguments => do
  let functions := arguments.contains "-f"
  let names := arguments.filter fun argument => argument ≠ "-f" && argument ≠ "-v"
  for name in names do
    if functions then
      modify fun shell =>
        { shell with functions := shell.functions.filter fun (other, _) => other ≠ name }
    else
      if !isName name.toList then Run.fail (name ++ ": bad variable name")
      if ((← get).variableOf name).constant then Run.fail (name ++ ": is read only")
      modify fun shell =>
        { shell with known := shell.known.filter fun other => other.name ≠ name }
  Run.finish 0

/-- Gives variables back at the end of the function that runs. -/
def makeLocal : Program := fun arguments => do
  for argument in arguments do
    match (← get).saved, nameAndValue argument with
    | saved :: outer, some (name, value) =>
      modify fun shell =>
        if saved.any (·.name = name) then shell
        else { shell with saved := (shell.variableOf name :: saved) :: outer }
      if let some value := value then Run.assign name value
    | [], _ => Run.fail "not in a function"
    | _, none => Run.fail (argument ++ ": bad variable name")
  Run.finish 0

def signals : List (String × Nat) :=
  [("EXIT", 0), ("HUP", 1), ("INT", 2), ("QUIT", 3), ("ILL", 4), ("TRAP", 5), ("ABRT", 6),
    ("BUS", 7), ("FPE", 8), ("KILL", 9), ("USR1", 10), ("SEGV", 11), ("USR2", 12), ("PIPE", 13),
    ("ALRM", 14), ("TERM", 15), ("CHLD", 17), ("CONT", 18), ("STOP", 19), ("URG", 23),
    ("WINCH", 28)]

def signal? (word : String) : Option Nat :=
  match Integer.count? word with
  | some n => if n ≤ 64 then some n else none
  | none => signals.lookup (String.ofList (word.toList.map Char.toUpper))

/-- Signals that end nothing. -/
def harmless : List Nat :=
  [17, 18, 23, 28]

/-- Sets what is done at a signal or at the end of the script. -/
def trap : Program := fun arguments => do
  let arguments := if arguments.head? = some "--" then arguments.tail else arguments
  let (action, words) := match arguments with
    | [] => (none, [])
    | [single] => (none, [single])
    | action :: words =>
      if (Integer.count? action).isSome then (none, arguments)
      else (if action = "-" then none else some action, words)
  let mut status := 0
  for word in words do
    match signal? word with
    | none => status := 1
    | some signal => modify fun shell =>
        let others := shell.traps.filter fun (other, _) => other ≠ signal
        { shell with traps := (action.map fun action => (signal, action)).toList ++ others }
  Run.finish status

/-- What a signal to the script does: a command that is set for it, or nothing, or the end. -/
def receive (signal : Nat) : Run (Option String) := do
  if signal = 0 || harmless.contains signal then return none
  if signal ≠ 9 then
    if let some action := (← get).traps.lookup signal then return some action
  Run.finish (128 + signal)
  throw .killed

/-- The signal that the arguments name, and the numbers it goes to. -/
def signalAndTargets : List String → Option (Nat × List String)
  | "-s" :: word :: rest => (signal? word).map fun signal => (signal, rest)
  | "--" :: rest => some (15, rest)
  | argument :: rest =>
    match argument.toList with
    | '-' :: word => (signal? (String.ofList word)).map fun signal => (signal, rest)
    | _ => some (15, argument :: rest)
  | [] => none

/-- Prints arguments with single spaces between them. -/
def echo : Program := fun arguments => do
  let (breaks, words) := match arguments with
    | "-n" :: words => (false, words)
    | words => (true, words)
  let (text, ended) := Format.unescaped (" ".intercalate words)
  Run.print (if breaks && !ended then text ++ "\n" else text)

def printf : Program := fun arguments => do
  match arguments with
  | "--" :: format :: arguments => formatted format arguments
  | format :: arguments =>
    if format.toList.head? = some '-' && 1 < format.length then
      Run.reject ("Illegal option " ++ format.take 2) 2
    else formatted format arguments
  | [] => Run.reject "usage: printf format [arg ...]" 2
where
  formatted (format : String) (arguments : List String) : Run Unit := do
    let (text, status) := Format.print format arguments
    Run.print text
    if status ≠ 0 then Run.finish status

def test : Program := fun words => do
  let tree := (← get).tree
  match Condition.holds (fun word => tree.find? (toPath word)) words with
  | .ok true => Run.finish 0
  | .ok false => Run.finish 1
  | .error mistake => Run.reject mistake.message 2

/-- Finds out whether a condition in brackets holds. -/
def bracket : Program := fun words =>
  if words.getLast? = some "]" then test words.dropLast else Run.reject "missing ]" 2

/-- Goes to another directory. -/
def cd : Program := fun arguments => do
  let arguments := arguments.filter fun argument => argument ≠ "--" && argument ≠ "-P" &&
    argument ≠ "-L"
  let shell ← get
  let target? := match arguments with
    | [] => shell.value? "HOME"
    | "-" :: _ => shell.value? "OLDPWD"
    | target :: _ => some target
  match target? with
  | none => Run.finish 0
  | some target =>
    match shell.tree.walk (toPath (if target.isEmpty then "." else target)) with
    | .error _ => Run.reject ("can't cd to " ++ target) 2
    | .ok location =>
      if shell.tree.at? location = some .directory then
        let here := ofText ("/" ++ "/".intercalate shell.tree.workingDirectory)
        let shell := shell.put { shell.variableOf "OLDPWD" with value := some here }
        set { shell with tree := { shell.tree with workingDirectory := location }, status := 0 }
      else Run.reject ("can't cd to " ++ target) 2

def pwd : Program := fun _ => do
  Run.print (ofText ("/" ++ "/".intercalate (← get).tree.workingDirectory) ++ "\n")

/-- Waits for commands in the background, which have all ended. -/
def wait : Program
  | [] => Run.finish 0
  | argument :: _ => do
    match (← get).background with
    | some status =>
      Run.finish (if argument = Nat.repr otherNumber then status else 127)
    | none => Run.finish 127

/-- The characters of a line that is read, some of them shielded by a backslash, how many bytes it
takes, and whether it has an end. `fuel` bounds its length. -/
def readLine (raw : Bool) : Nat → List Char → List Mark × Nat × Bool
  | 0, _ => ([], 0, false)
  | fuel + 1, text =>
    match text with
    | [] => ([], 0, false)
    | '\n' :: _ => ([], 1, true)
    | '\\' :: c :: rest =>
      let (marks, count, ended) :=
        readLine raw fuel (if raw then c :: rest else rest)
      if raw then (('\\', true) :: marks, count + 1, ended)
      else (if c = '\n' then marks else (c, true) :: marks, count + 2, ended)
    | c :: rest =>
      let (marks, count, ended) := readLine raw fuel rest
      ((c, false) :: marks, count + 1, ended)

def dropBlank (separators : List Char) : List Mark → List Mark :=
  List.dropWhile fun (c, shielded) =>
    !shielded && separators.contains c && (c = ' ' || c = '\t' || c = '\n')

/-- Whether a character of a line ends a field. -/
def separates (separators : List Char) (mark : Mark) : Bool :=
  !mark.2 && separators.contains mark.1

/-- The last field of a line: all that is left, without blank separators at the end, and without
one other separator if that is all there is behind it. -/
def lastField (separators : List Char) (marks : List Mark) : List Mark :=
  let kept := (dropBlank separators marks.reverse).reverse
  match kept.reverse with
  | last :: before =>
    if separates separators last && !(before.any (separates separators)) then
      (dropBlank separators before).reverse
    else kept
  | [] => []

def readFields (separators : List Char) : List String → List Mark → List (String × List Mark)
  | [], _ => []
  | [name], marks => [(name, lastField separators (dropBlank separators marks))]
  | name :: names, marks =>
    let start := dropBlank separators marks
    let field := start.takeWhile fun mark => !separates separators mark
    let rest := dropBlank separators (start.drop field.length)
    let rest := match rest with
      | mark :: more =>
        let blank := (start.drop field.length).head?.any fun (c, _) =>
          c = ' ' || c = '\t' || c = '\n'
        if separates separators mark && (blank || rest.length = (start.drop field.length).length)
        then dropBlank separators more else rest
      | [] => []
    (name, field) :: readFields separators names rest

def read : Program := fun arguments => do
  let raw := arguments.contains "-r"
  let names := arguments.filter fun argument => argument ≠ "-r" && argument ≠ "--"
  if names.isEmpty then Run.fail "arg count"
  let text := (← Run.readable 0).toList
  let (marks, count, ended) := readLine raw (text.length + 1) text
  Run.skip 0 count
  for (name, field) in readFields (← get).separators names marks do
    if !isName name.toList then Run.fail (name ++ ": bad variable name")
    Run.assign name (String.ofList (field.map Prod.fst))
  Run.finish (if ended then 0 else 1)

/-- Commands whose mistakes end the script, and whose assignments stay. -/
def special : List (String × Program) :=
  [(":", Utility.rest), ("break", stopLoop .leave), ("continue", stopLoop .again),
    ("exit", exit), ("export", declare fun known => { known with exported := true }),
    ("local", makeLocal), ("readonly", declare fun known => { known with constant := true }),
    ("return", back), ("set", setShell), ("shift", shift), ("times", Utility.rest),
    ("trap", trap), ("unset", unset)]

def plain : List (String × Program) :=
  [("[", bracket), ("echo", echo), ("false", fun _ => Run.finish 1), ("printf", printf),
    ("pwd", pwd), ("test", test), ("true", Utility.rest)]

def regular : List (String × Program) :=
  [("alias", Utility.rest), ("bg", Utility.rest), ("cd", cd), ("chdir", cd), ("fg", Utility.rest),
    ("hash", Utility.rest), ("jobs", Utility.rest), ("read", read), ("ulimit", Utility.rest),
    ("umask", Utility.rest), ("unalias", Utility.rest), ("wait", wait)]

end DramSweep.Shell.Builtin
