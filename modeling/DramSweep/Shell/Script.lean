import DramSweep.Shell.Builtin
import DramSweep.Shell.Expansion
import DramSweep.Shell.Utility.Edit
import DramSweep.Shell.Utility.Files
import DramSweep.Shell.Utility.Lines
import DramSweep.Shell.Utility.Numbers
import DramSweep.Shell.Utility.Search

/-!
Running scripts. A command is run by a function that is given the way to run the commands inside
it, so the depth of a run is bounded in one place. A failure that no condition looks at ends the
script where the script asked for that.
-/

namespace DramSweep.Shell

/-- The programs that scripts can run, by their names. -/
def Utility.programs : List (String × Program) :=
  [("basename", basename), ("cat", cat), ("chmod", rest), ("cp", cp), ("cut", cut),
    ("dirname", dirname), ("egrep", grepWith true false), ("expr", expr),
    ("fgrep", grepWith false true), ("grep", grepWith false false), ("head", ends "head" true),
    ("ls", ls), ("mkdir", mkdir), ("mv", mv), ("rev", rev), ("rm", rm), ("rmdir", rmdir),
    ("sed", sed), ("seq", seq), ("sleep", rest), ("sort", sort), ("sync", rest), ("tac", tac),
    ("tail", ends "tail" false), ("tee", tee), ("touch", touch), ("tr", tr), ("uniq", uniq),
    ("wc", wc)]

/-- Runs a command. The flag says whether a condition looks at how it ends. -/
abbrev Runner := Bool → Command → Run Unit

namespace Script

/-- Ends the script if the last command failed, no condition looks at that, and the script is to
end then. -/
def heed (tested : Bool) : Run Unit := do
  let shell ← get
  if !tested && shell.options.exitOnFailure && shell.status ≠ 0 then throw .exit

def sequence (run : Runner) (tested : Bool) : List Command → Run Unit
  | [] => return ()
  | first :: rest => do
    run tested first
    sequence run tested rest

def body (run : Runner) (tested : Bool) (commands : List Command) : Run Unit := do
  if commands.isEmpty then Run.finish 0 else sequence run tested commands

/-- Finds out what commands print. How they end is kept beside how the last command ended. -/
def capture (run : Runner) : Capture := fun commands => do
  let before := (← get).status
  let text ← Run.captured (body run false commands)
  modify fun shell => { shell with status := before, substituted := shell.status }
  return text

/-- Reads the next line of a text whose lines are counted: its commands and what is left. A mistake
in it ends the script. -/
def nextLine (count : Nat) (text : List Char) : Run (List Command × List Char) := do
  let documents := (← get).documents
  match Reading.line.run { rest := text, documents, lines := count } with
  | some (commands, source) =>
    modify fun shell => { shell with documents := source.documents }
    return (commands, source.rest)
  | none =>
    modify fun shell => { shell with line := count - text.count '\n' }
    Run.fail "Syntax error"

/-- Runs the lines that are left of a text whose lines are counted. `fuel` bounds its length. -/
def linesFrom (run : Runner) (tested : Bool) (count : Nat) : Nat → List Char → Run Unit
  | 0, _ => return ()
  | fuel + 1, text => do
    if text.isEmpty then return ()
    let (commands, rest) ← nextLine count text
    sequence run tested commands
    linesFrom run tested count fuel rest

def lines (run : Runner) (tested : Bool) (text : String) : Run Unit :=
  linesFrom run tested (text.toList.count '\n' + 1) (text.length + 1) text.toList

/-- Runs a text as commands. One without commands succeeds. -/
def text (run : Runner) (tested : Bool) (text : String) : Run Unit := do
  Run.finish 0
  lines run tested text

/-- Runs a step until it ends or stops: whether it was told to exit. Only a signal reaches beyond
it. -/
def untilStop (step : Run Unit) : Run Bool := do
  try
    step
    return false
  catch stop =>
    if stop = .killed then throw stop
    return stop = .exit

/-- Runs a step to its end and then what is set for the end of the script, which may change how
the script ends by an exit of its own. -/
def toItsEnd (run : Runner) (step : Run Unit) : Run Unit := do
  let _ ← untilStop step
  let shell ← get
  match shell.traps.lookup 0 with
  | none => return ()
  | some action =>
    set { shell with traps := [] }
    if !(← untilStop (lines run false action)) then
      Run.finish shell.status

def apart (run : Runner) (step : Run Unit) : Run Unit :=
  Run.apart do
    modify fun shell => { shell with traps := [], loops := 0 }
    toItsEnd run step

/-- Runs a turn of a loop: whether there is to be another one. -/
def turn (step : Run Bool) : Run Bool := do
  try step
  catch
    | .leave count => if count ≤ 1 then return false else throw (.leave (count - 1))
    | .again count => if count ≤ 1 then return true else throw (.again (count - 1))
    | stop => throw stop

/-- How many turns a loop may take. -/
def turnLimit : Nat := 100000

/-- Takes turns as long as there is to be another one. Each is told how the one before it ended;
the first one, that nothing failed. `fuel` bounds their number. -/
def turns (step : Nat → Run Bool) : Nat → Nat → Run Unit
  | 0, _ => Run.abandon
  | fuel + 1, last => do
    if ← turn (step last) then turns step fuel (← get).status

/-- Runs a loop, counting it among those that run inside each other. -/
def counted (step : Run Unit) : Run Unit := do
  let loops := (← get).loops
  modify fun shell => { shell with loops := loops + 1 }
  try step
  catch stop =>
    modify fun shell => { shell with loops }
    throw stop
  modify fun shell => { shell with loops }

/-- Runs the body of a loop as long as its condition holds. The loop ends as the last body did. -/
def loop (run : Runner) (tested untilSuccess : Bool) (condition inside : List Command) :
    Run Unit :=
  counted (turns (fun last => do
    body run true condition
    if ((← get).status = 0) = untilSuccess then
      Run.finish last
      return false
    body run tested inside
    return true) turnLimit 0)

/-- Runs a step with a variable set to each of some texts. -/
def each (name : String) (step : Run Unit) : List String → Run Unit
  | [] => return ()
  | text :: rest => do
    Run.assign name text
    if ← turn (do step; return true) then each name step rest

def matchesOne (run : Runner) (text : String) : List Word → Run Bool
  | [] => return false
  | word :: rest => do
    let pattern ← Word.patternOf (capture run) word
    if pattern.isMatch text.toList then return true
    matchesOne run text rest

/-- Runs the commands of the first clause that a text matches. -/
def select (run : Runner) (tested : Bool) (text : String) :
    List (List Word × List Command) → Run Unit
  | [] => Run.finish 0
  | (patterns, commands) :: rest => do
    if ← matchesOne run text patterns then body run tested commands
    else select run tested text rest

/-- Why a file cannot be opened. -/
def openingMistake (opening : Opening) (target : String) : Run String := do
  let tree := (← get).tree
  let found := match tree.walk (toPath target) with
    | .ok location => tree.at? location
    | .error _ => none
  let reason := match opening, found with
    | .reading, _ => "No such file"
    | _, some .directory => "Is a directory"
    | _, some (.file _) => "File exists"
    | _, none => "Directory nonexistent"
  let verb := if opening = .reading then "open" else "create"
  return "cannot " ++ verb ++ " " ++ target ++ ": " ++ reason

/-- Connects a stream as a redirection says, or says that this cannot be done. -/
def redirect (run : Runner) : Redirection → Run Bool
  | .file descriptor opening target => do
    let target ← Word.textOf (capture run) target
    match ← Run.openFile opening target with
    | some stream =>
      Run.connect descriptor (some stream)
      return true
    | none =>
      Run.report (← openingMistake opening target)
      return false
  | .copy descriptor source => do
    let source ← Word.textOf (capture run) source
    if source = "-" then
      Run.connect descriptor none
      return true
    match ← Run.stream? (← Builtin.number source) with
    | some stream =>
      Run.connect descriptor (some stream)
      return true
    | none =>
      Run.report (source ++ ": Bad file descriptor")
      return false
  | .document descriptor number => do
    let word := ((← get).documents[number]?).getD []
    let text? ←
      try pure (some (← Word.textOf (capture run) word))
      catch stop => if stop = .fault then pure none else throw stop
    match text? with
    | some text =>
      let stream ← Run.addStream (.pipe text)
      Run.connect descriptor (some stream)
      return true
    | none => return false

/-- Connects streams one after the other, up to the first one for which this cannot be done. -/
def redirectAll (run : Runner) : List Redirection → Run Bool
  | [] => return true
  | first :: rest => do
    if ← redirect run first then redirectAll run rest else return false

def assignAll (run : Runner) (mark : Variable → Variable) : List (String × Word) → Run Unit
  | [] => return ()
  | (name, word) :: rest => do
    Run.assign name (← Word.textOf (capture run) word)
    modify fun shell => shell.put (mark (shell.variableOf name))
    assignAll run mark rest

/-- Runs a step and puts variables back after it, also if it stops. -/
def keepingVariables (names : List String) (step : Run Unit) : Run Unit := do
  let shell ← get
  let saved := names.map shell.variableOf
  let restore : Run Unit := modify fun shell => saved.foldl State.put shell
  try step
  catch stop =>
    restore
    throw stop
  restore

def call (run : Runner) (tested : Bool) (function : Command) (arguments : List String) :
    Run Unit := do
  let caller ← get
  set { caller with arguments, saved := [] :: caller.saved, loops := 0 }
  let restore : Run Unit := modify fun shell =>
    let shell := (shell.saved.headD []).foldl State.put shell
    { shell with arguments := caller.arguments, saved := caller.saved, loops := caller.loops }
  try run tested function
  catch
    | .back => pure ()
    | stop =>
      restore
      throw stop
  restore

/-- The state of a shell that a shell starts: only variables that are passed on are known. -/
def inner (shell : State) (name : String) (arguments : List String) : State :=
  { shell with
    name, arguments
    known := shell.known.filter (·.exported)
    functions := [], documents := [], options := {}, traps := [], saved := [], loops := 0
    line := 1, speaker := none }

/-- Runs another script: that of a file, of an argument, or of the input. A signal to it does not
reach the shell that started it. -/
def start (run : Runner) (arguments : List String) : Run Unit := do
  let shell ← get
  let launch := fun (name : String) (arguments : List String) (script : Run (Option String)) => do
    try Run.apart do
      set (inner shell name arguments)
      match ← script with
      | none => Run.finish 2
      | some script => toItsEnd run (text run false script)
    catch _ => pure ()
  match arguments with
  | "-c" :: script :: rest => launch (rest.headD "sh") rest.tail (return some script)
  | file :: rest =>
    if file.toList.head?.any fun c => c = '-' || c = '+' then Run.finish 2
    else launch file rest do
      return (shell.tree.open? (toPath file)).map ofBytes
  | [] => launch "sh" [] (return some (← Run.readAll 0))

/-- The program that a word names: one of those in the directories of commands. -/
def program? (run : Runner) (word : String) : Option Program :=
  let directory := ["/bin/", "/usr/bin/"].find? fun directory =>
    directory.toList.isPrefixOf word.toList
  let name := word.drop ((directory.getD "").length) |>.toString
  ((Builtin.plain ++ Utility.programs).lookup name).or
    (if name = "sh" then some (start run) else none)

def runProgram (run : Runner) (word : String) (arguments : List String) : Run Unit := do
  match program? run word with
  | some program => program arguments
  | none =>
    let isThere := word.toList.contains '/' && (← get).tree.contains (toPath word)
    if isThere then Run.reject (word ++ ": Permission denied") 126
    else Run.reject (word ++ ": not found") 127

/-- What a word means where a command begins. -/
inductive Meaning where
  | reserved
  | function
  | special
  | builtin
  | program (path : String)
  deriving Repr, DecidableEq

/-- The names of the commands that run other commands or texts, and whether their mistakes end the
script. -/
def runningNames : List (String × Bool) :=
  [("eval", true), (".", true), ("exec", true), ("command", false), ("type", false),
    ("kill", false)]

def meaning? (run : Runner) (shell : State) (word : String) : Option Meaning :=
  if reservedWords.contains word then some .reserved
  else if (shell.functions.lookup word).isSome then some .function
  else if (Builtin.special.lookup word).isSome || runningNames.lookup word = some true then
    some .special
  else if ((Builtin.regular ++ Builtin.plain).lookup word).isSome ||
      (runningNames.lookup word).isSome then some .builtin
  else if (program? run word).isSome then
    some (.program (if word.toList.contains '/' then word else "/usr/bin/" ++ word))
  else none

def describe (word : String) : Option Meaning → String
  | none => word ++ ": not found\n"
  | some .reserved => word ++ " is a shell keyword\n"
  | some .function => word ++ " is a shell function\n"
  | some .special => word ++ " is a special shell builtin\n"
  | some .builtin => word ++ " is a shell builtin\n"
  | some (.program path) => word ++ " is " ++ path ++ "\n"

/-- Prints what words mean. A word that means nothing makes the command fail. -/
def describeAll (run : Runner) : Program := fun words => do
  let shell ← get
  let meanings := words.map fun word => (word, meaning? run shell word)
  Run.print (String.join (meanings.map fun (word, meaning) => describe word meaning))
  if meanings.any fun (_, meaning) => meaning.isNone then Run.finish 127

def locate (run : Runner) (word : String) : Run Unit := do
  match meaning? run (← get) word with
  | none => Run.finish 127
  | some (.program path) => Run.print (path ++ "\n")
  | some _ => Run.print (word ++ "\n")

/-- Runs the commands in a file. The end of a function ends them as well. -/
def inclusion (run : Runner) (tested : Bool) : Program
  | [] => Run.finish 0
  | file :: _ => do
    match (← get).tree.open? (toPath file) with
    | some content =>
      if !file.toList.contains '/' then Run.fail (file ++ ": not found")
      Run.speaking (some file) do
        try text run tested (ofBytes content)
        catch stop => if stop ≠ .back then throw stop
    | none => Run.fail ("cannot open " ++ file ++ ": No such file")

def replace (run : Runner) : Program
  | [] => Run.finish 0
  | word :: arguments => do
    try runProgram run word arguments
    catch stop => if stop ≠ .fault then throw stop
    throw .exit

/-- Runs a command that is not a function, or says what it is. -/
def direct (run : Runner) : Program
  | [] => Run.finish 0
  | "-v" :: word :: _ => locate run word
  | "-V" :: word :: _ => describeAll run [word]
  | word :: arguments =>
    match (Builtin.special.lookup word).or (Builtin.regular.lookup word) with
    | some program => Run.speaking (some word) (program arguments)
    | none => Run.speaking none (runProgram run word arguments)

def signalUsage : String :=
  "Usage: kill [-s sigspec | -signum | -sigspec] [pid | job]... or\nkill -l [exitstatus]"

def signal (run : Runner) : Program := fun arguments => do
  match Builtin.signalAndTargets arguments with
  | none => Run.fail signalUsage
  | some (signal, targets) =>
    for target in targets do
      if target = Nat.repr ownNumber then
        if let some action ← Builtin.receive signal then text run false action
      else if target ≠ Nat.repr otherNumber then Run.finish 1
    if targets.isEmpty then Run.finish 2

def running (run : Runner) (tested : Bool) : List (String × Program) :=
  [("eval", fun arguments => text run tested (" ".intercalate arguments)),
    (".", inclusion run tested), ("exec", replace run), ("command", direct run),
    ("type", describeAll run), ("kill", signal run)]

/-- The command of the shell with a name, and whether its mistakes end the script. -/
def builtin? (run : Runner) (tested : Bool) (name : String) : Option (Bool × Program) :=
  ((Builtin.special.lookup name).map fun program => (true, program)).or
    ((((running run tested) ++ Builtin.regular ++ Builtin.plain).lookup name).map fun program =>
      (runningNames.lookup name = some true, program))

/-- Runs a command of the shell whose mistakes do not end the script. -/
def forgiving (step : Run Unit) : Run Unit := do
  try step
  catch stop => if stop ≠ .fault then throw stop

/-- Runs the command that some texts spell. -/
def perform (run : Runner) (tested : Bool) (assignments : List (String × Word))
    (redirections : List Redirection) (name : String) (arguments : List String) : Run Unit := do
  let exported := fun (known : Variable) => { known with exported := true }
  let passing := fun (step : Run Unit) =>
    keepingVariables (assignments.map Prod.fst) do
      assignAll run exported assignments
      step
  let redirected := fun (step : Run Unit) => Run.keepingDescriptors do
    if ← redirectAll run redirections then step else Run.finish 2
  match builtin? run tested name, (← get).functions.lookup name with
  | some (true, program), _ =>
    let step : Run Unit := do
      if !(← redirectAll run redirections) then Run.abandon
      assignAll run id assignments
      Run.speaking (some name) (program arguments)
    if name = "exec" && arguments.isEmpty then step else Run.keepingDescriptors step
  | _, some function => redirected (passing (call run tested function arguments))
  | some (false, program), none =>
    redirected (passing (forgiving (Run.speaking (some name) (program arguments))))
  | none, none => redirected (passing (runProgram run name arguments))

/-- Runs a simple command. Without a word it only gives values to variables. -/
def simple (run : Runner) (tested : Bool) (assignments : List (String × Word)) (words : List Word)
    (redirections : List Redirection) : Run Unit := do
  modify fun shell => { shell with substituted := 0 }
  match ← Word.allFields (capture run) words with
  | [] => Run.keepingDescriptors do
    if ← redirectAll run redirections then
      assignAll run id assignments
      Run.finish (← get).substituted
    else Run.finish 2
  | name :: arguments => perform run tested assignments redirections name arguments
  heed tested

/-- Runs the stages of a pipeline, each in a shell of its own that reads what the one before it
wrote. -/
def stages (run : Runner) (tested : Bool) : List Command → Run Unit
  | [] => return ()
  | [last] => apart run (run tested last)
  | first :: rest => do
    let stream ← Run.addStream (.pipe "")
    Run.keepingDescriptors do
      Run.connect 1 (some stream)
      apart run (run tested first)
    Run.keepingDescriptors do
      Run.connect 0 (some stream)
      stages run tested rest

def step (run : Runner) (tested : Bool) : Command → Run Unit
  | .simple assignments words redirections => simple run tested assignments words redirections
  | .pipeline commands => do
    stages run tested commands
    heed tested
  | .negation command => do
    run true command
    Run.finish (if (← get).status = 0 then 1 else 0)
  | .both first second => do
    run true first
    if (← get).status = 0 then run tested second
  | .either first second => do
    run true first
    if (← get).status ≠ 0 then run tested second
  | .background command => do
    Run.keepingDescriptors do
      Run.connect 0 (some (← Run.addStream .null))
      apart run (run tested command)
    modify fun shell => { shell with background := some shell.status, status := 0 }
  | .group commands => sequence run tested commands
  | .apart commands => do
    apart run (sequence run tested commands)
    heed tested
  | .choice condition commands otherwise => do
    sequence run true condition
    if (← get).status = 0 then sequence run tested commands else body run tested otherwise
  | .loop untilSuccess condition commands => loop run tested untilSuccess condition commands
  | .each name words commands => do
    let texts ← match words with
      | some words => Word.allFields (capture run) words
      | none => pure (← get).arguments
    Run.finish 0
    counted (each name (sequence run tested commands) texts)
  | .select subject clauses => do
    select run tested (← Word.textOf (capture run) subject) clauses
  | .located line command => do
    modify fun shell => { shell with line }
    run tested command
  | .define name command => do
    modify fun shell => { shell with
      functions := (name, command) :: shell.functions.filter fun (other, _) => other ≠ name }
    Run.finish 0
  | .redirected command redirections => Run.keepingDescriptors do
    if ← redirectAll run redirections then run tested command
    else
      Run.finish 2
      heed tested

/-- Runs a command, up to a depth that `fuel` bounds. -/
def runDeep : Nat → Runner
  | 0 => fun _ _ => Run.fail "Maximum function recursion depth reached"
  | fuel + 1 => fun tested command => do
    if !(← get).options.readOnly then step (runDeep fuel) tested command

/-- How deep commands may run inside each other. -/
def depthLimit : Nat := 5000

end Script

/-- Runs the script of a file with arguments, over the files: the files, and the status. -/
def runScript (name : String) (arguments : List String) (tree : FileTree) : FileTree × Nat :=
  let run := Script.runDeep Script.depthLimit
  let (_, shell) := (Script.start run ((name :: arguments).map ofText)).run.run
    { tree, name := "sh", arguments := [] }
  (shell.tree, shell.status)

end DramSweep.Shell
