import DramSweep.Shell.Script
import DramSweep.Simulation.Run

/-!
A launcher that needs no system beneath it. It stands for a machine that has the commands which
always succeed or always fail and the one that runs a script over the files, and can start nothing
else; a script then takes the part of the simulator. What is proved of a simulation holds for every
launcher, this one among them.
-/

namespace DramSweep.Launcher

def commandDirectories : List Location :=
  [["bin"], ["usr", "bin"]]

/-- The files with the directories of commands among them. -/
def withCommandDirectories (tree : FileTree) : FileTree :=
  (["usr"] :: commandDirectories).foldl (fun tree location => tree.put location .directory) tree

/-- The name of the command that a program would be. A name without a separator stands for itself;
a path must lead into a directory of commands. -/
def commandName? (tree : FileTree) (program : String) : Option String :=
  if program.toList.contains '/' then
    match (withCommandDirectories tree).walk ⟨program⟩ with
    | .ok location =>
      if commandDirectories.contains location.dropLast then location.getLast? else none
    | .error _ => none
  else some program

/-- Whether a text can be handed to a command. A zero character would end it early. -/
def isPassable (text : String) : Bool :=
  !text.toList.contains '\x00'

/-- Runs a script over the files. The first argument is the file that holds it. -/
def runShell (arguments : List String) (tree : FileTree) : FileTree × Exit :=
  match arguments with
  | [] => (tree, .success)
  | script :: arguments =>
    match Shell.runScript script arguments tree with
    | (tree, 0) => (tree, .success)
    | (tree, _) => (tree, .failure)

/-- Runs a command over the files. -/
def builtin : Launcher := fun program arguments tree =>
  if arguments.all isPassable then
    match commandName? tree program with
    | some "true" => (tree, .success)
    | some "false" => (tree, .failure)
    | some "sh" => runShell arguments tree
    | _ => (tree, .notStarted)
  else (tree, .notStarted)

end DramSweep.Launcher
