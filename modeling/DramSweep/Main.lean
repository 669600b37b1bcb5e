import DramSweep.Program.Footprint
import DramSweep.Simulation.Launcher

/-!
The program over the real files: what the run looks at is brought into a tree, the run is a
function of the tree, and what it changed is written back.
-/

namespace DramSweep

/-- Brings what a path leads to into the tree. A path that cannot be read because it is not of a
file leads to a directory, unless a file is in its way. -/
def probe (tree : FileTree) (path : Path) : IO FileTree := do
  try
    let content ← IO.FS.readBinFile path.text
    return tree.withFile path content.toList
  catch
    | .inappropriateType .. => return tree.withDirectory path
    | _ => return tree

/-- Brings paths and the directories above them into the tree, from the top. -/
def probeAll (tree : FileTree) (paths : List Path) : IO FileTree :=
  (paths.flatMap fun path => path.upwards.reverse).foldlM probe tree

def workingLocation : IO Location := do
  let directory : Path := ⟨toString (← IO.currentDir)⟩
  return directory.components.filterMap fun
    | .name text => some (String.ofList text)
    | _ => none

def writeBack : Location × Entry → IO Unit
  | (location, .directory) => IO.FS.createDirAll ("/" ++ "/".intercalate location)
  | (location, .file content) =>
    IO.FS.writeBinFile ("/" ++ "/".intercalate location) ⟨content.toArray⟩

def execute (arguments : Arguments) : IO UInt32 := do
  let blank := FileTree.ofWorkingDirectory (← workingLocation)
  let configured ← probeAll blank (Program.footprint arguments blank)
  let before ← probeAll configured (Program.footprint arguments configured)
  let completion := Program.run Launcher.builtin arguments before
  (completion.tree.changesSince before).forM writeBack
  IO.print completion.printed
  match completion.result with
  | .ok () => return 0
  | .error failure =>
    IO.eprintln ("Error: " ++ failure.message)
    return 1

end DramSweep

def main (arguments : List String) : IO UInt32 := do
  match DramSweep.CommandLine.parse arguments with
  | .ok arguments => DramSweep.execute arguments
  | .error e =>
    IO.eprintln e.message
    return 2
