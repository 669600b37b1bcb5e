import DramSweep.FileTree
import DramSweep.Json.Value

/-!
The lists of finished and failed runs, saved as JSON beside each other. The extension of the given
file name gives way to `ok.json` and `err.json`.
-/

namespace DramSweep

/-- Why the lists could not be saved. -/
inductive RunListError where
  | directory (fault : Fault)
  | finished
  | failed
  deriving Repr, DecidableEq

/-- The error in words. That of the directory is left to the system. -/
def RunListError.message? : RunListError → Option String
  | .directory _ => none
  | .finished => some "fail to create ok list"
  | .failed => some "fail to create err list"

namespace RunLists

def finishedPath (file : Path) : Path :=
  file.withExtension "ok.json"

def failedPath (file : Path) : Path :=
  file.withExtension "err.json"

def content (items : List Json) : Bytes :=
  Bytes.ofText (Json.array items).pretty

def makeParent (file : Path) (tree : FileTree) : FileTree × Except Fault Unit :=
  match file.parent? with
  | some parent => tree.createDirectories parent
  | none => (tree, .ok ())

/-- Saves both lists. What was written before a failure stays. -/
def save (finished failed : List Json) (file : Path) (tree : FileTree) :
    FileTree × Except RunListError Unit :=
  match makeParent file tree with
  | (tree, .error fault) => (tree, .error (.directory fault))
  | (tree, .ok ()) =>
    match tree.writeFile (finishedPath file) (content finished) with
    | .error _ => (tree, .error .finished)
    | .ok tree =>
      match tree.writeFile (failedPath file) (content failed) with
      | .error _ => (tree, .error .failed)
      | .ok tree => (tree, .ok ())

end RunLists

end DramSweep
