import DramSweep.Path
import DramSweep.Text.Bytes
import Std.Data.ExtTreeMap

/-!
Files and directories as a value, with the directory that relative paths start from. A path is
walked from segment to segment: each step needs a directory to stand in, so `..` leads back out of
a directory that exists. Operations give a new tree or a fault.
-/

namespace DramSweep

open Std (ExtTreeMap)

/-- A place in the tree: the names on the way down from its root. -/
abbrev Location := List String

/-- What stands at a location. -/
inductive Entry where
  | directory
  | file (content : Bytes)
  deriving Repr, DecidableEq

/-- Why a file operation cannot be done. -/
inductive Fault where
  | notFound
  | notDirectory
  | isDirectory
  | alreadyThere
  | nameTooLong
  | badName
  deriving Repr, DecidableEq

/-- What stands below the root, which is always a directory itself. -/
structure FileTree where
  entries : ExtTreeMap Location Entry := ∅
  /-- Where relative paths start. -/
  workingDirectory : Location := []

namespace FileTree

def ofWorkingDirectory (location : Location) : FileTree where
  entries := .ofList ((List.range location.length).map fun n =>
    (location.take (n + 1), Entry.directory))
  workingDirectory := location

instance : Inhabited FileTree := ⟨ofWorkingDirectory []⟩

def at? (tree : FileTree) (location : Location) : Option Entry :=
  if location = [] then some .directory else tree.entries[location]?

def maxNameBytes : Nat := 255

def maxPathBytes : Nat := 4095

/-- One step of a walk. It starts from a directory; the root is its own parent. -/
def step (tree : FileTree) (location : Location) (segment : List Char) :
    Except Fault Location :=
  match tree.at? location with
  | none => .error .notFound
  | some (.file _) => .error .notDirectory
  | some .directory =>
    if segment = [] ∨ segment = ['.'] then .ok location
    else if segment = ['.', '.'] then .ok location.dropLast
    else
      let name := String.ofList segment
      if maxNameBytes < name.utf8ByteSize then .error .nameTooLong
      else .ok (location ++ [name])

/-- The location that a path leads to. Nothing need stand there, but all on the way must be
directories. -/
def walk (tree : FileTree) (path : Path) : Except Fault Location :=
  if path.text = "" then .error .notFound
  else if path.text.toList.contains '\x00' then .error .badName
  else if maxPathBytes < path.text.utf8ByteSize then .error .nameTooLong
  else path.segments.foldlM tree.step (if path.isAbsolute then [] else tree.workingDirectory)

def find? (tree : FileTree) (path : Path) : Option Entry :=
  match tree.walk path with
  | .ok location => tree.at? location
  | .error _ => none

def isDirectory (tree : FileTree) (path : Path) : Bool :=
  tree.find? path = some .directory

def isFile (tree : FileTree) (path : Path) : Bool :=
  match tree.find? path with
  | some (.file _) => true
  | _ => false

def contains (tree : FileTree) (path : Path) : Bool :=
  (tree.find? path).isSome

/-- What can be read from a path that can be opened. A directory can be opened, but nothing can
be read from it. -/
def open? (tree : FileTree) (path : Path) : Option Bytes :=
  (tree.find? path).map fun
    | .directory => []
    | .file content => content

def readFile? (tree : FileTree) (path : Path) : Option Bytes :=
  match tree.find? path with
  | some (.file content) => some content
  | _ => none

def put (tree : FileTree) (location : Location) (entry : Entry) : FileTree :=
  { tree with entries := tree.entries.insert location entry }

/-- Takes away what stands at a location and below it. -/
def remove (tree : FileTree) (location : Location) : FileTree :=
  { tree with entries := tree.entries.filter fun other _ => !location.isPrefixOf other }

/-- Puts what stands at a location and below it at another one as well. -/
def copy (tree : FileTree) (source target : Location) : FileTree :=
  tree.entries.foldl (fun changed location entry =>
    match source.isPrefixOf? location with
    | some below => changed.put (target ++ below) entry
    | none => changed) tree

theorem at?_put_self (tree : FileTree) {location : Location} (h : location ≠ []) (entry : Entry) :
    (tree.put location entry).at? location = some entry := by
  simp [at?, put, h]

theorem at?_put_of_ne (tree : FileTree) {location other : Location} (h : location ≠ other)
    (entry : Entry) : (tree.put location entry).at? other = tree.at? other := by
  simp [at?, put, ExtTreeMap.getElem?_insert, h]

/-- The names of what stands directly below a location, in ascending order. -/
def namesBelow (tree : FileTree) (location : Location) : List String :=
  tree.entries.keys.filterMap fun other =>
    if other.dropLast = location then other.getLast? else none

def withoutTrailing (path : Path) : Path :=
  let kept := (path.text.toList.reverse.dropWhile (· = '/')).reverse
  if kept = [] then path else ⟨String.ofList kept⟩

/-- Makes one directory. Its parent must be there. -/
def createDirectory (tree : FileTree) (path : Path) : Except Fault FileTree := do
  let location ← tree.walk (withoutTrailing path)
  match tree.at? location with
  | some _ => throw .alreadyThere
  | none => return tree.put location .directory

def ensureDirectory (tree : FileTree) (path : Path) : Except Fault FileTree :=
  match tree.createDirectory path with
  | .ok tree => .ok tree
  | .error fault => if tree.isDirectory path then .ok tree else .error fault

/-- Makes directories, each below the next one in the list. The way up ends at the first one that
is there or can be made, and the way back makes the others. What was made stays, also when a later
one fails. -/
def createChain (tree : FileTree) : List Path → FileTree × Except Fault Unit
  | [] => (tree, .ok ())
  | path :: above =>
    match tree.createDirectory path with
    | .ok tree => (tree, .ok ())
    | .error .notFound =>
      match createChain tree above with
      | (tree, .error fault) => (tree, .error fault)
      | (tree, .ok ()) =>
        match tree.ensureDirectory path with
        | .ok tree => (tree, .ok ())
        | .error fault => (tree, .error fault)
    | .error fault => (tree, if tree.isDirectory path then .ok () else .error fault)

/-- Makes a directory with all that are missing above it. -/
def createDirectories (tree : FileTree) (path : Path) : FileTree × Except Fault Unit :=
  if path.text = "" then (tree, .ok ())
  else createChain tree path.upwards

/-- Makes a file without content, or cuts one down to none. -/
def createFile (tree : FileTree) (path : Path) : Except Fault (Location × FileTree) := do
  let location ← tree.walk path
  match tree.at? location with
  | some .directory => throw .isDirectory
  | _ => return (location, tree.put location (.file []))

/-- A file's content with new bytes from an offset on. A gap in front of them is filled with
zeros. No bytes change nothing. -/
def overwrite (content : Bytes) (offset : Nat) (bytes : Bytes) : Bytes :=
  if bytes = [] then content
  else content.take offset ++ List.replicate (offset - content.length) 0 ++ bytes ++
    content.drop (offset + bytes.length)

def writeAt (tree : FileTree) (location : Location) (offset : Nat) (bytes : Bytes) : FileTree :=
  match tree.at? location with
  | some (.file content) => tree.put location (.file (overwrite content offset bytes))
  | _ => tree

def writeFile (tree : FileTree) (path : Path) (content : Bytes) : Except Fault FileTree := do
  let (location, tree) ← tree.createFile path
  return tree.put location (.file content)

/-- The tree with a file and the directories above it, where nothing stands in the way. -/
def withFile (tree : FileTree) (path : Path) (content : Bytes) : FileTree :=
  let tree := match path.parent? with
    | some parent => (tree.createDirectories parent).1
    | none => tree
  match tree.writeFile path content with
  | .ok tree => tree
  | .error _ => tree

/-- The tree with a directory and those above it, where nothing stands in the way. -/
def withDirectory (tree : FileTree) (path : Path) : FileTree :=
  (tree.createDirectories path).1

/-- What was not there before with the same content. A directory comes before what is in it. -/
def changesSince (tree before : FileTree) : List (Location × Entry) :=
  tree.entries.toList.filter fun (location, entry) => before.entries[location]? ≠ some entry

/-- What changed below the working directory, with the names on the way down from there. -/
def localChangesSince (tree before : FileTree) : List (Location × Entry) :=
  (tree.changesSince before).filterMap fun (location, entry) =>
    (tree.workingDirectory.isPrefixOf? location).map (·, entry)

end FileTree

end DramSweep
