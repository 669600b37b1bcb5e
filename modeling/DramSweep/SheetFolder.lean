import DramSweep.FileTree
import DramSweep.Text.Quoted

/-!
A directory of comma-separated files, one for each group, opened on first use. Texts gather in the
set up to a limit and reach the files when it is passed or when the set is flushed; opening a group
creates its file or cuts it down.
-/

namespace DramSweep

open Std (ExtTreeMap)

/-- An open file: where it is, how much of it is written, and what is yet to be written. -/
structure Sheet where
  location : Location
  written : Nat := 0
  pending : Bytes := []
  deriving Repr, DecidableEq

namespace Sheet

def capacity : Nat := 8192

/-- Writes bytes at once, behind those that are written. -/
def writeThrough (sheet : Sheet) (bytes : Bytes) (tree : FileTree) : Sheet × FileTree :=
  ({ sheet with written := sheet.written + bytes.length },
    tree.writeAt sheet.location sheet.written bytes)

def flush (sheet : Sheet) (tree : FileTree) : Sheet × FileTree :=
  { sheet with pending := [] }.writeThrough sheet.pending tree

/-- Adds bytes. Where they have no room behind what is pending, that is written first; bytes that
would fill all the room there is are not held back at all. -/
def push (sheet : Sheet) (bytes : Bytes) (tree : FileTree) : Sheet × FileTree :=
  let (sheet, tree) :=
    if capacity < sheet.pending.length + bytes.length then sheet.flush tree else (sheet, tree)
  if capacity ≤ bytes.length then sheet.writeThrough bytes tree
  else ({ sheet with pending := sheet.pending ++ bytes }, tree)

/-- Bytes that have room change no file. -/
theorem push_of_le (sheet : Sheet) {bytes : Bytes} (tree : FileTree)
    (room : sheet.pending.length + bytes.length ≤ capacity) (short : bytes.length < capacity) :
    sheet.push bytes tree = ({ sheet with pending := sheet.pending ++ bytes }, tree) := by
  simp [push, Nat.not_lt.2 room, Nat.not_le.2 short]

end Sheet

/-- Why an output cannot be had. -/
inductive SheetError where
  | directory (path : Path)
  | file (path : Path)
  deriving Repr, DecidableEq

def SheetError.message : SheetError → String
  | .directory path => "cannot create output dir " ++ Text.quote path.text
  | .file path => "the path: " ++ Text.quote path.text ++ " is invalid!"

/-- Open files by group, below one directory. -/
structure SheetFolder where
  directory : Path
  sheets : ExtTreeMap String Sheet := ∅

namespace SheetFolder

def fileOf (outputs : SheetFolder) (group : String) : Path :=
  outputs.directory / (group ++ ".csv")

/-- A set without open files. Its directory is made if it is missing. -/
def create (directory : Path) (tree : FileTree) : FileTree × Except SheetError SheetFolder :=
  match tree.createDirectories directory with
  | (tree, .ok ()) => (tree, .ok { directory })
  | (tree, .error _) => (tree, .error (.directory directory))

def openGroup (outputs : SheetFolder) (group : String) (tree : FileTree) :
    Except SheetError (SheetFolder × FileTree) :=
  if group ∈ outputs.sheets then .ok (outputs, tree)
  else
    let path := outputs.fileOf group
    match tree.createFile path with
    | .error _ => .error (.file path)
    | .ok (location, tree) =>
      .ok ({ outputs with sheets := outputs.sheets.insert group { location } }, tree)

def push (outputs : SheetFolder) (group text : String) (tree : FileTree) :
    SheetFolder × FileTree :=
  match outputs.sheets[group]? with
  | none => (outputs, tree)
  | some sheet =>
    let (sheet, tree) := sheet.push (Bytes.ofText text) tree
    ({ outputs with sheets := outputs.sheets.insert group sheet }, tree)

def write (outputs : SheetFolder) (group text : String) (tree : FileTree) :
    Except SheetError (SheetFolder × FileTree) :=
  (outputs.openGroup group tree).map fun (outputs, tree) => outputs.push group text tree

/-- Adds a text to several groups, up to the first one that cannot be opened. What was added
before stays. -/
def writeEach (outputs : SheetFolder) (text : String) (tree : FileTree) :
    List String → (SheetFolder × FileTree) × Option SheetError
  | [] => ((outputs, tree), none)
  | group :: rest =>
    match outputs.write group text tree with
    | .ok (outputs, tree) => writeEach outputs text tree rest
    | .error e => ((outputs, tree), some e)

/-- Writes everything that is pending, group by group in the order of their names. -/
def flush (outputs : SheetFolder) (tree : FileTree) : SheetFolder × FileTree :=
  ({ outputs with sheets := outputs.sheets.map fun _ sheet => (sheet.flush tree).1 },
    outputs.sheets.foldl (fun tree _ sheet => (sheet.flush tree).2) tree)

end SheetFolder

end DramSweep
