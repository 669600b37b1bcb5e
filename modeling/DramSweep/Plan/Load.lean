import DramSweep.FileTree
import DramSweep.Plan.Decode
import DramSweep.Toml.Document

/-!
Plans from files. The files are layers, the last one on top. A name without a file is also
tried with the extension of documents behind it; the first file that is missing or malformed
decides.
-/

namespace DramSweep

def documentExtension : String := "toml"

/-- Why plans cannot be had from files. -/
inductive ConfigError where
  /-- A file is not there, has another extension, or is not a text. -/
  | file
  | document
  | decode (error : DecodeError)

namespace Plans

/-- A path with more text behind its file name. Without a file name there is none. -/
def appendToName (path : Path) (suffix : String) : Option Path :=
  path.fileName?.map fun name =>
    Path.ofComponents (path.components.dropLast ++ [.name (name ++ suffix.toList)])

def findDocument? (tree : FileTree) (path : Path) : Option Path :=
  if tree.isFile path then
    if path.extension? = some documentExtension.toList then some path else none
  else (appendToName path ("." ++ documentExtension)).filter tree.isFile

/-- How a document is called in messages. -/
def originOf (path : Path) : String :=
  (Path.ofComponents (path.components.filter (· ≠ .here))).text

def readLayer (tree : FileTree) (path : Path) : Except ConfigError Layer :=
  match findDocument? tree path with
  | none => .error .file
  | some found =>
    match (tree.readFile? found).bind Bytes.text? with
    | none => .error .file
    | some text =>
      match Toml.readDocument? text with
      | none => .error .document
      | some members => .ok (Setting.membersOfToml (originOf found) members)

def load (tree : FileTree) (paths : List Path) : Except ConfigError Plans := do
  let layers ← paths.mapM (readLayer tree)
  (decode (Layer.ofLayers layers)).mapError .decode

end Plans

end DramSweep
