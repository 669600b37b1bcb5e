/-!
Paths as texts. Joining keeps the text of both sides; taking a path apart passes over doubled
separators, a trailing separator and `.` in the middle, and keeps `..`.
-/

namespace DramSweep

/-- A path, as it was written. -/
structure Path where
  text : String
  deriving Repr, DecidableEq

namespace Path

/-- A part of a path. -/
inductive Component where
  | root
  /-- A `.` in front of a relative path. -/
  | here
  /-- The parent directory, `..`. -/
  | up
  | name (text : List Char)
  deriving Repr, DecidableEq

def Component.chars : Component → List Char
  | .root => []
  | .here => ['.']
  | .up => ['.', '.']
  | .name text => text

def isAbsolute (path : Path) : Bool :=
  path.text.toList.head? = some '/'

/-- The pieces between separators. -/
def segments (path : Path) : List (List Char) :=
  path.text.toList.splitOn '/'

/-- A segment behind the first one. Empty segments and `.` say nothing. -/
def Component.ofSegment? (segment : List Char) : Option Component :=
  if segment = [] ∨ segment = ['.'] then none
  else if segment = ['.', '.'] then some .up
  else some (.name segment)

def components (path : Path) : List Component :=
  match path.segments with
  | [] => []
  | first :: rest =>
    let start :=
      if path.isAbsolute then some .root
      else if first = ['.'] then some .here
      else Component.ofSegment? first
    start.toList ++ rest.filterMap Component.ofSegment?

def ofComponents : List Component → Path
  | [.root] => ⟨"/"⟩
  | components => ⟨String.ofList (['/'].intercalate (components.map Component.chars))⟩

/-- One path behind another. An absolute one stands on its own, and no separator is doubled. -/
def join (path : Path) (rest : String) : Path :=
  if rest.toList.head? = some '/' then ⟨rest⟩
  else match path.text.toList.getLast? with
    | none | some '/' => ⟨path.text ++ rest⟩
    | some _ => ⟨path.text ++ "/" ++ rest⟩

instance : HDiv Path String Path := ⟨join⟩

/-- An absolute path stands on its own. -/
theorem join_of_absolute (path : Path) {rest : String} (h : rest.toList.head? = some '/') :
    path.join rest = ⟨rest⟩ := by
  simp [join, h]

/-- The path without its last component. The root and the empty path have none. -/
def parent? (path : Path) : Option Path :=
  match path.components.getLast? with
  | none | some .root => none
  | some _ => some (ofComponents path.components.dropLast)

/-- The path and those above it, the longest first. Each is the parent of the one before it. -/
def upwards (path : Path) : List Path :=
  match path.components.length with
  | 0 => []
  | n + 1 => path ::
    (List.range' 1 n).reverse.map fun count => ofComponents (path.components.take count)

def fileName? (path : Path) : Option (List Char) :=
  match path.components.getLast? with
  | some (.name text) => some text
  | _ => none

/-- A name cut at its last point: what is in front of it and what is behind it. A point at the
very start does not count. -/
def cutAtPoint (name : List Char) : List Char × Option (List Char) :=
  let suffix := name.reverse.takeWhile (· ≠ '.')
  match name.reverse.dropWhile (· ≠ '.') with
  | [] | [_] => (name, none)
  | _ :: stem => (stem.reverse, some suffix.reverse)

def extension? (path : Path) : Option (List Char) :=
  path.fileName?.bind fun name => (cutAtPoint name).2

/-- The path with another extension. A path that names no file stays as it is. -/
def withExtension (path : Path) (extension : String) : Path :=
  match path.fileName? with
  | none => path
  | some name =>
    let renamed := (cutAtPoint name).1 ++ '.' :: extension.toList
    ofComponents (path.components.dropLast ++ [.name renamed])

end Path

end DramSweep
