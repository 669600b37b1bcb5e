import DramSweep.Shell.Arithmetic
import DramSweep.Shell.Pattern

/-!
What words stand for. The parts of a word become a sequence of characters, some of them quoted;
what came out of an unquoted parameter or command is split into fields where separators stand, and
a field with a sign of a pattern becomes the paths that match it, if there are any.
-/

namespace DramSweep.Shell

/-- A piece of what a word stands for. -/
inductive Atom where
  /-- A character. Where it may be split, a separator ends a field. -/
  | char (c : Char) (quoted splits : Bool)
  /-- Quotes with nothing in them. -/
  | empty
  | start
  /-- The end of one of several arguments. Where it is blank, it counts as a blank separator. -/
  | stop (blank : Bool)
  deriving Repr, DecidableEq

namespace Atom

def ofValue (quoted : Bool) (value : String) : List Atom :=
  if quoted && value.isEmpty then [.empty]
  else
    (if quoted then [] else [.start]) ++ value.toList.map fun c => .char c quoted !quoted

def ofChars (quoted : Bool) (chars : List Char) : List Atom :=
  if quoted && chars.isEmpty then [.empty] else chars.map fun c => .char c quoted false

/-- The atoms of several arguments with ends between them. -/
def ofArguments (quoted blank : Bool) (arguments : List String) : List Atom :=
  [Atom.stop blank].intercalate (arguments.map fun argument =>
    (ofValue quoted argument).filter (· ≠ .start))

/-- An atom of a word that takes the place of an unquoted parameter. -/
def splitting : Atom → Atom
  | .char c quoted _ => .char c quoted !quoted
  | atom => atom

/-- The characters of atoms that are not split, with the first separator between arguments. -/
def marks (separators : List Char) (atoms : List Atom) : List Mark :=
  atoms.flatMap fun
    | .char c quoted _ => [(c, quoted)]
    | .empty | .start => []
    | .stop _ => (separators.take 1).map fun c => (c, true)

def text (separators : List Char) (atoms : List Atom) : String :=
  String.ofList ((marks separators atoms).map Prod.fst)

end Atom

/-- Fields being made of atoms. -/
structure Fields where
  complete : List (List Mark) := []
  growing : Option (List Mark) := none
  /-- Whether only blank separators stand behind the last complete field. -/
  behindBlank : Bool := false

namespace Fields

def finish (fields : Fields) (behindBlank : Bool) : Fields :=
  { complete := fields.complete ++ fields.growing.toList, behindBlank }

/-- Takes in one more atom. A blank separator ends a field; any other one ends a field that may be
empty, blank separators around it being part of it. -/
def add (separators : List Char) (fields : Fields) : Atom → Fields
  | .empty => { fields with growing := some (fields.growing.getD []) }
  | .start => { fields with behindBlank := false }
  | .stop false => fields.finish false
  | .stop true => if fields.growing.isSome then fields.finish true else fields
  | .char c quoted splits =>
    if splits && separators.contains c then
      if c = ' ' || c = '\t' || c = '\n' then
        if fields.growing.isSome then fields.finish true else fields
      else if fields.growing.isSome || fields.behindBlank then fields.finish false
      else { complete := fields.complete ++ [[]] }
    else { fields with growing := some (fields.growing.getD [] ++ [(c, quoted)]) }

def ofAtoms (separators : List Char) (atoms : List Atom) : List (List Mark) :=
  ((atoms.foldl (add separators) {}).finish false).complete

end Fields

/-- The paths that begin with one of those given and go on as the segments of a pattern say. -/
def matchingPaths (tree : FileTree) : List (List Mark) → List String → List String
  | [], paths => paths
  | segment :: rest, paths =>
    let extended := paths.flatMap fun path =>
      if Pattern.isPresent segment then
        let pattern := Pattern.ofMarks segment
        let hidden := (segment.map Prod.fst).head? = some '.'
        match tree.walk (toPath (if path.isEmpty then "." else path)) with
        | .error _ => []
        | .ok location =>
          let names := (tree.namesBelow location).map ofText
          let names := if hidden then "." :: ".." :: names else names
          (names.filter fun name => (hidden || name.toList.head? ≠ some '.') &&
            pattern.isMatch name.toList).map (path ++ ·)
      else [path ++ String.ofList (segment.map Prod.fst)]
    if rest.isEmpty then extended else matchingPaths tree rest (extended.map (· ++ "/"))

/-- The paths that a field stands for. One that matches no path stands for itself. -/
def paths (tree : FileTree) (field : List Mark) : List String :=
  let itself := String.ofList (field.map Prod.fst)
  if !Pattern.isPresent field then [itself]
  else
    let found := (matchingPaths tree (field.splitOnP fun mark => mark.1 = '/') [""]).filter
      fun path => tree.contains (toPath path)
    if found.isEmpty then [itself] else found

/-- Finds out what commands print. -/
abbrev Capture := List Command → Run String

namespace Word

def dropBreaks (text : String) : String :=
  String.ofList (text.toList.reverse.dropWhile (· = '\n')).reverse

def counted (orEmpty : Bool) (value : Option String) : Option String :=
  if orEmpty && value = some "" then none else value

/-- All arguments as one text, with the first separator between them. -/
def joined (shell : State) : String :=
  (String.ofList (shell.separators.take 1)).intercalate shell.arguments

def allArguments (shell : State) (name : String) (quoted : Bool) : List Atom :=
  if name = "*" && quoted then Atom.ofValue true (joined shell)
  else Atom.ofArguments quoted (!quoted && !shell.separators.isEmpty) shell.arguments

def isAll (name : String) : Bool :=
  name = "@" || name = "*"

def parameter (name : String) (quoted : Bool) : Run (List Atom) := do
  let shell ← get
  if isAll name then return allArguments shell name quoted
  match shell.value? name with
  | some value => return Atom.ofValue quoted value
  | none =>
    if shell.options.valueNeeded then Run.fail (name ++ ": parameter not set")
    return Atom.ofValue quoted ""

/-- Whether a parameter has a value that counts. All arguments together always are one. -/
def isSet (shell : State) (name : String) (orEmpty : Bool) : Bool :=
  if isAll name then !orEmpty || (!shell.arguments.isEmpty && shell.arguments ≠ [""])
  else (counted orEmpty (shell.value? name)).isSome

mutual

def atoms (capture : Capture) : Word → Run (List Atom)
  | [] => return []
  | part :: rest => return (← partAtoms capture part) ++ (← atoms capture rest)

def partAtoms (capture : Capture) : Part → Run (List Atom)
  | .text chars quoted => return Atom.ofChars quoted chars
  | .output body quoted => do
    let printed ← capture body
    return Atom.ofValue quoted (dropBreaks (String.ofList (printed.toList.filter (· ≠ '\x00'))))
  | .value expression quoted => do
    let text := Atom.text (← get).separators (← atoms capture expression)
    match Expression.ofText text with
    | .ok expression => return Atom.ofValue quoted (Int.repr (← expression.eval text))
    | .error expected => Expression.reject text expected.message
  | .parameter name change word quoted => do
    let shell ← get
    match change with
    | .keep => parameter name quoted
    | .unknown => Run.fail "Bad substitution"
    | .length =>
      if isAll name then return Atom.ofValue quoted (Nat.repr (joined shell).length)
      let value := shell.value? name
      if shell.options.valueNeeded && value.isNone then
        Run.fail (name ++ ": parameter not set")
      return Atom.ofValue quoted (Nat.repr (value.getD "").length)
    | .orElse orEmpty =>
      if isSet shell name orEmpty then parameter name quoted
      else
        let atoms ← atoms capture word
        return if quoted then (if atoms.isEmpty then [.empty] else atoms)
          else atoms.map Atom.splitting
    | .orAssign orEmpty =>
      if isSet shell name orEmpty then parameter name quoted
      else
        let value := Atom.text shell.separators (← atoms capture word)
        if !isName name.toList then Run.fail (name ++ ": bad variable name")
        Run.assign name value
        return Atom.ofValue quoted value
    | .orFail orEmpty =>
      if isSet shell name orEmpty then parameter name quoted
      else
        let message := Atom.text shell.separators (← atoms capture word)
        let standard := "parameter not set" ++ (if orEmpty then " or null" else "")
        Run.fail (name ++ ": " ++ (if message.isEmpty then standard else message))
    | .andThen orEmpty =>
      if isSet shell name orEmpty then
        let atoms ← atoms capture word
        return if quoted then (if atoms.isEmpty then [.empty] else atoms)
          else atoms.map Atom.splitting
      else return Atom.ofValue quoted ""
    | .trim atEnd longest =>
      let pattern := Pattern.ofMarks (Atom.marks shell.separators (← atoms capture word))
      let cut := fun (value : String) =>
        String.ofList (pattern.trim atEnd longest value.toList)
      if isAll name then
        return allArguments { shell with arguments := shell.arguments.map cut } name quoted
      match shell.value? name with
      | some value => return Atom.ofValue quoted (cut value)
      | none =>
        if shell.options.valueNeeded then Run.fail (name ++ ": parameter not set")
        return Atom.ofValue quoted ""

end

def textOf (capture : Capture) (word : Word) : Run String :=
  return Atom.text (← get).separators (← atoms capture word)

def patternOf (capture : Capture) (word : Word) : Run Pattern :=
  return Pattern.ofMarks (Atom.marks (← get).separators (← atoms capture word))

def fieldsOf (capture : Capture) (word : Word) : Run (List String) := do
  let atoms ← atoms capture word
  let shell ← get
  let fields := Fields.ofAtoms shell.separators atoms
  if shell.options.noPaths then
    return fields.map fun field => String.ofList (field.map Prod.fst)
  return fields.flatMap (paths shell.tree)

/-- The texts that several words stand for. -/
def allFields (capture : Capture) : List Word → Run (List String)
  | [] => return []
  | word :: rest => return (← fieldsOf capture word) ++ (← allFields capture rest)

end Word

end DramSweep.Shell
