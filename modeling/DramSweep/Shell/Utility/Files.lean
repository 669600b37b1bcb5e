import DramSweep.Shell.Utility

/-!
Programs that make, copy, move, remove and list files, and those that take paths apart.
-/

namespace DramSweep.Shell.Utility

def mkdir : Program := withOptions "pv" "m" 1 fun arguments => do
  if arguments.operands.isEmpty then Run.complain "mkdir: missing operand" 1
  else forEach arguments.operands fun operand => do
    let path := toPath operand
    let message := "mkdir: cannot create directory '" ++ operand ++ "'"
    if arguments.has 'p' then
      let shell ← get
      let (tree, result) := shell.tree.createDirectories path
      set { shell with tree }
      match result with
      | .ok _ => return true
      | .error fault => refuse (message ++ ": " ++ reason fault)
    else change message fun tree => tree.createDirectory path

/-- Removes directories without content. -/
def rmdir : Program := withOptions "v" "" 1 fun arguments => do
  if arguments.operands.isEmpty then Run.complain "rmdir: missing operand" 1
  else forEach arguments.operands fun operand => do
    let message := "rmdir: failed to remove '" ++ operand ++ "'"
    let tree := (← get).tree
    let names := (tree.walk (toPath operand)).toOption.elim [] tree.namesBelow
    if !names.isEmpty then refuse (message ++ ": Directory not empty")
    else change message fun tree => do
      let location ← tree.walk (toPath operand)
      match tree.at? location with
      | none => throw .notFound
      | some (.file _) => throw .notDirectory
      | some .directory => return tree.remove location

/-- Removes files, and directories where it is told so. -/
def rm : Program := withOptions "dfirRvI" "" 1 fun arguments => do
  let force := arguments.has 'f'
  let deep := arguments.has 'r' || arguments.has 'R'
  if arguments.operands.isEmpty && !force then Run.complain "rm: missing operand" 1
  else forEach arguments.operands fun operand => do
    if force && (← entry? operand).isNone then return true
    change ("rm: cannot remove '" ++ operand ++ "'") fun tree => do
      let location ← tree.walk (toPath operand)
      match tree.at? location with
      | none => throw .notFound
      | some .directory => if deep then return tree.remove location else throw .isDirectory
      | some (.file _) => return tree.remove location

/-- Where something goes: into a directory under its own name, or to the place that is named. -/
def destination (tree : FileTree) (source target : String) : Except Fault Location := do
  let location ← tree.walk (FileTree.withoutTrailing (toPath target))
  match tree.at? location with
  | some .directory =>
    let name := (← tree.walk (toPath source)).getLast?
    return location ++ name.toList
  | _ => return location

/-- Copies one thing, or moves it. -/
def transfer (deep keep : Bool) (source target : String) (tree : FileTree) :
    Except Fault FileTree := do
  if source = nullDevice && keep then return ← tree.writeFile (toPath target) []
  let start ← tree.walk (toPath source)
  let goal ← destination tree source target
  if start = goal then throw .alreadyThere
  match tree.at? start, tree.at? goal with
  | none, _ => throw .notFound
  | some .directory, found =>
    if !deep then throw .isDirectory
    if found.any (· ≠ .directory) then throw .notDirectory
    if start.isPrefixOf goal then throw .badName
    let copied := tree.copy start goal
    return if keep then copied else copied.remove start
  | some (.file _), some .directory => throw .isDirectory
  | some (.file content), _ =>
    if target.toList.getLast? = some '/' && !tree.isDirectory (toPath target) then
      throw .notDirectory
    let copied := tree.put goal (.file content)
    return if keep then copied else copied.remove start

/-- Copies or moves one thing, or says what cannot be done. -/
def transferOne (program : String) (deep keep : Bool) (target source : String) : Run Bool := do
  if source ≠ nullDevice && (← entry? source).isNone then
    return ← refuse (program ++ ": cannot stat '" ++ source ++ "': " ++ reason .notFound)
  let message := program ++ ": cannot create regular file '" ++ target ++ "'"
  change message (transfer deep keep source target)

/-- Copies or moves several things. More than one goes into a directory. -/
def transferAll (program : String) (deep keep : Bool) (operands : List String) : Run Unit := do
  match operands.reverse with
  | target :: first :: others =>
    if !others.isEmpty && !(← get).tree.isDirectory (toPath target) then
      Run.complain (program ++ ": target '" ++ target ++ "'") 1
    else forEach (first :: others).reverse (transferOne program deep keep target)
  | _ => Run.complain (program ++ ": missing file operand") 1

/-- Copies files, and directories where it is told so. -/
def cp : Program := withOptions "adfiLPprRTuv" "" 1 fun arguments =>
  let deep := arguments.has 'r' || arguments.has 'R' || arguments.has 'a'
  transferAll "cp" deep true arguments.operands

def mv : Program := withOptions "fiuv" "" 1 fun arguments =>
  transferAll "mv" true false arguments.operands

def touch : Program := withOptions "acfhm" "drt" 1 fun arguments => do
  if arguments.operands.isEmpty then Run.complain "touch: missing file operand" 1
  else forEach arguments.operands fun operand => do
    if (← entry? operand).isSome || arguments.has 'c' then return true
    else change ("touch: cannot touch '" ++ operand ++ "'") fun tree =>
      tree.writeFile (toPath operand) []

def ls : Program := withOptions "1aACdhqrtU" "" 2 fun arguments => do
  let tree := (← get).tree
  let lines := fun (names : List String) => String.join (names.map (· ++ "\n"))
  let ordered := fun (names : List String) =>
    lines (if arguments.has 'r' then names.reverse else names)
  let inside := fun (operand : String) =>
    match tree.walk (toPath operand) with
    | .error _ => ""
    | .ok location =>
      let names := (tree.namesBelow location).map ofText
      let shown := names.filter fun name => name.toList.head? ≠ some '.'
      ordered (if arguments.has 'a' then "." :: ".." :: names
        else if arguments.has 'A' then names else shown)
  let operands := if arguments.operands.isEmpty then ["."] else arguments.operands
  let operands := operands.mergeSort fun a b => !(b < a)
  let operands := if arguments.has 'r' then operands.reverse else operands
  let isDirectory := fun operand => !arguments.has 'd' && tree.isDirectory (toPath operand)
  let (directories, others) := operands.partition isDirectory
  let (files, missing) := others.partition fun operand => tree.contains (toPath operand)
  for operand in missing do
    let _ ← refuse ("ls: cannot access '" ++ operand ++ "': " ++ reason .notFound)
  let blocks := (if files.isEmpty then [] else [lines files]) ++ directories.map fun operand =>
    (if operands.length > 1 then operand ++ ":\n" else "") ++ inside operand
  Run.print ("\n".intercalate blocks)
  if !missing.isEmpty then Run.finish 2

/-- A path without separators at its end. The root keeps one. -/
def trimmedPath (path : String) : List Char :=
  let kept := (path.toList.reverse.dropWhile (· = '/')).reverse
  if kept.isEmpty then path.toList.take 1 else kept

def lastName (path ending : String) : String :=
  let path := trimmedPath path
  let name := if path = ['/'] then path else (path.reverse.takeWhile (· ≠ '/')).reverse
  let cut := name.length - ending.length
  String.ofList (if name.drop cut = ending.toList && 0 < cut then name.take cut else name)

/-- Prints the last names of paths. -/
def basename : Program := fun arguments => do
  match Arguments.read? false ['a'] ['s'] arguments with
  | none => Run.complain "basename: invalid option" 1
  | some arguments =>
    let several := arguments.has 'a' || (arguments.value? 's').isSome
    let printAll := fun (paths : List String) (ending : String) =>
      Run.print (String.join (paths.map fun path => lastName path ending ++ "\n"))
    match several, arguments.operands with
    | false, [path] => printAll [path] ""
    | false, [path, ending] => printAll [path] ending
    | true, path :: paths => printAll (path :: paths) ((arguments.value? 's').getD "")
    | _, _ => Run.complain "basename: wrong number of operands" 1

def withoutLast (path : String) : String :=
  let above := (trimmedPath path).reverse.dropWhile (· ≠ '/')
  let above := (above.dropWhile (· = '/')).reverse
  if !(trimmedPath path).contains '/' then "."
  else if above.isEmpty then "/" else String.ofList above

def dirname : Program := withOptions "" "" 1 fun arguments => do
  if arguments.operands.isEmpty then Run.complain "dirname: missing operand" 1
  else Run.print (String.join (arguments.operands.map fun path => withoutLast path ++ "\n"))

def tee : Program := withOptions "ai" "" 1 fun arguments => do
  let text ← Run.readAll 0
  let _ ← Run.write 1 text
  forEach arguments.operands fun operand =>
    change ("tee: " ++ operand) fun tree =>
      let path := toPath operand
      let before := if arguments.has 'a' then (tree.readFile? path).getD [] else []
      tree.writeFile path (before ++ toBytes text)

end DramSweep.Shell.Utility
