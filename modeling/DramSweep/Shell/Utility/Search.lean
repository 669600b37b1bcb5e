import DramSweep.Shell.Regex
import DramSweep.Shell.Utility

/-!
Searching files for lines that match one of several regular expressions.
-/

namespace DramSweep.Shell.Utility

/-- What a search looks for and what it shows. -/
structure Search where
  expressions : List Regex
  /-- Whether letters match in either case. -/
  folded : Bool
  whole : Bool
  /-- Whether lines that do not match are wanted. -/
  inverted : Bool

namespace Search

def expression? (extended literal folded : Bool) (text : List Char) : Option Regex :=
  let text := if folded then text.map Char.toLower else text
  if literal then some (.ofText text) else Regex.read? extended text

def compared (search : Search) (line : List Char) : Array Char :=
  (if search.folded then line.map Char.toLower else line).toArray

/-- The first match in a line from a position on, the longest of those that begin there. -/
def next? (search : Search) (line : Array Char) (position : Nat) : Option (Nat × Nat) :=
  let found := search.expressions.filterMap fun regex => regex.find? line position
  found.foldl (fun best (first, place) =>
    match best with
    | some (start, finish) =>
      if first < start || (first = start && finish < place.position) then
        some (first, place.position)
      else best
    | none => some (first, place.position)) none

def selects (search : Search) (line : List Char) : Bool :=
  let line := search.compared line
  let matching :=
    if search.whole then search.expressions.any fun regex =>
      (regex.ends line { position := 0 }).any fun place => place.position = line.size
    else (search.next? line 0).isSome
  matching != search.inverted

/-- The parts of a line that match, without empty ones. `fuel` bounds their number. -/
def parts (search : Search) (line : List Char) : Nat → Nat → List (List Char)
  | 0, _ => []
  | fuel + 1, position =>
    match search.next? (search.compared line) position with
    | some (first, finish) =>
      if first = finish then parts search line fuel (finish + 1)
      else (line.drop first).take (finish - first) :: parts search line fuel finish
    | none => []

end Search

/-- Prints the lines of files that match. -/
def grepWith (extended literal : Bool) : Program :=
  withOptions "EFGchHilLnoqsvx" "em" 2 fun arguments => do
    let given := arguments.valuesOf 'e'
    let (patterns, operands) := match given, arguments.operands with
      | [], pattern :: operands => ([pattern], operands)
      | given, operands => (given, operands)
    let texts := patterns.flatMap fun text => text.toList.splitOn '\n'
    let extended := (extended || arguments.has 'E') && !arguments.has 'G'
    let literal := literal || arguments.has 'F'
    let folded := arguments.has 'i'
    match patterns.isEmpty, texts.mapM (Search.expression? extended literal folded) with
    | false, some expressions =>
      let search : Search :=
        { expressions, folded, whole := arguments.has 'x', inverted := arguments.has 'v' }
      let (found, complete) ← contents "grep" operands
      let named := arguments.has 'H' || (operands.length > 1 && !arguments.has 'h')
      let limit := (arguments.value? 'm').bind Integer.count?
      let mut isFound := false
      let mut output := ""
      for (operand, text) in found do
        let name := if operand = "-" then "(standard input)" else operand
        let title := if named then name ++ ":" else ""
        let selected := (bareLines text).zipIdx.filter fun (line, _) => search.selects line.toList
        let selected := match limit with
          | some limit => selected.take limit
          | none => selected
        if !selected.isEmpty then isFound := true
        if arguments.has 'l' then
          if !selected.isEmpty then output := output ++ name ++ "\n"
        else if arguments.has 'L' then
          if selected.isEmpty then output := output ++ name ++ "\n"
        else if arguments.has 'c' then
          output := output ++ title ++ Nat.repr selected.length ++ "\n"
        else
          for (line, index) in selected do
            let title := title ++ (if arguments.has 'n' then Nat.repr (index + 1) ++ ":" else "")
            let shown := if !arguments.has 'o' then [line]
              else if search.inverted then []
              else (search.parts line.toList (line.length + 1) 0).map String.ofList
            output := output ++ String.join (shown.map fun part => title ++ part ++ "\n")
      if arguments.has 'q' then Run.finish (if isFound then 0 else if complete then 1 else 2)
      else
        Run.print output
        Run.finish (if !complete then 2 else if isFound then 0 else 1)
    | _, _ => Run.complain "grep: invalid pattern" 2

end DramSweep.Shell.Utility
