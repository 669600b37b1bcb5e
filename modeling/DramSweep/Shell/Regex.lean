import DramSweep.Shell.Pattern

/-!
Regular expressions over a line, in two spellings: in the plain one brackets, bars and counts need
a backslash, in the extended one they do without. A match begins as far left as one can, and of
those that begin there the longest is taken.
-/

namespace DramSweep.Shell

/-- A regular expression. Groups are numbered by their opening brackets. -/
inductive Regex where
  | empty
  | start
  | finish
  /-- Where a word begins, or where one ends, as the flags say. -/
  | border (begins ends : Bool)
  /-- One of the characters of some ranges, ends included, or none of them. -/
  | oneOf (negated : Bool) (ranges : List (Char × Char))
  | group (number : Nat) (body : Regex)
  | again (number : Nat)
  | both (first second : Regex)
  | either (first second : Regex)
  | times (least : Nat) (most : Option Nat) (body : Regex)
  deriving Repr, DecidableEq

namespace Regex

/-- Where a match stands: the position it has reached, and the ends of the groups. -/
structure Place where
  position : Nat
  groups : List (Nat × Nat × Nat) := []
  deriving Repr, DecidableEq

def wordRanges : List (Char × Char) :=
  [('a', 'z'), ('A', 'Z'), ('0', '9'), ('_', '_')]

def isWordAt (text : Array Char) (position : Nat) : Bool :=
  text[position]?.any fun c => wordRanges.any fun (low, high) => low ≤ c && c ≤ high

/-- Repeats a step: the places that are reached, those after more steps first. A step that does not
move is not repeated. `fuel` bounds the number of steps. -/
def iterate (step : Place → List Place) (least : Nat) (most : Option Nat) :
    Nat → Nat → Place → List Place
  | 0, _, place => [place]
  | fuel + 1, count, place =>
    let more := if most.any (· ≤ count) then [] else
      (step place).flatMap fun next =>
        if next.position = place.position && least ≤ count then []
        else iterate step least most fuel (count + 1) next
    let here := if least ≤ count then [place] else []
    (more ++ here).eraseDups

/-- The places that a match can reach, in the order of preference. -/
def ends (text : Array Char) : Regex → Place → List Place
  | .empty, place => [place]
  | .start, place => if place.position = 0 then [place] else []
  | .finish, place => if place.position = text.size then [place] else []
  | .border begins ends, place =>
    let before := 0 < place.position && isWordAt text (place.position - 1)
    let behind := isWordAt text place.position
    if (begins && !before && behind) || (ends && before && !behind) then [place] else []
  | .oneOf negated ranges, place =>
    match text[place.position]? with
    | some c =>
      if (ranges.any fun (low, high) => low ≤ c && c ≤ high) != negated then
        [{ place with position := place.position + 1 }]
      else []
    | none => []
  | .group number body, place =>
    (ends text body place).map fun next =>
      { next with groups := (number, place.position, next.position) ::
          next.groups.filter fun (other, _) => other ≠ number }
  | .again number, place =>
    match place.groups.lookup number with
    | some (low, high) =>
      let taken := (text.extract low high).toList
      let next := place.position + taken.length
      if (text.extract place.position next).toList = taken then [{ place with position := next }]
      else []
    | none => []
  | .both first second, place => (ends text first place).flatMap (ends text second)
  | .either first second, place => ends text first place ++ ends text second place
  | .times least most body, place =>
    iterate (ends text body) least most (text.size + least + 1) 0 place

def furthest? : List Place → Option Place
  | [] => none
  | place :: rest =>
    match furthest? rest with
    | some other => if place.position < other.position then some other else some place
    | none => some place

def matchAt? (regex : Regex) (text : Array Char) (position : Nat) : Option Place :=
  furthest? (regex.ends text { position })

/-- The first match that begins at a position or behind it: its beginning and its end. `fuel`
bounds the number of positions. -/
def search? (regex : Regex) (text : Array Char) : Nat → Nat → Option (Nat × Place)
  | 0, _ => none
  | fuel + 1, position =>
    match regex.matchAt? text position with
    | some place => some (position, place)
    | none => search? regex text fuel (position + 1)

/-- The first match in a text that begins at a position or behind it. -/
def find? (regex : Regex) (text : Array Char) (position : Nat) : Option (Nat × Place) :=
  regex.search? text (text.size + 1 - position) position

def ofText (text : List Char) : Regex :=
  text.foldr (fun c rest => .both (.oneOf false [(c, c)]) rest) .empty

def hasGroup : Regex → Bool
  | .group _ _ => true
  | .both first second | .either first second => first.hasGroup || second.hasGroup
  | .times _ _ body => body.hasGroup
  | _ => false

/-- What is left of an expression, and how many groups were opened. -/
structure Source where
  rest : List Char
  opened : Nat := 0
  /-- Whether brackets, bars and counts need no backslash. -/
  extended : Bool := false

/-- Reads something off the front of an expression, or finds a mistake. -/
abbrev Reading := StateT Source Option

def leave (rest : List Char) : Reading Unit :=
  modify fun source => { source with rest }

/-- Whether the sign of a construct is next, with or without a backslash as the spelling has it;
then it is taken. -/
def accept (sign : Char) : Reading Bool := do
  let source ← get
  match source.extended, source.rest with
  | true, c :: rest | false, '\\' :: c :: rest =>
    if c = sign then leave rest; return true
    else return false
  | _, _ => return false

/-- Whether a text is at the end of a branch. -/
def closes (extended : Bool) : List Char → Bool
  | [] => true
  | '\\' :: c :: _ => !extended && (c = ')' || c = '|')
  | c :: _ => extended && (c = ')' || c = '|')

def number? : Reading (Option Nat) := do
  let run := (← get).rest.takeWhile Char.isDigit
  if run.isEmpty then return none
  leave ((← get).rest.drop run.length)
  return some (run.foldl (fun n c => 10 * n + (c.toNat - '0'.toNat)) 0)

/-- The counts behind an opening brace, and the closing one. -/
def counts : Reading (Nat × Option Nat) := do
  let least ← number?
  match (← get).rest with
  | ',' :: rest =>
    leave rest
    let most ← number?
    if !(← accept '\x7d') then failure
    return (least.getD 0, most)
  | _ =>
    if least.isNone || !(← accept '\x7d') then failure
    return (least.getD 0, least)

/-- The class that a letter behind a backslash stands for. -/
def shorthand? (c : Char) : Option Regex :=
  let space := [(' ', ' '), ('\t', '\r')]
  match c with
  | 'w' => some (.oneOf false wordRanges)
  | 'W' => some (.oneOf true wordRanges)
  | '<' => some (.border true false)
  | '>' => some (.border false true)
  | 'b' => some (.border true true)
  | 's' => some (.oneOf false space)
  | 'S' => some (.oneOf true space)
  | 'n' => some (.oneOf false [('\n', '\n')])
  | 't' => some (.oneOf false [('\t', '\t')])
  | _ => none

/-- The character or class that is next. `first` says whether a branch begins here. -/
def single (first : Bool) : Reading Regex := do
  let source ← get
  match source.rest with
  | [] => failure
  | '.' :: rest => leave rest; return .oneOf true []
  | '[' :: rest =>
    let (negated, inside) := match rest with
      | '^' :: inside => (true, inside)
      | inside => (false, inside)
    match Pattern.bracket true (inside.length + 1) (inside.map fun c => (c, c = '\\')) with
    | some (ranges, rest) =>
      leave (rest.map Prod.fst)
      return .oneOf negated ranges
    | none => failure
  | '^' :: rest =>
    leave rest
    return if first || source.extended then .start else .oneOf false [('^', '^')]
  | '$' :: rest =>
    leave rest
    return if source.extended || closes false rest then .finish else .oneOf false [('$', '$')]
  | ['\\'] => failure
  | '\\' :: c :: rest =>
    leave rest
    if '1' ≤ c && c ≤ '9' then
      if source.opened < c.toNat - '0'.toNat then failure
      return .again (c.toNat - '0'.toNat)
    return (shorthand? c).getD (.oneOf false [(c, c)])
  | c :: rest => leave rest; return .oneOf false [(c, c)]

/-- What is behind something that can be repeated. `fuel` bounds the number of repetitions. -/
def repeated : Nat → Regex → Reading Regex
  | 0, regex => return regex
  | fuel + 1, regex => do
    match (← get).rest with
    | '*' :: rest =>
      leave rest
      return ← repeated fuel (.times 0 none regex)
    | _ => pure ()
    if ← accept '+' then return ← repeated fuel (.times 1 none regex)
    if ← accept '?' then return ← repeated fuel (.times 0 (some 1) regex)
    if ← accept '\x7b' then
      let (least, most) ← counts
      if most.any (· < least) then failure
      return ← repeated fuel (.times least most regex)
    return regex

mutual

/-- Branches with bars between them. `fuel` bounds the depth. -/
def branches : Nat → Reading Regex
  | 0 => failure
  | fuel + 1 => do
    let first ← branch fuel true
    if ← accept '|' then return .either first (← branches fuel)
    return first

/-- What stands one behind the other. -/
def branch : Nat → Bool → Reading Regex
  | 0, _ => failure
  | fuel + 1, first => do
    let source ← get
    if closes source.extended source.rest then return .empty
    if ← accept '(' then
      let number := source.opened + 1
      modify fun source => { source with opened := number }
      let body ← branches fuel
      if !(← accept ')') then failure
      let piece ← repeated fuel (.group number body)
      return .both piece (← branch fuel false)
    match source.rest with
    | '*' :: rest =>
      if !first then failure
      leave rest
      if source.extended then return ← branch fuel true
      return .both (← repeated fuel (.oneOf false [('*', '*')])) (← branch fuel false)
    | _ => pure ()
    let piece ← single first
    if piece = .start then return .both piece (← branch fuel (!source.extended))
    let piece ← repeated fuel piece
    return .both piece (← branch fuel false)

end

def read? (extended : Bool) (text : List Char) : Option Regex :=
  match (branches (4 * text.length + 8)).run { rest := text, extended } with
  | some (regex, source) => if source.rest.isEmpty then some regex else none
  | none => none

def Place.taken (place : Place) (text : Array Char) (number : Nat) : List Char :=
  match place.groups.lookup number with
  | some (low, high) => (text.extract low high).toList
  | none => []

end Regex

end DramSweep.Shell
