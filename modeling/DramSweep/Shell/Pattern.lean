/-!
Patterns for texts: `*` stands for any text, `?` for any character, and brackets for one of the
characters in them. A quoted character stands for itself.
-/

namespace DramSweep.Shell

abbrev Mark := Char × Bool

/-- A part of a pattern. -/
inductive Symbol where
  | exactly (c : Char)
  | any
  | many
  /-- One of the characters of some ranges, ends included, or none of them. -/
  | oneOf (negated : Bool) (ranges : List (Char × Char))
  deriving Repr, DecidableEq

abbrev Pattern := List Symbol

namespace Pattern

def classRanges (name : List Char) : List (Char × Char) :=
  match String.ofList name with
  | "digit" => [('0', '9')]
  | "lower" => [('a', 'z')]
  | "upper" => [('A', 'Z')]
  | "alpha" => [('a', 'z'), ('A', 'Z')]
  | "alnum" => [('a', 'z'), ('A', 'Z'), ('0', '9')]
  | "xdigit" => [('a', 'f'), ('A', 'F'), ('0', '9')]
  | "blank" => [(' ', ' '), ('\t', '\t')]
  | "space" => [(' ', ' '), ('\t', '\r')]
  | "punct" => [('!', '/'), (':', '@'), ('[', '\x60'), ('\x7b', '~')]
  | "cntrl" => [('\x00', '\x1f'), ('\x7f', '\x7f')]
  | "graph" => [('!', '~')]
  | "print" => [(' ', '~')]
  | _ => []

/-- What stands in brackets up to the closing one, which does not close as the first character:
the ranges, and the rest behind the bracket. `fuel` bounds the length. -/
def bracket (first : Bool) : Nat → List Mark → Option (List (Char × Char) × List Mark)
  | 0, _ => none
  | fuel + 1, marks =>
    match marks with
    | [] => none
    | ('\\', false) :: (c, _) :: rest => bracket first fuel ((c, true) :: rest)
    | (']', false) :: rest =>
      if first then (bracket false fuel rest).map fun (ranges, rest) => ((']', ']') :: ranges, rest)
      else some ([], rest)
    | ('[', false) :: (':', _) :: rest =>
      let name := (rest.map Prod.fst).takeWhile Char.isAlpha
      match rest.drop name.length with
      | (':', _) :: (']', _) :: rest =>
        (bracket false fuel rest).map fun (ranges, rest) => (classRanges name ++ ranges, rest)
      | _ => (bracket false fuel ((':', false) :: rest)).map fun (ranges, rest) =>
          (('[', '[') :: ranges, rest)
    | (low, _) :: ('-', false) :: (high, shielded) :: rest =>
      if high = ']' && !shielded then
        (bracket false fuel (('-', true) :: (high, shielded) :: rest)).map fun (ranges, rest) =>
          ((low, low) :: ranges, rest)
      else (bracket false fuel rest).map fun (ranges, rest) => ((low, high) :: ranges, rest)
    | (c, _) :: rest =>
      (bracket false fuel rest).map fun (ranges, rest) => ((c, c) :: ranges, rest)

/-- The pattern that marked characters spell. `fuel` bounds their number. -/
def read : Nat → List Mark → Pattern
  | 0, _ => []
  | fuel + 1, marks =>
    match marks with
    | [] => []
    | ('*', false) :: rest => .many :: read fuel rest
    | ('?', false) :: rest => .any :: read fuel rest
    | ('\\', false) :: (c, _) :: rest => .exactly c :: read fuel rest
    | ('[', false) :: rest =>
      let (negated, inside) := match rest with
        | ('!', false) :: inside | ('^', false) :: inside => (true, inside)
        | inside => (false, inside)
      match bracket true (inside.length + 1) inside with
      | some (ranges, rest) => .oneOf negated ranges :: read fuel rest
      | none => .exactly '[' :: read fuel rest
    | (c, _) :: rest => .exactly c :: read fuel rest

def ofMarks (marks : List Mark) : Pattern :=
  read marks.length marks

def isMatch : Pattern → List Char → Bool
  | [], text => text.isEmpty
  | .many :: rest, text =>
    (List.range (text.length + 1)).any fun count => isMatch rest (text.drop count)
  | .any :: rest, text =>
    match text with
    | _ :: text => isMatch rest text
    | [] => false
  | .exactly c :: rest, text =>
    match text with
    | d :: text => c = d && isMatch rest text
    | [] => false
  | .oneOf negated ranges :: rest, text =>
    match text with
    | c :: text =>
      (ranges.any fun (low, high) => low ≤ c && c ≤ high) != negated && isMatch rest text
    | [] => false

/-- The text without its shortest or longest end that matches. A text without such an end stays
as it is. -/
def trim (pattern : Pattern) (atEnd longest : Bool) (text : List Char) : List Char :=
  let lengths := List.range (text.length + 1)
  let lengths := if longest then lengths.reverse else lengths
  let cut := lengths.findSome? fun count =>
    let (first, second) :=
      if atEnd then (text.take (text.length - count), text.drop (text.length - count))
      else (text.take count, text.drop count)
    if atEnd then if pattern.isMatch second then some first else none
    else if pattern.isMatch first then some second else none
  cut.getD text

/-- Whether marked characters hold a sign that is not quoted. -/
def isPresent (marks : List Mark) : Bool :=
  marks.any fun (c, quoted) => !quoted && (c = '*' || c = '?' || c = '[')

end Pattern

end DramSweep.Shell
