import DramSweep.Toml.Moment
import DramSweep.Toml.Number
import DramSweep.Toml.Quoted
import DramSweep.Toml.Table

/-!
Documents. A document is a sequence of expressions, each on lines of its own: a key with its
value, the header of a table, or the header of one more table of several under a name. It is read
into expressions first, they are then put together to a table, and last the table is settled: the
names in it must be distinct, and a table with the mark of a moment becomes that moment.
-/

namespace DramSweep.Toml

/-- What stands on a line of a document. -/
inductive Expression where
  | pair (key : List String) (value : Toml)
  | header (key : List String)
  | arrayHeader (key : List String)

def inlineTable (pairs : List (List String × Toml)) : Option Toml :=
  (pairs.foldlM (fun members (key, value) => Members.assign value key members) []).map
    fun members => .table (closeMembers members)

namespace Scan

/-- A number or a moment, behind its first run of characters. -/
def numberOrMoment (text : List Char) : Scan Toml := do
  if beginsDate text then momentFrom text false
  else if ← accept ':' then momentFrom text true
  else number text

/-- A value that begins with a bare run of characters. -/
def bareValue : Scan Toml := do
  let text ← takeSome isBare
  if text = "true".toList then return .flag true
  else if text = "false".toList then return .flag false
  else if text = "inf".toList ∨ text = "nan".toList then numberOrMoment text
  else match text with
    | c :: _ => if c = '-' ∨ c.isDigit then numberOrMoment text else failure
    | [] => failure

mutual

/-- A value. `fuel` bounds the depth and the length of what is in it. -/
def value : Nat → Scan Toml
  | 0 => failure
  | fuel + 1 => do
    if ← accept '"' then return .string (String.ofList (← string '"' true).1)
    else if ← accept '\x27' then return .string (String.ofList (← string '\x27' false).1)
    else if ← accept '[' then return .array (← items fuel)
    else if ← accept '\x7b' then
      blanks
      let pairs ← if ← accept '\x7d' then pure [] else pairs fuel
      match inlineTable pairs with
      | some made => return made
      | none => failure
    else if ← accept '+' then number (← takeSome isBare)
    else bareValue

/-- The items of an array up to its closing bracket. -/
def items : Nat → Scan (List Toml)
  | 0 => failure
  | fuel + 1 => do
    emptyLines ((← get).length + 1)
    if ← accept ']' then return []
    let item ← value fuel
    emptyLines ((← get).length + 1)
    if ← accept ',' then return item :: (← items fuel)
    expect ']'
    return [item]

/-- The pairs of an inline table up to its closing brace, at least one. -/
def pairs : Nat → Scan (List (List String × Toml))
  | 0 => failure
  | fuel + 1 => do
    let key ← key
    expect '='
    blanks
    let item ← value fuel
    blanks
    if ← accept '\x7d' then return [(key, item)]
    expect ','
    return (key, item) :: (← pairs fuel)

end

def expression : Scan Expression := do
  if ← accept '[' then
    let isArray ← accept '['
    let key ← key
    expect ']'
    if isArray then expect ']'
    finishLine
    return if isArray then .arrayHeader key else .header key
  else
    let key ← key
    expect '='
    blanks
    let value ← value (2 * (← get).length + 2)
    finishLine
    return .pair key value

/-- All expressions. `fuel` bounds their number. -/
def expressions : Nat → Scan (List Expression)
  | 0 => return []
  | fuel + 1 => do
    emptyLines ((← get).length + 1)
    if (← peek).isNone then return []
    let first ← expression
    return first :: (← expressions fuel)

end Scan

/-- A line feed for each line feed with a carriage return in front. -/
def foldLineEnds : List Char → List Char
  | '\r' :: '\n' :: rest => '\n' :: foldLineEnds rest
  | c :: rest => c :: foldLineEnds rest
  | [] => []

/-- The expressions of a text. A mark of the byte order in front of it is passed over. -/
def readExpressions? (text : String) : Option (List Expression) :=
  let chars := match text.toList with
    | '\ufeff' :: rest => rest
    | chars => chars
  let chars := foldLineEnds chars
  ((Scan.expressions (chars.length + 1)).run chars).map Prod.fst

/-- A document as far as it is read: its members, and the header that the next pair is under. -/
structure Draft where
  members : Members := []
  header : List String := []

def Draft.add (draft : Draft) : Expression → Option Draft
  | .pair key value =>
    let assigned :=
      if draft.header = [] then Members.assign value key draft.members
      else Members.atHeader (Members.inside (Members.assign value key)) draft.header draft.members
    assigned.map fun members => { draft with members }
  | .header key =>
    (Members.atHeader Members.declare key draft.members).map fun members =>
      { members, header := key }
  | .arrayHeader key =>
    (Members.atHeader Members.extend key draft.members).map fun members =>
      { members, header := key }

/-- The moment that a table is marked as: the one that the text under the mark spells. -/
def markedMoment? : List (String × Toml) → Option (Option Toml)
  | [] => none
  | (name, value) :: _ =>
    if name ≠ momentMark then none
    else match value with
      | .string text => some ((Scan.moment? text.toList).map .moment)
      | _ => some none

mutual

/-- A value with the tables in it settled, or nothing if a name is given twice in one of them or a
marked one spells no moment. What else a marked table holds does not matter. -/
def settle : Toml → Option Toml
  | .array items => (settleItems items).map .array
  | .table members =>
    match markedMoment? members with
    | some settled => settled
    | none =>
      if (members.map Prod.fst).Nodup then (settleMembers members).map .table else none
  | value => some value

def settleItems : List Toml → Option (List Toml)
  | [] => some []
  | item :: rest => do return (← settle item) :: (← settleItems rest)

def settleMembers : List (String × Toml) → Option (List (String × Toml))
  | [] => some []
  | (name, value) :: rest => do return (name, ← settle value) :: (← settleMembers rest)

end

/-- The expressions that matter: a pair in front that marks the whole document is all of it. -/
def decisive : List Expression → List Expression
  | .pair [name] value :: rest =>
    if name = momentMark then [.pair [name] value] else .pair [name] value :: rest
  | expressions => expressions

/-- The members of the table that a document is. One that is a moment has none. -/
def readDocument? (text : String) : Option (List (String × Toml)) := do
  let expressions ← readExpressions? text
  let draft ← (decisive expressions).foldlM Draft.add {}
  match ← settle (.table (closeMembers draft.members)) with
  | .table members => return members
  | _ => return []

end DramSweep.Toml
