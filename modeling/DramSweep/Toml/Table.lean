/-!
The values of a TOML document, and its tables under construction. A date or time is kept as its text
in canonical form; a table keeps its members in the order of the document, each name once.

While the document is read, a table remembers how it came about: a header may go through tables
that headers made, and may declare one that was only implied so far; a dotted key may only extend
a table that dotted keys made. A pair goes behind the others, also under a name that is there.
-/

namespace DramSweep

/-- A value of a document. -/
inductive Toml where
  | string (s : String)
  | integer (n : Int)
  | real (x : Float)
  | flag (b : Bool)
  | moment (text : String)
  | array (items : List Toml)
  | table (members : List (String × Toml))

namespace Toml

def momentMark : String := "$__toml_private_datetime"

/-- How a table came about. -/
inductive Making where
  /-- A header of a table inside it went through it. -/
  | implied
  | declared
  /-- A dotted key went through it. -/
  | dotted
  deriving Repr, DecidableEq

/-- What a name stands for while the document is read. -/
inductive Node where
  | value (value : Toml)
  | table (making : Making) (members : List (String × Node))
  | tables (earlier : List (List (String × Node))) (last : List (String × Node))

/-- The members of a table under construction, in order. -/
abbrev Members := List (String × Node)

namespace Members

def put (name : String) (node : Node) : Members → Members
  | [] => [(name, node)]
  | (other, old) :: rest =>
    if other = name then (name, node) :: rest else (other, old) :: put name node rest

/-- Whether a table is marked as a moment. No header leads into one. -/
def isMarked (members : Members) : Bool :=
  members.head?.any fun (name, _) => name = momentMark

/-- Gives a value to a key. A key may lead only through tables that dotted keys made. Whether its
last part is new is seen when the document is complete. -/
def assign (value : Toml) : List String → Members → Option Members
  | [], _ => none
  | [name], members => some (members ++ [(name, .value value)])
  | name :: rest, members =>
    match members.lookup name with
    | none => (assign value rest []).map fun inner => members.put name (.table .dotted inner)
    | some (.table .dotted inner) =>
      (assign value rest inner).map fun inner => members.put name (.table .dotted inner)
    | some _ => none

/-- Changes the table that a header leads to, going through tables that headers made. `last`
deals with the last part of the header. -/
def atHeader (last : Option Node → Option Node) : List String → Members → Option Members
  | [], _ => none
  | [name], members =>
    if members.isMarked then none else (last (members.lookup name)).map (members.put name)
  | name :: rest, members =>
    if members.isMarked then none else match members.lookup name with
    | none => (atHeader last rest []).map fun inner => members.put name (.table .implied inner)
    | some (.table .implied inner) =>
      (atHeader last rest inner).map fun inner => members.put name (.table .implied inner)
    | some (.table .declared inner) =>
      (atHeader last rest inner).map fun inner => members.put name (.table .declared inner)
    | some (.tables earlier inner) =>
      (atHeader last rest inner).map fun inner => members.put name (.tables earlier inner)
    | some _ => none

def declare : Option Node → Option Node
  | none => some (.table .declared [])
  | some (.table .implied members) => some (.table .declared members)
  | some _ => none

/-- Begins one more of the tables under a name. -/
def extend : Option Node → Option Node
  | none => some (.tables [] [])
  | some (.tables earlier last) => some (.tables (earlier ++ [last]) [])
  | some _ => none

/-- Changes the members of the open table under a name. -/
def inside (change : Members → Option Members) : Option Node → Option Node
  | some (.table .declared members) => (change members).map (.table .declared)
  | some (.tables earlier last) => (change last).map (.tables earlier)
  | _ => none

end Members

mutual

def Node.close : Node → Toml
  | .value value => value
  | .table _ members => .table (closeMembers members)
  | .tables earlier last => .array (closeTables earlier ++ [.table (closeMembers last)])

def closeMembers : List (String × Node) → List (String × Toml)
  | [] => []
  | (name, node) :: rest => (name, node.close) :: closeMembers rest

/-- Tables under one name, when they are complete. -/
def closeTables : List (List (String × Node)) → List Toml
  | [] => []
  | members :: rest => .table (closeMembers members) :: closeTables rest

end

end Toml

end DramSweep
