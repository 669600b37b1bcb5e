import DramSweep.Catalog
import DramSweep.Quantity
import DramSweep.Number.Reading
import DramSweep.Text.Blank
import DramSweep.Text.Bytes
import Std.Data.ExtTreeMap

/-!
What the lines of a report say. A line of at least two words names a statistic and gives its
value; comments, distributions, unknown names and malformed indices are passed over. The
statistics of a report are gathered in three tables: memory and system scalars, where the last
value of a name stands, and indexed families, where every entry is kept in file order.
-/

namespace DramSweep

open Std (ExtTreeMap)

/-- One entry of an indexed family, such as `[channel, rank, bank]` and its count. -/
abbrev IndexedEntry := List Nat × Float

/-- A statistic that a line of a report gives. -/
inductive Statistic where
  | memory (name : String) (value : Float)
  | system (name : String) (value : Float)
  | indexed (family : String) (index : List Nat) (value : Float)

namespace Statistic

/-- The index numbers of a suffix such as `0_1_2`. All parts must be indices. -/
def readIndices? (suffix : List Char) : Option (List Nat) :=
  (suffix.splitOn '_').mapM Number.readIndex?

/-- Whether a first word can name a statistic: comments and distributions do not. -/
def isName (word : List Char) : Bool :=
  word.head? ≠ some '#' && !word.contains '-'

def readPair? (line : String) : Option (String × Float) :=
  match Text.words line.toList with
  | name :: value :: _ =>
    if isName name then (Number.readFloat? value).map (String.ofList name, ·) else none
  | _ => none

def ofPair? (rawName : String) (value : Float) : Option Statistic :=
  match Catalog.listing? rawName with
  | some (.scalar name) =>
    if Catalog.isSimulatorName rawName then some (.memory name value)
    else some (.system name value)
  | _ =>
    (Catalog.familyOf? rawName).bind fun (family, suffix) =>
      (readIndices? suffix).map fun index => .indexed family index value

def ofLine? (line : String) : Option Statistic :=
  (readPair? line).bind fun (name, value) => ofPair? name value

end Statistic

/-- The statistics of a report. -/
structure Counters where
  /-- Scalars of the memory simulator, by canonical name. -/
  memory : ExtTreeMap String Float := ∅
  /-- Scalars of the full system. No metric is derived from them. -/
  system : ExtTreeMap String Float := ∅
  /-- Families by name, then dimension (one less than the length of the index), in file order. -/
  indexed : ExtTreeMap String (ExtTreeMap Nat (List IndexedEntry)) := ∅

namespace Counters

def empty : Counters := {}

/-- Files an entry under its family and dimension, behind the entries already there. -/
def fileEntry (table : ExtTreeMap String (ExtTreeMap Nat (List IndexedEntry)))
    (family : String) (index : List Nat) (value : Float) :
    ExtTreeMap String (ExtTreeMap Nat (List IndexedEntry)) :=
  let dimensions := table.getD family ∅
  let entries := dimensions.getD (index.length - 1) []
  table.insert family (dimensions.insert (index.length - 1) (entries ++ [(index, value)]))

/-- Takes one more statistic into the tables. -/
def record (counters : Counters) : Statistic → Counters
  | .memory name value => { counters with memory := counters.memory.insert name value }
  | .system name value => { counters with system := counters.system.insert name value }
  | .indexed family index value =>
    { counters with indexed := fileEntry counters.indexed family index value }

/-- The tables of a list of statistics, the earliest first. -/
def ofStatistics (statistics : List Statistic) : Counters :=
  statistics.foldl record empty

@[simp] theorem ofStatistics_nil : ofStatistics [] = empty := rfl

/-- One more statistic at the end is recorded last. -/
theorem ofStatistics_concat (statistics : List Statistic) (last : Statistic) :
    ofStatistics (statistics ++ [last]) = (ofStatistics statistics).record last := by
  simp [ofStatistics]

def ofLines (lines : List String) : Counters :=
  ofStatistics (lines.filterMap Statistic.ofLine?)

def ofBytes (bytes : Bytes) : Counters :=
  ofLines bytes.lines

def entries? (counters : Counters) (family : String) (dimension : Nat) :
    Option (List IndexedEntry) :=
  (counters.indexed[family]?).bind fun dimensions => dimensions[dimension]?

def values? (counters : Counters) (family : String) (dimension : Nat) : Option (List Float) :=
  (counters.entries? family dimension).map fun entries => entries.map Prod.snd

/-- The deepest dimension at which a family has entries. -/
def depth? (counters : Counters) (family : String) : Option Nat :=
  (counters.indexed[family]?).bind ExtTreeMap.maxKey?

/-- The values of a family at its deepest dimension, in file order. -/
def deepest? (counters : Counters) (family : String) : Option (List Float) :=
  (counters.depth? family).bind (counters.values? family)

def isEmpty (counters : Counters) : Bool :=
  counters.memory.isEmpty && counters.system.isEmpty && counters.indexed.isEmpty

end Counters

end DramSweep
