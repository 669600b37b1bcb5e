import DramSweep.Json.Value
import DramSweep.Report.Basic

/-!
A report as JSON. Tables are objects with their keys in ascending order, an indexed entry is a
pair of its index and its value, and the references are left out when there are none.
-/

namespace DramSweep

open Std (ExtTreeMap)

/-- A single number stands alone, and the values of the cores are in an array. -/
def Quantity.toJson : Quantity → Json
  | .single value => .double value
  | .perCore values => .array (values.map .double)

def IndexedEntry.toJson (entry : IndexedEntry) : Json :=
  .array [.array (entry.1.map .natural), .double entry.2]

namespace Report

def scalarsJson (table : ExtTreeMap String Float) : Json :=
  .object (table.toList.map fun (name, value) => (name, .double value))

def dimensionsJson (dimensions : ExtTreeMap Nat (List IndexedEntry)) : Json :=
  .object (dimensions.toList.map fun (dimension, entries) =>
    (Nat.repr dimension, .array (entries.map IndexedEntry.toJson)))

def ownMembers (report : Report) : List (String × Json) :=
  [("scalar_stats", scalarsJson report.counters.memory),
    ("system_stats", scalarsJson report.counters.system),
    ("indexed_stats", .object (report.counters.indexed.toList.map fun (family, dimensions) =>
      (family, dimensionsJson dimensions))),
    ("derived_stats", .object (report.derived.toList.map fun (name, value) =>
      (name, value.toJson)))]

mutual

def toJson : Report → Json
  | ⟨counters, derived, references⟩ =>
    let own := ownMembers ⟨counters, derived, []⟩
    match references with
    | [] => .object own
    | references => .object (own ++ [("ref_reports", .array (listToJson references))])

def listToJson : List Report → List Json
  | [] => []
  | report :: rest => toJson report :: listToJson rest

end

def dump (report : Report) : String :=
  report.toJson.pretty

end Report

end DramSweep
