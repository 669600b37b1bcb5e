import DramSweep.Proofs.Json.Reader
import DramSweep.Proofs.Traverse
import DramSweep.Report.Dump

/-!
Dumps read back. A report is taken from JSON by the names of its members: tables are objects, a
metric is a number or an array of them, and references may be missing. Main statement: as long as
every double is finite, and is read back from its own text, the dump of a report is read back as
that report.
-/

namespace DramSweep

open Std (ExtTreeMap)

/-- What is written part by part is read part by part. -/
theorem mapM_map_eq_some {α β : Type} (write : α → β) (read? : β → Option α) {values : List α}
    (h : ∀ value ∈ values, read? (write value) = some value) :
    (values.map write).mapM read? = some values := by
  induction values with
  | nil => rfl
  | cons value rest ih =>
      obtain ⟨hvalue, hrest⟩ := List.forall_mem_cons.mp h
      simp [hvalue, ih hrest]

namespace Json

def natural? : Json → Option Nat
  | .natural n => some n
  | _ => none

def double? : Json → Option Float
  | .double x => some x
  | _ => none

def items? : Json → Option (List Json)
  | .array items => some items
  | _ => none

def members? : Json → Option (List (String × Json))
  | .object members => some members
  | _ => none

/-- The number that a name is the text of. -/
def naturalName? (name : String) : Option Nat :=
  (wordValue? name.toList).bind natural?

theorem naturalName?_repr (n : Nat) : naturalName? (Nat.repr n) = some n := by
  rw [naturalName?, Nat.toList_repr, wordValue?_toDigits]
  rfl

section Table

variable {κ α : Type} [Ord κ] [Std.TransOrd κ]

/-- An object as a table, by what its names and its values stand for. -/
def table? (key? : String → Option κ) (item? : Json → Option α) (value : Json) :
    Option (ExtTreeMap κ α) :=
  value.members?.bind fun members =>
    (members.mapM fun (name, value) =>
      (key? name).bind fun key => (item? value).map (key, ·)).map
        fun entries : List (κ × α) => ExtTreeMap.ofList entries

variable [DecidableEq κ] [Std.LawfulEqOrd κ]

/-- A table is the table of its entries. -/
theorem ofList_toList (table : ExtTreeMap κ α) : ExtTreeMap.ofList table.toList = table := by
  refine ExtTreeMap.ext_getElem? fun key => ?_
  cases hvalue : table[key]? with
  | some value =>
      exact ExtTreeMap.getElem?_ofList_of_mem Std.ReflCmp.compare_self
        ExtTreeMap.distinct_keys_toList (ExtTreeMap.mem_toList_iff_getElem?_eq_some.mpr hvalue)
  | none =>
      have habsent : key ∉ table := by
        rw [ExtTreeMap.mem_iff_isSome_getElem?, hvalue]
        exact Bool.false_ne_true
      have hkeys : (table.toList.map Prod.fst).contains key = false := by
        rw [ExtTreeMap.map_fst_toList_eq_keys]
        simpa using habsent
      exact ExtTreeMap.getElem?_ofList_of_contains_eq_false hkeys

/-- A table whose keys and entries are read back is read back. -/
theorem table?_map_toList (key? : String → Option κ) (item? : Json → Option α) (name : κ → String)
    (toJson : α → Json) (table : ExtTreeMap κ α) (hkey : ∀ key, key? (name key) = some key)
    (hitem : ∀ key value, (key, value) ∈ table.toList → item? (toJson value) = some value) :
    table? key? item? (.object (table.toList.map fun (key, value) => (name key, toJson value))) =
      some table := by
  rw [table?, members?, Option.bind_some, mapM_map_eq_some, Option.map_some, ofList_toList]
  rintro ⟨key, value⟩ hmem
  simp [hkey, hitem key value hmem]

end Table

end Json

/-- An array is the values of the cores, and a number stands alone. -/
def Quantity.ofJson? : Json → Option Quantity
  | .double value => some (.single value)
  | .array items => (items.mapM Json.double?).map .perCore
  | _ => none

theorem Quantity.ofJson?_toJson (value : Quantity) : ofJson? value.toJson = some value := by
  cases value with
  | single value => rfl
  | perCore values =>
      rw [toJson, ofJson?, mapM_map_eq_some Json.double Json.double? fun _ _ => rfl]
      rfl

/-- The doubles in a value: one, or one for each core. -/
def Quantity.parts : Quantity → List Float
  | .single value => [value]
  | .perCore values => values

theorem Quantity.doubles_toJson (value : Quantity) : value.toJson.doubles = value.parts := by
  cases value with
  | single value => rfl
  | perCore values =>
      simp [toJson, parts, Json.doubles, Json.itemDoubles_eq, List.flatMap_map]

def IndexedEntry.ofJson? : Json → Option IndexedEntry
  | .array [.array index, .double value] => (index.mapM Json.natural?).map (·, value)
  | _ => none

theorem IndexedEntry.ofJson?_toJson (entry : IndexedEntry) :
    ofJson? (IndexedEntry.toJson entry) = some entry := by
  rw [IndexedEntry.toJson, ofJson?, mapM_map_eq_some Json.natural Json.natural? fun _ _ => rfl]
  rfl

theorem IndexedEntry.doubles_toJson (entry : IndexedEntry) :
    (IndexedEntry.toJson entry).doubles = [entry.2] := by
  simp [toJson, Json.doubles, Json.itemDoubles_eq, List.flatMap_map]

namespace Report

def scalarsOfJson? : Json → Option (ExtTreeMap String Float) :=
  Json.table? some Json.double?

def dimensionsOfJson? : Json → Option (ExtTreeMap Nat (List IndexedEntry)) :=
  Json.table? Json.naturalName? fun value => value.items?.bind (·.mapM IndexedEntry.ofJson?)

def countersOfMembers? (members : List (String × Json)) : Option Counters := do
  let memory ← (members.lookup "scalar_stats").bind scalarsOfJson?
  let system ← (members.lookup "system_stats").bind scalarsOfJson?
  let indexed ← (members.lookup "indexed_stats").bind (Json.table? some dimensionsOfJson?)
  return { memory, system, indexed }

def derivedOfMembers? (members : List (String × Json)) :
    Option (ExtTreeMap String Quantity) :=
  (members.lookup "derived_stats").bind (Json.table? some Quantity.ofJson?)

mutual

/-- The report that a value stands for. -/
def ofJson? : Json → Option Report
  | .object members => do
    let counters ← countersOfMembers? members
    let derived ← derivedOfMembers? members
    let references ← referencesOfMembers? members
    return { counters, derived, references }
  | _ => none

/-- The references among the members of a report. There are none where they are left out. -/
def referencesOfMembers? : List (String × Json) → Option (List Report)
  | [] => some []
  | (name, value) :: rest =>
    if name = "ref_reports" then
      match value with
      | .array items => listOfJson? items
      | _ => none
    else referencesOfMembers? rest

def listOfJson? : List Json → Option (List Report)
  | [] => some []
  | value :: rest => do
    let report ← ofJson? value
    let reports ← listOfJson? rest
    return report :: reports

end

theorem scalarsOfJson?_scalarsJson (table : ExtTreeMap String Float) :
    scalarsOfJson? (scalarsJson table) = some table :=
  Json.table?_map_toList some Json.double? id .double table (fun _ => rfl) fun _ _ _ => rfl

theorem dimensionsOfJson?_dimensionsJson (dimensions : ExtTreeMap Nat (List IndexedEntry)) :
    dimensionsOfJson? (dimensionsJson dimensions) = some dimensions :=
  Json.table?_map_toList _ (fun value => value.items?.bind (·.mapM IndexedEntry.ofJson?)) Nat.repr
    (fun entries => .array (entries.map IndexedEntry.toJson)) dimensions Json.naturalName?_repr
    fun _ _ _ =>
      mapM_map_eq_some _ _ fun entry _ => IndexedEntry.ofJson?_toJson entry

theorem countersOfMembers?_ownMembers (report : Report) (more : List (String × Json)) :
    countersOfMembers? (ownMembers report ++ more) = some report.counters := by
  have hindexed := Json.table?_map_toList some dimensionsOfJson? id dimensionsJson
    report.counters.indexed (fun _ => rfl) fun _ dimensions _ =>
      dimensionsOfJson?_dimensionsJson dimensions
  simp only [id] at hindexed
  simp [countersOfMembers?, ownMembers, List.lookup_cons, scalarsOfJson?_scalarsJson, hindexed]

theorem derivedOfMembers?_ownMembers (report : Report) (more : List (String × Json)) :
    derivedOfMembers? (ownMembers report ++ more) = some report.derived := by
  have hderived := Json.table?_map_toList some Quantity.ofJson? id Quantity.toJson report.derived
    (fun _ => rfl) fun _ value _ => Quantity.ofJson?_toJson value
  simp only [id] at hderived
  simp [derivedOfMembers?, ownMembers, List.lookup_cons, hderived]

theorem referencesOfMembers?_ownMembers (report : Report) (more : List (String × Json)) :
    referencesOfMembers? (ownMembers report ++ more) = referencesOfMembers? more := by
  simp [ownMembers, referencesOfMembers?]

mutual

/-- The JSON of a report stands for that report. -/
theorem ofJson?_toJson : (report : Report) → ofJson? report.toJson = some report
  | ⟨counters, derived, []⟩ => by
    have hcounters := countersOfMembers?_ownMembers ⟨counters, derived, []⟩ []
    have hderived := derivedOfMembers?_ownMembers ⟨counters, derived, []⟩ []
    have hreferences := referencesOfMembers?_ownMembers ⟨counters, derived, []⟩ []
    rw [List.append_nil] at hcounters hderived hreferences
    simp [toJson, ofJson?, hcounters, hderived, hreferences, referencesOfMembers?]
  | ⟨counters, derived, first :: rest⟩ => by
    have hlist := listOfJson?_listToJson (first :: rest)
    have hcounters := countersOfMembers?_ownMembers ⟨counters, derived, []⟩
    have hderived := derivedOfMembers?_ownMembers ⟨counters, derived, []⟩
    have hreferences := referencesOfMembers?_ownMembers ⟨counters, derived, []⟩
    simp [toJson, ofJson?, hcounters, hderived, hreferences, referencesOfMembers?, hlist]

theorem listOfJson?_listToJson : (reports : List Report) →
    listOfJson? (listToJson reports) = some reports
  | [] => rfl
  | report :: rest => by
    simp [listToJson, listOfJson?, ofJson?_toJson report, listOfJson?_listToJson rest]

end

/-- The doubles in the tables of a report and in its metrics. -/
def ownDoubles (report : Report) : List Float :=
  report.counters.memory.toList.map Prod.snd ++ report.counters.system.toList.map Prod.snd ++
    (report.counters.indexed.toList.flatMap fun (_, dimensions) =>
      dimensions.toList.flatMap fun (_, entries) => entries.map Prod.snd) ++
    report.derived.toList.flatMap fun (_, value) => value.parts

mutual

/-- The doubles in a report and in its references. -/
def doubles : Report → List Float
  | ⟨counters, derived, references⟩ =>
    ownDoubles ⟨counters, derived, []⟩ ++ listDoubles references

def listDoubles : List Report → List Float
  | [] => []
  | report :: rest => doubles report ++ listDoubles rest

end

theorem doubles_scalarsJson (table : ExtTreeMap String Float) :
    (scalarsJson table).doubles = table.toList.map Prod.snd := by
  rw [List.map_eq_flatMap]
  simp [scalarsJson, Json.doubles, Json.memberDoubles_eq, List.flatMap_map]

theorem doubles_dimensionsJson (dimensions : ExtTreeMap Nat (List IndexedEntry)) :
    (dimensionsJson dimensions).doubles =
      dimensions.toList.flatMap fun (_, entries) => entries.map Prod.snd := by
  simp [dimensionsJson, Json.doubles, Json.memberDoubles_eq, Json.itemDoubles_eq, List.flatMap_map,
    IndexedEntry.doubles_toJson, ← List.map_eq_flatMap]

theorem memberDoubles_ownMembers (report : Report) :
    Json.memberDoubles (ownMembers report) = report.ownDoubles := by
  simp [ownMembers, ownDoubles, Json.memberDoubles_eq, Json.doubles, doubles_scalarsJson,
    doubles_dimensionsJson, Quantity.doubles_toJson, List.flatMap_map]

mutual

theorem doubles_toJson : (report : Report) → report.toJson.doubles = report.doubles
  | ⟨counters, derived, []⟩ => by
    simp [toJson, Json.doubles, memberDoubles_ownMembers, doubles, listDoubles]
  | ⟨counters, derived, first :: rest⟩ => by
    have hlist := itemDoubles_listToJson (first :: rest)
    have hown := memberDoubles_ownMembers ⟨counters, derived, []⟩
    rw [Json.memberDoubles_eq] at hown
    simp [toJson, Json.doubles, Json.memberDoubles_eq, hown, hlist, doubles]

theorem itemDoubles_listToJson : (reports : List Report) →
    Json.itemDoubles (listToJson reports) = listDoubles reports
  | [] => rfl
  | report :: rest => by
    rw [listToJson, Json.itemDoubles, listDoubles, doubles_toJson report,
      itemDoubles_listToJson rest]

end

/-- The report that a text stands for, as far as it is the dump of one. -/
def ofDump? (text : String) : Option Report :=
  (Json.read text).bind ofJson?

end Report

/-- The dump of a report without infinite or undefined values loses nothing: it is read back as the
report that it was made from, with the entries of all its tables and with its references. So no
other such report has the same dump. This takes that a double is read back from its own text. -/
theorem dump_read_back (report : Report) (hfinite : ∀ x ∈ report.doubles, x.isFinite = true)
    (hreads : ∀ x ∈ report.doubles,
      Number.readFloat? (Json.doubleLayout.render x).toList = some x) :
    Report.ofDump? report.dump = some report ∧
      ∀ other : Report, (∀ x ∈ other.doubles, x.isFinite = true) →
        (∀ x ∈ other.doubles,
          Number.readFloat? (Json.doubleLayout.render x).toList = some x) →
        other.dump = report.dump → other = report := by
  have hread : ∀ report : Report, (∀ x ∈ report.doubles, x.isFinite = true) →
      (∀ x ∈ report.doubles, Number.readFloat? (Json.doubleLayout.render x).toList = some x) →
      Report.ofDump? report.dump = some report := by
    intro report hfinite hreads
    rw [← Report.doubles_toJson] at hfinite hreads
    rw [Report.ofDump?, Report.dump, Json.read_pretty hfinite hreads]
    exact report.ofJson?_toJson
  refine ⟨hread report hfinite hreads, fun other hother hotherReads hdump => ?_⟩
  have hsame := hread other hother hotherReads
  rw [hdump, hread report hfinite hreads] at hsame
  exact (Option.some.inj hsame).symm

/-- A run of two programs. Its values are written with a point, with an exponent, with a sign and
with many digits. -/
def variedFile : Bytes :=
  ["ramulator.record_insts_core_0 100", "ramulator.record_cycs_core_0 300",
    "ramulator.record_insts_core_1 50", "ramulator.record_cycs_core_1 100",
    "ramulator.active_cycles_0_1 2.5e-7", "ramulator.row_hits 1e22",
    "ramulator.read_requests -0", "system.cpu.ipc 0.1"].flatMap fun line =>
      Bytes.ofText (line ++ "\n")

/-- The report of a program alone. -/
def halfReference : Report :=
  .ofBytes (["ramulator.record_insts_core_0 100", "ramulator.record_cycs_core_0 200"].flatMap
    fun line => Bytes.ofText (line ++ "\n"))

theorem dump_read_back_varied :
    ∃ report, Report.read variedFile (some [halfReference, halfReference]) = .ok report ∧
      "weighted_speedup" ∈ report.derived ∧ report.references.length = 2 ∧
      Report.ofDump? report.dump = some report := by
  have hreport : ((Report.read variedFile (some [halfReference, halfReference])).toOption.any
      fun report => "weighted_speedup" ∈ report.derived && report.references.length == 2 &&
        report.doubles.all fun x => x.isFinite &&
          Number.readFloat? (Json.doubleLayout.render x).toList = some x) = true := by
    decide +kernel
  obtain ⟨report, hread, hchecks⟩ := (Option.any_eq_true _ _).mp hreport
  simp only [Bool.and_eq_true, List.all_eq_true, decide_eq_true_eq, beq_iff_eq] at hchecks
  obtain ⟨⟨hspeedup, hlength⟩, hdoubles⟩ := hchecks
  exact ⟨report, Traverse.toOption_eq_some_iff.mp hread, hspeedup, hlength,
    (dump_read_back report (fun x hx => (hdoubles x hx).1) fun x hx => (hdoubles x hx).2).1⟩

end DramSweep
