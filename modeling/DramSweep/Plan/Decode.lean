import DramSweep.Number.Layout
import DramSweep.Number.Reading
import DramSweep.Plan.Basic
import DramSweep.Plan.Layer
import DramSweep.Text.Quoted

/-!
Plans from layers. Each section is a record: a table with a member for each field, or a list
with the fields in order. Text fields take any scalar as its text, lists take lists only, and the
number of parallel runs also takes words and rounded floats. A field that is there must be right,
and one without a default must be there; of two such faults the first is reported.
-/

namespace DramSweep

/-- A step from a section to one of its parts. -/
inductive Segment where
  | name (text : String)
  | index (n : Nat)
  deriving Repr, DecidableEq

/-- The text of a path of segments: names are joined by a point, and no point stands beside the
brackets of an index. -/
def Segment.pathText : List Segment → String
  | [] => ""
  | .name text :: rest@(.name _ :: _) => text ++ "." ++ pathText rest
  | .name text :: rest => text ++ pathText rest
  | .index n :: rest => "[" ++ Nat.repr n ++ "]" ++ pathText rest

/-- What was found where something else was expected. -/
inductive Found where
  | string (s : String)
  | integer (n : Int)
  | real (x : Float)
  | flag (b : Bool)
  | list
  | table

/-- Why a layer cannot be read as plans. -/
inductive DecodeError where
  | missingField (name : String)
  /-- A list of fields that is too short. -/
  | missingItem (index : Nat) (record : String) (fields : Nat)
  | shape (found : Found) (expected : String)
  /-- A setting that does not denote the value expected, with the path to it and the file it is
  from. -/
  | value (found : Found) (expected : String) (path : List Segment) (origin : Option String)

namespace DecodeError

/-- A truth value in words. -/
def flagText (b : Bool) : String :=
  if b then "true" else "false"

def integerText (n : Int) : String :=
  (if n < 0 then "-" else "") ++ Nat.repr n.natAbs

def realText (x : Float) : String :=
  let text := Number.Layout.plain.render x
  if x.isFinite && !text.toList.contains '.' then text ++ ".0" else text

/-- What was found, in words. `width` is put behind the word for an integer. -/
def foundText (width : String) : Found → String
  | .string s => "string " ++ Text.quote s
  | .integer n => "integer" ++ width ++ " `" ++ integerText n ++ "`"
  | .real x => "floating point `" ++ realText x ++ "`"
  | .flag b => "boolean `" ++ flagText b ++ "`"
  | .list => "sequence"
  | .table => "map"

def message : DecodeError → String
  | .missingField name => "missing field `" ++ name ++ "`"
  | .missingItem index record fields =>
    "invalid length " ++ Nat.repr index ++ ", expected struct " ++ record ++ " with " ++
      Nat.repr fields ++ " elements"
  | .shape found expected => "invalid type: " ++ foundText "" found ++ ", expected " ++ expected
  | .value found expected path origin =>
    "invalid type: " ++ foundText " 64 bit" found ++ ", expected " ++ expected ++
      (if path = [] then "" else " for key `" ++ Segment.pathText path ++ "`") ++
      (match origin with
        | some file => " in " ++ file
        | none => "")

/-- The error, seen from one step further out. -/
def under (segment : Segment) : DecodeError → DecodeError
  | .value found expected path origin => .value found expected (segment :: path) origin
  | e => e

end DecodeError

namespace Setting

abbrev Decoder (α : Type) := Setting → Except DecodeError α

def found : Setting → Found
  | .string _ s => .string s
  | .integer _ n => .integer n
  | .real _ x => .real x
  | .flag _ b => .flag b
  | .list _ _ => .list
  | .table _ _ => .table

def text : Decoder String
  | .string _ s => .ok s
  | .integer _ n => .ok (DecodeError.integerText n)
  | .real _ x => .ok (Number.Layout.plain.render x)
  | .flag _ b => .ok (DecodeError.flagText b)
  | setting => .error (.value setting.found "a string" [] setting.origin?)

def path : Decoder Path := fun setting =>
  setting.text.map Path.mk

/-- The greatest count, `2 ^ 64 - 1`. -/
def maxCount : Nat := 18446744073709551615

/-- A float rounded to the nearest count, a half upwards. What is too small or undefined counts
as zero, and what is too great as the greatest count. -/
def countOfFloat (x : Float) : Nat :=
  match Number.classify x with
  | .undefined => 0
  | .infinite negative => if negative then 0 else maxCount
  | .finite true _ _ => 0
  | .finite false m q => 
    let (num, den) := Number.Shortest.unit q 0
    min maxCount ((2 * m * num + den) / (2 * den))

def countOfString? (s : String) : Option Nat :=
  let word := s.toList.map Char.toLower
  if word = "true".toList ∨ word = "on".toList ∨ word = "yes".toList then some 1
  else if word = "false".toList ∨ word = "off".toList ∨ word = "no".toList then some 0
  else Number.readIndex? s.toList

def count : Decoder Nat
  | .integer origin n =>
    if n < 0 then
      .error (.value (.integer n) "an unsigned 64 bit or less integer" [] (some origin))
    else .ok n.toNat
  | .real _ x => .ok (countOfFloat x)
  | .flag _ b => .ok (if b then 1 else 0)
  | .string origin s =>
    match countOfString? s with
    | some n => .ok n
    | none => .error (.value (.string s) "an integer" [] (some origin))
  | setting => .error (.value setting.found "an integer" [] setting.origin?)

def itemsFrom {α : Type} (decode : Decoder α) (index : Nat) :
    List Setting → Except DecodeError (List α)
  | [] => .ok []
  | item :: rest => do
    let first ← (decode item).mapError (DecodeError.under (.index index))
    return first :: (← itemsFrom decode (index + 1) rest)

def listOf {α : Type} (decode : Decoder α) : Decoder (List α)
  | .list _ items => itemsFrom decode 0 items
  | setting => .error (.shape setting.found "a sequence")

end Setting

/-- The fields of a record: named ones, or as many as there are in order. -/
inductive Fields where
  | named (members : Layer)
  | inOrder (items : List Setting)

/-- A kind of record, by its name and the number of its fields. -/
structure RecordKind where
  name : String
  fields : Nat

/-- A field of a record, by its place and its name. -/
structure Field where
  index : Nat
  name : String

namespace Fields

def ofSetting (kind : RecordKind) : Setting → Except DecodeError Fields
  | .table _ members => .ok (.named members)
  | .list _ items => .ok (.inOrder items)
  | setting => .error (.shape setting.found ("struct " ++ kind.name))

def find? {α : Type} (fields : Fields) (field : Field) (decode : Setting.Decoder α) :
    Except DecodeError (Option α) :=
  let (setting?, segment) := match fields with
    | .named members => (members.get? field.name, Segment.name field.name)
    | .inOrder items => (items[field.index]?, Segment.index field.index)
  match setting? with
  | none => .ok none
  | some setting => ((decode setting).mapError (DecodeError.under segment)).map some

def demand {α : Type} (fields : Fields) (kind : RecordKind) (field : Field) :
    Option α → Except DecodeError α
  | some value => .ok value
  | none => match fields with
    | .named _ => .error (.missingField field.name)
    | .inOrder _ => .error (.missingItem field.index kind.name kind.fields)

end Fields

namespace AnalysisPlan

def kind : RecordKind := ⟨"AnalysisSettings", 6⟩

def decode : Setting.Decoder AnalysisPlan := fun setting => do
  let fields ← Fields.ofSetting kind setting
  let workloadDir? ← fields.find? ⟨0, "workload_dir"⟩ Setting.path
  let workloads? ← fields.find? ⟨1, "workloads"⟩ (Setting.listOf Setting.text)
  let dramList? ← fields.find? ⟨2, "dram_list"⟩ (Setting.listOf Setting.text)
  let refDram? ← fields.find? ⟨3, "ref_dram"⟩ Setting.text
  let lists? ← fields.find? ⟨4, "single_threaded_workload_lists"⟩
    (Setting.listOf (Setting.listOf Setting.text))
  let outputDir? ← fields.find? ⟨5, "output_dir"⟩ Setting.path
  return {
    reportDirectory := ← fields.demand kind ⟨0, "workload_dir"⟩ workloadDir?
    workloads := ← fields.demand kind ⟨1, "workloads"⟩ workloads?
    configurations := ← fields.demand kind ⟨2, "dram_list"⟩ dramList?
    reference := ← fields.demand kind ⟨3, "ref_dram"⟩ refDram?
    programLists := lists?
    outputDirectory := ← fields.demand kind ⟨5, "output_dir"⟩ outputDir? }

end AnalysisPlan

namespace ProgramMix

def kind : RecordKind := ⟨"MultiProgram", 2⟩

def decode : Setting.Decoder ProgramMix := fun setting => do
  let fields ← Fields.ofSetting kind setting
  let name? ← fields.find? ⟨0, "name"⟩ Setting.text
  let programs? ← fields.find? ⟨1, "programs"⟩ (Setting.listOf Setting.text)
  return {
    name := ← fields.demand kind ⟨0, "name"⟩ name?
    programs := ← fields.demand kind ⟨1, "programs"⟩ programs? }

end ProgramMix

namespace SimulationPlan

def kind : RecordKind := ⟨"SimulationSettings", 10⟩

def decode : Setting.Decoder SimulationPlan := fun setting => do
  let fields ← Fields.ofSetting kind setting
  let simulator? ← fields.find? ⟨0, "simulator"⟩ Setting.path
  let traceDir? ← fields.find? ⟨1, "trace_dir"⟩ Setting.path
  let configDir? ← fields.find? ⟨2, "config_dir"⟩ Setting.path
  let outputDir? ← fields.find? ⟨3, "output_dir"⟩ Setting.path
  let dramList? ← fields.find? ⟨4, "dram_list"⟩ (Setting.listOf Setting.text)
  let mode? ← fields.find? ⟨5, "mode"⟩ Setting.text
  let parallel? ← fields.find? ⟨6, "parallel"⟩ Setting.count
  let singleThreaded? ← fields.find? ⟨7, "single_threaded"⟩ (Setting.listOf Setting.text)
  let multiProgram? ← fields.find? ⟨8, "multi_program"⟩ (Setting.listOf ProgramMix.decode)
  let resultFile? ← fields.find? ⟨9, "result_file"⟩ Setting.path
  return {
    simulator := ← fields.demand kind ⟨0, "simulator"⟩ simulator?
    traceDirectory := ← fields.demand kind ⟨1, "trace_dir"⟩ traceDir?
    configDirectory := ← fields.demand kind ⟨2, "config_dir"⟩ configDir?
    outputDirectory := ← fields.demand kind ⟨3, "output_dir"⟩ outputDir?
    configurations := ← fields.demand kind ⟨4, "dram_list"⟩ dramList?
    mode := mode?.getD defaultMode
    parallel := parallel?.getD 1
    programs := singleThreaded?.getD []
    mixes := multiProgram?.getD []
    resultFile := resultFile?.getD defaultResultFile }

end SimulationPlan

namespace Plans

/-- The sections of a layer. A section that is not there is left out. -/
def decode (layer : Layer) : Except DecodeError Plans := do
  let fields := Fields.named layer
  let analysis ← fields.find? ⟨0, "analysis"⟩ AnalysisPlan.decode
  let simulation ← fields.find? ⟨1, "simulation"⟩ SimulationPlan.decode
  return { analysis, simulation }

end Plans

end DramSweep
