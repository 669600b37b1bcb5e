import DramSweep.Proofs.Plan.Merging

/-!
The fields of a section. Each is declared to hold texts, lists of them, a count, or workloads of
several programs, and some may be left out. Main statement: a section whose values are of the
declared kinds is decoded as the plan that these values set, with defaults for what is left out, and
there is such a plan exactly when no required value is missing.
-/

namespace DramSweep

open Traverse (bind_eq_ok_iff)

namespace Toml

def text? : Toml → Option String
  | .string s => some s
  | _ => none

def path? (value : Toml) : Option Path :=
  value.text?.map Path.mk

theorem isSome_path? {value : Toml} (h : value.text?.isSome = true) :
    value.path?.isSome = true := by
  rw [path?, Option.isSome_map]
  exact h

def list? {α : Type} (read? : Toml → Option α) : Toml → Option (List α)
  | .array items => items.mapM read?
  | _ => none

def count? : Toml → Option Nat
  | .integer n => if 0 ≤ n then some n.toNat else none
  | _ => none

/-- A workload of several programs. What else its table holds does not matter. -/
def mix? : Toml → Option ProgramMix
  | .table members => do
    let name ← (members.lookup "name").bind text?
    let programs ← (members.lookup "programs").bind (list? text?)
    return { name, programs }
  | _ => none

end Toml

/-- What a field is declared to hold. -/
inductive FieldKind where
  | text
  | texts
  | textLists
  | count
  | mixes
  deriving Repr, DecidableEq

def FieldKind.accepts (value : Toml) : FieldKind → Bool
  | .text => value.text?.isSome
  | .texts => (value.list? Toml.text?).isSome
  | .textLists => (value.list? (Toml.list? Toml.text?)).isSome
  | .count => value.count?.isSome
  | .mixes => (value.list? Toml.mix?).isSome

/-- A section by its name and its fields. -/
structure SectionShape where
  name : String
  required : List (String × FieldKind)
  optional : List (String × FieldKind)

namespace SectionShape

def kind? (shape : SectionShape) (field : String) : Option FieldKind :=
  (shape.required ++ shape.optional).lookup field

/-- Whether a value may stand in a field. -/
def accepts (shape : SectionShape) (field : String) (value : Toml) : Bool :=
  (shape.kind? field).any (·.accepts value)

/-- Whether a document has no such section, or one with fields of the section alone, at least one,
and of the declared kinds. -/
def fits (shape : SectionShape) (document : Document) : Bool :=
  match document.lookup shape.name with
  | none => true
  | some (.table members) =>
    !members.isEmpty && members.all fun (field, value) => shape.accepts field value
  | some _ => false

end SectionShape

def AnalysisPlan.shape : SectionShape where
  name := "analysis"
  required := [("workload_dir", .text), ("workloads", .texts), ("dram_list", .texts),
    ("ref_dram", .text), ("output_dir", .text)]
  optional := [("single_threaded_workload_lists", .textLists)]

def SimulationPlan.shape : SectionShape where
  name := "simulation"
  required := [("simulator", .text), ("trace_dir", .text), ("config_dir", .text),
    ("output_dir", .text), ("dram_list", .texts)]
  optional := [("mode", .text), ("parallel", .count), ("single_threaded", .texts),
    ("multi_program", .mixes), ("result_file", .text)]

/-- A plan whose fields have given values. Only the lists of programs may be left out. -/
structure AnalysisPlan.IsSetBy (plan : AnalysisPlan) (value? : String → Option Toml) : Prop where
  reportDirectory : (value? "workload_dir").bind Toml.path? = some plan.reportDirectory
  workloads : (value? "workloads").bind (Toml.list? Toml.text?) = some plan.workloads
  configurations : (value? "dram_list").bind (Toml.list? Toml.text?) = some plan.configurations
  reference : (value? "ref_dram").bind Toml.text? = some plan.reference
  programLists : plan.programLists =
    (value? "single_threaded_workload_lists").bind (Toml.list? (Toml.list? Toml.text?))
  outputDirectory : (value? "output_dir").bind Toml.path? = some plan.outputDirectory

/-- A plan whose fields have given values, and their defaults where they may be left out. -/
structure SimulationPlan.IsSetBy (plan : SimulationPlan) (value? : String → Option Toml) :
    Prop where
  simulator : (value? "simulator").bind Toml.path? = some plan.simulator
  traceDirectory : (value? "trace_dir").bind Toml.path? = some plan.traceDirectory
  configDirectory : (value? "config_dir").bind Toml.path? = some plan.configDirectory
  outputDirectory : (value? "output_dir").bind Toml.path? = some plan.outputDirectory
  configurations : (value? "dram_list").bind (Toml.list? Toml.text?) = some plan.configurations
  mode : plan.mode = ((value? "mode").bind Toml.text?).getD "cpu"
  parallel : plan.parallel = ((value? "parallel").bind Toml.count?).getD 1
  programs : plan.programs = ((value? "single_threaded").bind (Toml.list? Toml.text?)).getD []
  mixes : plan.mixes = ((value? "multi_program").bind (Toml.list? Toml.mix?)).getD []
  resultFile : plan.resultFile =
    ((value? "result_file").bind Toml.path?).getD ⟨"results/simulation"⟩

namespace Setting

/-- A decoder takes a value of a document as that value is read. -/
def Decodes {α : Type} (decode : Decoder α) (read? : Toml → Option α) : Prop :=
  ∀ origin value result, read? value = some result → decode (.ofToml origin value) = .ok result

theorem decodes_text : Decodes text Toml.text? := by
  intro origin value result h
  cases value <;> cases h
  rfl

theorem decodes_path : Decodes path Toml.path? := by
  intro origin value result h
  obtain ⟨s, hs, rfl⟩ := Option.map_eq_some_iff.mp h
  rw [path, decodes_text origin value s hs]
  rfl

theorem decodes_listOf {α : Type} {decode : Decoder α} {read? : Toml → Option α}
    (h : Decodes decode read?) : Decodes (listOf decode) (Toml.list? read?) := by
  intro origin value result hread
  cases value with
  | array items =>
      have hitems : ∀ index, itemsFrom decode index (items.map (ofToml origin)) = .ok result := by
        rw [Toml.list?] at hread
        induction items generalizing result with
        | nil =>
            cases hread
            exact fun _ => rfl
        | cons item rest ih =>
            intro index
            rw [List.mapM_cons] at hread
            obtain ⟨first, hfirst, hrest⟩ := Option.bind_eq_some_iff.mp hread
            obtain ⟨tail, htail, hresult⟩ := Option.bind_eq_some_iff.mp hrest
            cases hresult
            rw [List.map_cons, itemsFrom, h origin item first hfirst, ih tail htail (index + 1)]
            rfl
      rw [ofToml, listOfToml_eq, listOf]
      exact hitems 0
  | string _ | integer _ | real _ | flag _ | moment _ | table _ => cases hread

theorem decodes_count : Decodes count Toml.count? := by
  intro origin value result h
  cases value with
  | integer n =>
      rw [Toml.count?] at h
      split at h
      · cases h
        rw [ofToml, count, if_neg (by omega)]
      · cases h
  | string _ | real _ | flag _ | moment _ | array _ | table _ => cases h

end Setting

namespace Fields

/-- A field that is not there has no value, and one that is there must be right. -/
theorem find?_named_eq_ok_iff {α : Type} {members : Layer} {field : Field}
    {decode : Setting.Decoder α} {value? : Option α} :
    (Fields.named members).find? field decode = .ok value? ↔
      match members.get? field.name with
      | none => value? = none
      | some setting => ∃ value, decode setting = .ok value ∧ value? = some value := by
  have hfind : (Fields.named members).find? field decode =
      match members.get? field.name with
      | none => .ok none
      | some setting =>
        ((decode setting).mapError (DecodeError.under (.name field.name))).map some := rfl
  rw [hfind]
  cases members.get? field.name with
  | none => simp [eq_comm]
  | some setting =>
      cases hdecode : decode setting <;> simp [hdecode, Except.mapError, Except.map, eq_comm]

/-- A field is found as the value of a document that it comes from. -/
theorem find?_named {α : Type} {members : Layer} (field : Field) {decode : Setting.Decoder α}
    {read? : Toml → Option α} (hdecodes : Setting.Decodes decode read?) {value? : Option Toml}
    (hmember : Option.Rel Setting.IsFrom (members.get? field.name) value?)
    (haccepted : ∀ value, value? = some value → (read? value).isSome = true) :
    (Fields.named members).find? field decode = .ok (value?.bind read?) := by
  rw [find?_named_eq_ok_iff]
  generalize members.get? field.name = setting? at hmember ⊢
  cases hmember with
  | none => rfl
  | some hfrom =>
      obtain ⟨origin, rfl⟩ := hfrom
      obtain ⟨result, hresult⟩ := Option.isSome_iff_exists.mp (haccepted _ rfl)
      exact ⟨result, hdecodes origin _ result hresult, by rw [Option.bind_some, hresult]⟩

theorem demand_named_eq_ok_iff {α : Type} {members : Layer} {kind : RecordKind} {field : Field}
    {value? : Option α} {value : α} :
    (Fields.named members).demand kind field value? = .ok value ↔ value? = some value := by
  cases value? <;> simp [demand]

end Fields

/-- The members of a table of a document come from that document. -/
theorem Setting.rel_get?_membersOfToml (origin : String) (members : List (String × Toml))
    (name : String) : Option.Rel IsFrom (Layer.get? (membersOfToml origin members) name)
      (members.lookup name) := by
  rw [get?_membersOfToml]
  cases members.lookup name with
  | none => exact .none
  | some value => exact .some ⟨origin, rfl⟩

theorem isSome_read_of_bind {α β : Type} {value? : Option α} {read? : α → Option β}
    {result : β} (h : value?.bind read? = some result) :
    ∀ value, value? = some value → (read? value).isSome = true := by
  rintro value rfl
  exact Option.isSome_of_eq_some h

theorem ProgramMix.decodes_decode : Setting.Decodes ProgramMix.decode Toml.mix? := by
  intro origin value result h
  cases value with
  | table members =>
      obtain ⟨name, hname, h⟩ := Option.bind_eq_some_iff.mp h
      obtain ⟨programs, hprograms, h⟩ := Option.bind_eq_some_iff.mp h
      cases h
      have hmember := Setting.rel_get?_membersOfToml origin members
      have hfindName := Fields.find?_named ⟨0, "name"⟩ Setting.decodes_text
        (hmember "name") (isSome_read_of_bind hname)
      have hfindPrograms := Fields.find?_named ⟨1, "programs"⟩
        (Setting.decodes_listOf Setting.decodes_text) (hmember "programs")
        (isSome_read_of_bind hprograms)
      simp [decode, Setting.ofToml, Fields.ofSetting, hfindName, hfindPrograms, hname, hprograms,
        Fields.demand, bind, Except.bind, pure, Except.pure]
  | string _ | integer _ | real _ | flag _ | moment _ | array _ => cases h

/-- The members of a section with the values that they come from, which may stand there. -/
structure SectionShape.Holds (shape : SectionShape) (members : Layer)
    (value? : String → Option Toml) : Prop where
  isFrom : ∀ field, Option.Rel Setting.IsFrom (members.get? field) (value? field)
  accepted : ∀ field value, value? field = some value → shape.accepts field value = true

/-- A field of a known kind is found as its value is read. -/
theorem SectionShape.Holds.find?_eq {shape : SectionShape} {members : Layer}
    {value? : String → Option Toml} (h : shape.Holds members value?) {α : Type}
    {decode : Setting.Decoder α} {read? : Toml → Option α}
    (hdecodes : Setting.Decodes decode read?) {index : Nat} {field : String} {kind : FieldKind}
    (hkind : shape.kind? field = some kind)
    (hreads : ∀ value, kind.accepts value = true → (read? value).isSome = true) :
    (Fields.named members).find? ⟨index, field⟩ decode = .ok ((value? field).bind read?) := by
  refine Fields.find?_named ⟨index, field⟩ hdecodes (h.isFrom field) fun value hvalue =>
    hreads value ?_
  simpa [SectionShape.accepts, hkind] using h.accepted field value hvalue

namespace SectionShape.Holds

variable {shape : SectionShape} {members : Layer} {value? : String → Option Toml} {index : Nat}
  {field : String}

theorem find?_text (h : shape.Holds members value?) (hkind : shape.kind? field = some .text) :
    (Fields.named members).find? ⟨index, field⟩ Setting.text =
      .ok ((value? field).bind Toml.text?) :=
  h.find?_eq Setting.decodes_text hkind fun _ => id

theorem find?_path (h : shape.Holds members value?) (hkind : shape.kind? field = some .text) :
    (Fields.named members).find? ⟨index, field⟩ Setting.path =
      .ok ((value? field).bind Toml.path?) :=
  h.find?_eq Setting.decodes_path hkind fun _ => Toml.isSome_path?

theorem find?_texts (h : shape.Holds members value?) (hkind : shape.kind? field = some .texts) :
    (Fields.named members).find? ⟨index, field⟩ (Setting.listOf Setting.text) =
      .ok ((value? field).bind (Toml.list? Toml.text?)) :=
  h.find?_eq (Setting.decodes_listOf Setting.decodes_text) hkind fun _ => id

theorem find?_textLists (h : shape.Holds members value?)
    (hkind : shape.kind? field = some .textLists) :
    (Fields.named members).find? ⟨index, field⟩ (Setting.listOf (Setting.listOf Setting.text)) =
      .ok ((value? field).bind (Toml.list? (Toml.list? Toml.text?))) :=
  h.find?_eq (Setting.decodes_listOf (Setting.decodes_listOf Setting.decodes_text)) hkind
    fun _ => id

theorem find?_count (h : shape.Holds members value?) (hkind : shape.kind? field = some .count) :
    (Fields.named members).find? ⟨index, field⟩ Setting.count =
      .ok ((value? field).bind Toml.count?) :=
  h.find?_eq Setting.decodes_count hkind fun _ => id

theorem find?_mixes (h : shape.Holds members value?) (hkind : shape.kind? field = some .mixes) :
    (Fields.named members).find? ⟨index, field⟩ (Setting.listOf ProgramMix.decode) =
      .ok ((value? field).bind (Toml.list? Toml.mix?)) :=
  h.find?_eq (Setting.decodes_listOf ProgramMix.decodes_decode) hkind fun _ => id

end SectionShape.Holds

/-- A section is decoded as the plan of its values, where there is one. -/
theorem AnalysisPlan.decode_eq_ok_iff {members : Layer} {value? : String → Option Toml}
    (h : shape.Holds members value?) {origin : Option String} {plan : AnalysisPlan} :
    decode (.table origin members) = .ok plan ↔ plan.IsSetBy value? := by
  simp (disch := decide) only [decode, Fields.ofSetting, h.find?_path, h.find?_texts, h.find?_text,
    h.find?_textLists, bind_eq_ok_iff, Except.ok.injEq, exists_eq_left',
    Fields.demand_named_eq_ok_iff]
  constructor
  · rintro ⟨directory, hdirectory, workloads, hworkloads, configurations, hconfigurations,
      reference, hreference, output, houtput, hplan⟩
    cases hplan
    exact ⟨hdirectory, hworkloads, hconfigurations, hreference, rfl, houtput⟩
  · intro hset
    refine ⟨_, hset.reportDirectory, _, hset.workloads, _, hset.configurations, _, hset.reference,
      _, hset.outputDirectory, ?_⟩
    rw [← hset.programLists]
    rfl

theorem SimulationPlan.decode_eq_ok_iff {members : Layer} {value? : String → Option Toml}
    (h : shape.Holds members value?) {origin : Option String} {plan : SimulationPlan} :
    decode (.table origin members) = .ok plan ↔ plan.IsSetBy value? := by
  simp (disch := decide) only [decode, Fields.ofSetting, h.find?_path, h.find?_texts, h.find?_text,
    h.find?_count, h.find?_mixes, bind_eq_ok_iff, Except.ok.injEq, exists_eq_left',
    Fields.demand_named_eq_ok_iff]
  constructor
  · rintro ⟨simulator, hsimulator, traces, htraces, configs, hconfigs, output, houtput,
      configurations, hconfigurations, hplan⟩
    cases hplan
    exact ⟨hsimulator, htraces, hconfigs, houtput, hconfigurations, rfl, rfl, rfl, rfl, rfl⟩
  · intro hset
    refine ⟨_, hset.simulator, _, hset.traceDirectory, _, hset.configDirectory, _,
      hset.outputDirectory, _, hset.configurations, ?_⟩
    rw [defaultMode, defaultResultFile, ← hset.mode, ← hset.parallel, ← hset.programs,
      ← hset.mixes, ← hset.resultFile]
    rfl

section Required

variable {value? : String → Option Toml}

theorem AnalysisPlan.IsSetBy.eq {plan other : AnalysisPlan} (h : plan.IsSetBy value?)
    (hother : other.IsSetBy value?) : other = plan := by
  have hdirectory := hother.reportDirectory.symm.trans h.reportDirectory
  have hworkloads := hother.workloads.symm.trans h.workloads
  have hconfigurations := hother.configurations.symm.trans h.configurations
  have hreference := hother.reference.symm.trans h.reference
  have hlists := hother.programLists.trans h.programLists.symm
  have houtput := hother.outputDirectory.symm.trans h.outputDirectory
  cases plan
  cases other
  simp_all

theorem SimulationPlan.IsSetBy.eq {plan other : SimulationPlan} (h : plan.IsSetBy value?)
    (hother : other.IsSetBy value?) : other = plan := by
  have hsimulator := hother.simulator.symm.trans h.simulator
  have htraces := hother.traceDirectory.symm.trans h.traceDirectory
  have hconfigs := hother.configDirectory.symm.trans h.configDirectory
  have houtput := hother.outputDirectory.symm.trans h.outputDirectory
  have hconfigurations := hother.configurations.symm.trans h.configurations
  obtain ⟨-, -, -, -, -, hmode, hparallel, hprograms, hmixes, hresult⟩ := h
  obtain ⟨-, -, -, -, -, hmode', hparallel', hprograms', hmixes', hresult'⟩ := hother
  cases plan
  cases other
  simp_all

theorem isSome_of_bind {α β : Type} {value? : Option α} {read? : α → Option β} {result : β}
    (h : value?.bind read? = some result) : value?.isSome = true :=
  Option.isSome_of_isSome_bind (Option.isSome_of_eq_some h)

/-- A value that may stand in a field is read. -/
theorem exists_bind_eq_some {shape : SectionShape}
    (haccepted : ∀ field value, value? field = some value → shape.accepts field value = true)
    {field : String} (kind : FieldKind) (hkind : shape.kind? field = some kind) {α : Type}
    {read? : Toml → Option α}
    (hreads : ∀ value, kind.accepts value = true → (read? value).isSome = true)
    (hset : (value? field).isSome = true) :
    ∃ result, (value? field).bind read? = some result := by
  obtain ⟨value, hvalue⟩ := Option.isSome_iff_exists.mp hset
  have haccepts := haccepted field value hvalue
  rw [SectionShape.accepts, hkind, Option.any_some] at haccepts
  obtain ⟨result, hresult⟩ := Option.isSome_iff_exists.mp (hreads value haccepts)
  exact ⟨result, by rw [hvalue, Option.bind_some, hresult]⟩

/-- There is a plan of accepted values exactly when no required one is missing. -/
theorem AnalysisPlan.exists_isSetBy_iff
    (haccepted : ∀ field value, value? field = some value → shape.accepts field value = true) :
    (∃ plan : AnalysisPlan, plan.IsSetBy value?) ↔
      ∀ field ∈ shape.required, (value? field.1).isSome = true := by
  constructor
  · rintro ⟨plan, hset⟩ field hfield
    simp only [shape, List.mem_cons, List.not_mem_nil, or_false] at hfield
    rcases hfield with rfl | rfl | rfl | rfl | rfl
    · exact isSome_of_bind hset.reportDirectory
    · exact isSome_of_bind hset.workloads
    · exact isSome_of_bind hset.configurations
    · exact isSome_of_bind hset.reference
    · exact isSome_of_bind hset.outputDirectory
  · intro hrequired
    simp only [shape, List.forall_mem_cons] at hrequired
    obtain ⟨hdirectory, hworkloads, hconfigurations, hreference, houtput, -⟩ := hrequired
    obtain ⟨directory, hdirectory⟩ :=
      exists_bind_eq_some haccepted .text rfl (fun _ => Toml.isSome_path?) hdirectory
    obtain ⟨workloads, hworkloads⟩ :=
      exists_bind_eq_some haccepted .texts rfl (fun _ => id) hworkloads
    obtain ⟨configurations, hconfigurations⟩ :=
      exists_bind_eq_some haccepted .texts rfl (fun _ => id) hconfigurations
    obtain ⟨reference, hreference⟩ :=
      exists_bind_eq_some haccepted .text rfl (fun _ => id) hreference
    obtain ⟨output, houtput⟩ :=
      exists_bind_eq_some haccepted .text rfl (fun _ => Toml.isSome_path?) houtput
    exact ⟨⟨directory, workloads, configurations, reference, _, output⟩,
      hdirectory, hworkloads, hconfigurations, hreference, rfl, houtput⟩

theorem SimulationPlan.exists_isSetBy_iff
    (haccepted : ∀ field value, value? field = some value → shape.accepts field value = true) :
    (∃ plan : SimulationPlan, plan.IsSetBy value?) ↔
      ∀ field ∈ shape.required, (value? field.1).isSome = true := by
  constructor
  · rintro ⟨plan, hset⟩ field hfield
    simp only [shape, List.mem_cons, List.not_mem_nil, or_false] at hfield
    rcases hfield with rfl | rfl | rfl | rfl | rfl
    · exact isSome_of_bind hset.simulator
    · exact isSome_of_bind hset.traceDirectory
    · exact isSome_of_bind hset.configDirectory
    · exact isSome_of_bind hset.outputDirectory
    · exact isSome_of_bind hset.configurations
  · intro hrequired
    simp only [shape, List.forall_mem_cons] at hrequired
    obtain ⟨hsimulator, htraces, hconfigs, houtput, hconfigurations, -⟩ := hrequired
    obtain ⟨simulator, hsimulator⟩ :=
      exists_bind_eq_some haccepted .text rfl (fun _ => Toml.isSome_path?) hsimulator
    obtain ⟨traces, htraces⟩ :=
      exists_bind_eq_some haccepted .text rfl (fun _ => Toml.isSome_path?) htraces
    obtain ⟨configs, hconfigs⟩ :=
      exists_bind_eq_some haccepted .text rfl (fun _ => Toml.isSome_path?) hconfigs
    obtain ⟨output, houtput⟩ :=
      exists_bind_eq_some haccepted .text rfl (fun _ => Toml.isSome_path?) houtput
    obtain ⟨configurations, hconfigurations⟩ :=
      exists_bind_eq_some haccepted .texts rfl (fun _ => id) hconfigurations
    exact ⟨⟨simulator, traces, configs, output, configurations, _, _, _, _, _⟩,
      hsimulator, htraces, hconfigs, houtput, hconfigurations, rfl, rfl, rfl, rfl, rfl⟩

end Required

end DramSweep
