import DramSweep.Proofs.Plan.Fields

/-!
Configuration files in layers. Every field of a section has the value of the last file that sets it,
or its default, whatever other fields the files set. Main statement: files whose sections hold
declared fields alone are read as plans exactly when each section that is there has all its required
fields, from whichever files, and the plans are then those of the last values.
-/

namespace DramSweep

open Document (lastField?)
open Traverse (bind_eq_ok_iff)

namespace SectionShape

variable {shape : SectionShape} {document : Document} {documents : List Document}

/-- No field is declared to hold a table. -/
theorem isTable_of_accepts {field : String} {value : Toml}
    (h : shape.accepts field value = true) : value.isTable = false := by
  obtain ⟨kind, -, haccepts⟩ := (Option.any_eq_true _ _).mp h
  cases value with
  | table members => cases kind <;> cases haccepts
  | string _ | integer _ | real _ | flag _ | moment _ | array _ => rfl

/-- A section that fits is a table with members, each of them accepted. -/
theorem exists_members_of_fits (h : shape.fits document = true) {value : Toml}
    (hvalue : document.lookup shape.name = some value) :
    ∃ members, value = .table members ∧ members ≠ [] ∧
      ∀ member ∈ members, shape.accepts member.1 member.2 = true := by
  rw [fits, hvalue] at h
  cases value with
  | table members =>
      simp only [Bool.and_eq_true, Bool.not_eq_true', List.isEmpty_eq_false_iff,
        List.all_eq_true] at h
      exact ⟨members, rfl, h.1, h.2⟩
  | string _ | integer _ | real _ | flag _ | moment _ | array _ => cases h

theorem isFlat_of_fits (h : shape.fits document = true) : document.IsFlat shape.name := by
  intro value hvalue
  obtain ⟨members, rfl, hne, haccepted⟩ := exists_members_of_fits h hvalue
  exact ⟨members, rfl, hne, fun member hmem => isTable_of_accepts (haccepted member hmem)⟩

theorem accepts_of_fits (h : shape.fits document = true) {field : String} {value : Toml}
    (hfield : document.field? shape.name field = some value) :
    shape.accepts field value = true := by
  rw [Document.field?] at hfield
  cases hvalue : document.lookup shape.name with
  | none =>
      rw [hvalue] at hfield
      cases hfield
  | some found =>
      obtain ⟨members, rfl, -, haccepted⟩ := exists_members_of_fits h hvalue
      rw [hvalue] at hfield
      exact haccepted _ (mem_of_lookup_eq_some hfield)

/-- A section is there as soon as one of its fields is, and only then. -/
theorem isSome_lookup_iff (h : shape.fits document = true) :
    (document.lookup shape.name).isSome = true ↔
      ∃ field, (document.field? shape.name field).isSome = true := by
  simp only [Document.field?]
  cases hvalue : document.lookup shape.name with
  | none => simp
  | some value =>
      obtain ⟨members, rfl, hne, -⟩ := exists_members_of_fits h hvalue
      obtain ⟨⟨field, value⟩, rest, rfl⟩ := List.exists_cons_of_ne_nil hne
      exact iff_of_true rfl ⟨field, by simp⟩

end SectionShape

namespace Document

theorem isSome_lastField?_iff {documents : List Document} {name field : String} :
    (lastField? documents name field).isSome = true ↔
      ∃ document ∈ documents, (document.field? name field).isSome = true := by
  rw [lastField?, List.isSome_findSome?]
  simp

end Document

namespace SectionShape

variable {shape : SectionShape} {documents : List Document}

theorem accepts_lastField? (hfits : ∀ document ∈ documents, shape.fits document = true)
    {field : String} {value : Toml} (h : lastField? documents shape.name field = some value) :
    shape.accepts field value = true := by
  obtain ⟨document, hmem, hfield⟩ := List.exists_of_findSome?_eq_some h
  exact accepts_of_fits (hfits document (List.mem_reverse.mp hmem)) hfield

theorem exists_lookup_iff (hfits : ∀ document ∈ documents, shape.fits document = true) :
    (∃ document ∈ documents, (document.lookup shape.name).isSome = true) ↔
      ∃ field, (lastField? documents shape.name field).isSome = true := by
  simp only [Document.isSome_lastField?_iff]
  constructor
  · rintro ⟨document, hmem, hlookup⟩
    obtain ⟨field, hfield⟩ := (isSome_lookup_iff (hfits document hmem)).mp hlookup
    exact ⟨field, document, hmem, hfield⟩
  · rintro ⟨field, document, hmem, hfield⟩
    exact ⟨document, hmem, (isSome_lookup_iff (hfits document hmem)).mpr ⟨field, hfield⟩⟩

/-- What a layer made of documents that fit holds of a section are accepted values. -/
theorem holds_of_holdsSection {layer : Layer} (h : layer.HoldsSection documents shape.name)
    (hfits : ∀ document ∈ documents, shape.fits document = true) :
    shape.Holds (Layer.membersOf (layer.get? shape.name)) (lastField? documents shape.name) :=
  ⟨h.fields, fun _ _ => accepts_lastField? hfits⟩

end SectionShape

namespace Plans

/-- The document that a file is, as far as it is there and can be parsed. -/
def documentAt? (tree : FileTree) (path : Path) : Option Document :=
  (findDocument? tree path).bind fun found =>
    ((tree.readFile? found).bind Bytes.text?).bind Toml.readDocument?

variable {tree : FileTree} {paths : List Path} {documents : List Document}

theorem readLayer_of_documentAt? {path : Path} {document : Document}
    (h : documentAt? tree path = some document) :
    document.Distinct ∧ ∃ origin,
      readLayer tree path = .ok (Setting.membersOfToml origin document) := by
  obtain ⟨found, hfound, h⟩ := Option.bind_eq_some_iff.mp h
  obtain ⟨text, htext, h⟩ := Option.bind_eq_some_iff.mp h
  obtain ⟨hnames, hmembers⟩ := Toml.nodup_of_readDocument? h
  exact ⟨⟨hnames, hmembers⟩, originOf found, by simp only [readLayer, hfound, htext, h]⟩

/-- Files that can be parsed are layers, each with distinct names. -/
theorem exists_layers (h : paths.mapM (documentAt? tree) = some documents) :
    (∀ document ∈ documents, document.Distinct) ∧
      ∃ layers, paths.mapM (readLayer tree) = .ok layers ∧
        List.Forall₂ (fun layer document =>
          ∃ origin, layer = Setting.membersOfToml origin document) layers documents := by
  induction paths generalizing documents with
  | nil =>
      cases h
      exact ⟨by simp, [], rfl, .nil⟩
  | cons path rest ih =>
      rw [List.mapM_cons] at h
      obtain ⟨document, hdocument, h⟩ := Option.bind_eq_some_iff.mp h
      obtain ⟨tail, htail, h⟩ := Option.bind_eq_some_iff.mp h
      cases h
      obtain ⟨hfirst, origin, hlayer⟩ := readLayer_of_documentAt? hdocument
      obtain ⟨hrest, layers, hlayers, hrelated⟩ := ih htail
      refine ⟨List.forall_mem_cons.mpr ⟨hfirst, hrest⟩, _ :: layers, ?_,
        .cons ⟨origin, rfl⟩ hrelated⟩
      rw [List.mapM_cons, hlayer, hlayers]
      rfl

/-- What becomes of a section: nothing where no document has it, and else the plan that the last
values set. -/
def SectionIs {α : Type} (documents : List Document) (name : String)
    (IsSet : α → (String → Option Toml) → Prop) : Option α → Prop
  | none => ∀ document ∈ documents, document.lookup name = none
  | some plan => (∃ document ∈ documents, (document.lookup name).isSome = true) ∧
    IsSet plan (lastField? documents name)

/-- A section is found as what the documents make of it. -/
theorem find?_eq_ok_iff {α : Type} {layer : Layer} {shape : SectionShape} {index : Nat}
    {decode : Setting.Decoder α} {IsSet : α → (String → Option Toml) → Prop}
    (h : layer.HoldsSection documents shape.name)
    (hdecode : ∀ origin plan,
      decode (.table origin (Layer.membersOf (layer.get? shape.name))) = .ok plan ↔
        IsSet plan (lastField? documents shape.name)) {plan? : Option α} :
    (Fields.named layer).find? ⟨index, shape.name⟩ decode = .ok plan? ↔
      SectionIs documents shape.name IsSet plan? := by
  rw [Fields.find?_named_eq_ok_iff]
  by_cases hset : ∃ document ∈ documents, (document.lookup shape.name).isSome = true
  · obtain ⟨members, hmembers⟩ := h.present hset
    simp only [hmembers, Layer.membersOf] at hdecode ⊢
    simp only [hdecode]
    obtain ⟨document, hmem, hlookup⟩ := hset
    cases plan? with
    | none =>
        simp only [reduceCtorEq, and_false, exists_false, SectionIs, false_iff]
        intro habsent
        rw [habsent document hmem] at hlookup
        cases hlookup
    | some plan =>
        simp only [Option.some.injEq, exists_eq_right', SectionIs]
        exact ⟨fun hplan => ⟨⟨document, hmem, hlookup⟩, hplan⟩, And.right⟩
  · have habsent : ∀ document ∈ documents, document.lookup shape.name = none := by
      intro document hmem
      exact Option.not_isSome_iff_eq_none.mp fun hlookup => hset ⟨document, hmem, hlookup⟩
    rw [h.absent habsent]
    cases plan? with
    | none => exact iff_of_true rfl habsent
    | some plan => exact iff_of_false (by simp) fun hplan => hset hplan.1

/-- Documents in which both sections fit. -/
def Proper (documents : List Document) : Prop :=
  ∀ document ∈ documents, AnalysisPlan.shape.fits document = true ∧
    SimulationPlan.shape.fits document = true

/-- Files that can be parsed, with sections that fit, are read as what becomes of each section by
itself. -/
theorem load_eq_ok_iff (hread : paths.mapM (documentAt? tree) = some documents)
    (hproper : Proper documents) {plans : Plans} :
    load tree paths = .ok plans ↔
      SectionIs documents "analysis" AnalysisPlan.IsSetBy plans.analysis ∧
        SectionIs documents "simulation" SimulationPlan.IsSetBy plans.simulation := by
  obtain ⟨hdistinct, layers, hlayers, hrelated⟩ := exists_layers hread
  have hholds : ∀ shape : SectionShape,
      (∀ document ∈ documents, shape.fits document = true) →
      (Layer.ofLayers layers).HoldsSection documents shape.name := fun shape hfits =>
    Layer.holdsSection_ofLayers hrelated hdistinct fun document hmem =>
      SectionShape.isFlat_of_fits (hfits document hmem)
  have hanalysisFits := fun document hmem => (hproper document hmem).1
  have hsimulationFits := fun document hmem => (hproper document hmem).2
  have hanalysisHolds := hholds AnalysisPlan.shape hanalysisFits
  have hsimulationHolds := hholds SimulationPlan.shape hsimulationFits
  have hanalysis : ∀ plan?, (Fields.named (Layer.ofLayers layers)).find? ⟨0, "analysis"⟩
      AnalysisPlan.decode = .ok plan? ↔
        SectionIs documents "analysis" AnalysisPlan.IsSetBy plan? := fun _ =>
    find?_eq_ok_iff hanalysisHolds fun _ _ => AnalysisPlan.decode_eq_ok_iff
      (SectionShape.holds_of_holdsSection hanalysisHolds hanalysisFits)
  have hsimulation : ∀ plan?, (Fields.named (Layer.ofLayers layers)).find? ⟨1, "simulation"⟩
      SimulationPlan.decode = .ok plan? ↔
        SectionIs documents "simulation" SimulationPlan.IsSetBy plan? := fun _ =>
    find?_eq_ok_iff hsimulationHolds fun _ _ => SimulationPlan.decode_eq_ok_iff
      (SectionShape.holds_of_holdsSection hsimulationHolds hsimulationFits)
  have hload : load tree paths = .ok plans ↔ decode (Layer.ofLayers layers) = .ok plans := by
    rw [load, hlayers]
    cases hdecode : decode (Layer.ofLayers layers) <;>
      simp [bind, Except.bind, hdecode, Except.mapError]
  rw [hload]
  simp only [decode, bind_eq_ok_iff, hanalysis, hsimulation]
  constructor
  · rintro ⟨analysis, hanalysis, simulation, hsimulation, hplans⟩
    cases hplans
    exact ⟨hanalysis, hsimulation⟩
  · rintro ⟨hanalysis, hsimulation⟩
    exact ⟨_, hanalysis, _, hsimulation, rfl⟩

section

variable {α : Type} {shape : SectionShape} {IsSet : α → (String → Option Toml) → Prop}

/-- There is something to make of a section exactly when no required field is missing in one that
is there. -/
theorem exists_sectionIs_iff
    (hexists : (∃ plan, IsSet plan (lastField? documents shape.name)) ↔
      ∀ field ∈ shape.required, (lastField? documents shape.name field.1).isSome = true) :
    (∃ plan?, SectionIs documents shape.name IsSet plan?) ↔
      ((∃ document ∈ documents, (document.lookup shape.name).isSome = true) →
        ∀ field ∈ shape.required, ∃ document ∈ documents,
          (document.field? shape.name field.1).isSome = true) := by
  simp only [Document.isSome_lastField?_iff] at hexists
  constructor
  · rintro ⟨plan?, hplan⟩ ⟨document, hmem, hlookup⟩
    cases plan? with
    | none =>
        rw [hplan document hmem] at hlookup
        cases hlookup
    | some plan => exact hexists.mp ⟨plan, hplan.2⟩
  · intro hrequired
    by_cases hset : ∃ document ∈ documents, (document.lookup shape.name).isSome = true
    · obtain ⟨plan, hplan⟩ := hexists.mpr (hrequired hset)
      exact ⟨some plan, hset, hplan⟩
    · refine ⟨none, fun document hmem => ?_⟩
      exact Option.not_isSome_iff_eq_none.mp fun hlookup => hset ⟨document, hmem, hlookup⟩

/-- The last values of a section decide what becomes of it. -/
theorem SectionIs.eq_of_lastField? (IsSet : α → (String → Option Toml) → Prop)
    {others : List Document}
    (hfits : ∀ document ∈ documents, shape.fits document = true)
    (hothers : ∀ document ∈ others, shape.fits document = true)
    (hunique : ∀ value? plan other, IsSet plan value? → IsSet other value? → other = plan)
    (hsame : ∀ field, lastField? others shape.name field = lastField? documents shape.name field)
    {plan? other? : Option α} (h : SectionIs documents shape.name IsSet plan?)
    (hother : SectionIs others shape.name IsSet other?) : other? = plan? := by
  have hset := SectionShape.exists_lookup_iff hfits
  have hotherSet := SectionShape.exists_lookup_iff hothers
  simp only [hsame] at hotherSet
  cases plan? with
  | none =>
      cases other? with
      | none => rfl
      | some other =>
          obtain ⟨document, hmem, hlookup⟩ := hset.mpr (hotherSet.mp hother.1)
          rw [h document hmem] at hlookup
          cases hlookup
  | some plan =>
      cases other? with
      | none =>
          obtain ⟨document, hmem, hlookup⟩ := hotherSet.mpr (hset.mp h.1)
          rw [hother document hmem] at hlookup
          cases hlookup
      | some other =>
          have hvalues : lastField? others shape.name = lastField? documents shape.name :=
            funext hsame
          rw [hunique _ plan other h.2 (hvalues ▸ hother.2)]

theorem SectionIs.eq_none_iff {name : String} {plan? : Option α}
    (h : SectionIs documents name IsSet plan?) :
    plan? = none ↔ ∀ document ∈ documents, document.lookup name = none := by
  cases plan? with
  | none => exact iff_of_true rfl h
  | some plan =>
      obtain ⟨⟨document, hmem, hlookup⟩, -⟩ := h
      refine iff_of_false (by simp) fun habsent => ?_
      rw [habsent document hmem] at hlookup
      cases hlookup

end

/-- Files are layers, field by field. Files that can be parsed, and whose sections have fields of
the declared kinds alone, are read as plans exactly when each section that one of them has has every
required field in one of them. A section that none of them has is left out. Every field of the
others has the value of the last file that sets it, as a whole, and an optional one that none sets
has its default. What the files set in one section makes no difference for the other one. -/
theorem fields_follow_last_files (hread : paths.mapM (documentAt? tree) = some documents)
    (hproper : Proper documents) :
    ((∃ plans, load tree paths = .ok plans) ↔
      ∀ shape ∈ [AnalysisPlan.shape, SimulationPlan.shape],
        (∃ document ∈ documents, (document.lookup shape.name).isSome = true) →
          ∀ field ∈ shape.required, ∃ document ∈ documents,
            (document.field? shape.name field.1).isSome = true) ∧
    ∀ plans, load tree paths = .ok plans →
      ((plans.analysis = none ↔ ∀ document ∈ documents, document.lookup "analysis" = none) ∧
        ∀ plan, plans.analysis = some plan → plan.IsSetBy (lastField? documents "analysis")) ∧
      ((plans.simulation = none ↔ ∀ document ∈ documents, document.lookup "simulation" = none) ∧
        ∀ plan, plans.simulation = some plan →
          plan.IsSetBy (lastField? documents "simulation")) ∧
      ∀ otherTree otherPaths others otherPlans,
        otherPaths.mapM (documentAt? otherTree) = some others → Proper others →
        load otherTree otherPaths = .ok otherPlans →
          ((∀ field, lastField? others "analysis" field = lastField? documents "analysis" field) →
            otherPlans.analysis = plans.analysis) ∧
          ((∀ field,
              lastField? others "simulation" field = lastField? documents "simulation" field) →
            otherPlans.simulation = plans.simulation) := by
  have hanalysisFits := fun document hmem => (hproper document hmem).1
  have hsimulationFits := fun document hmem => (hproper document hmem).2
  constructor
  · have hanalysis := exists_sectionIs_iff (AnalysisPlan.exists_isSetBy_iff
      fun _ _ => SectionShape.accepts_lastField? hanalysisFits)
    have hsimulation := exists_sectionIs_iff (SimulationPlan.exists_isSetBy_iff
      fun _ _ => SectionShape.accepts_lastField? hsimulationFits)
    simp only [List.forall_mem_cons, List.not_mem_nil, false_implies, implies_true, and_true,
      ← hanalysis, ← hsimulation, load_eq_ok_iff hread hproper]
    constructor
    · rintro ⟨plans, hanalysis, hsimulation⟩
      exact ⟨⟨_, hanalysis⟩, ⟨_, hsimulation⟩⟩
    · rintro ⟨⟨analysis, hanalysis⟩, ⟨simulation, hsimulation⟩⟩
      exact ⟨⟨analysis, simulation⟩, hanalysis, hsimulation⟩
  · intro plans hload
    obtain ⟨hanalysis, hsimulation⟩ := (load_eq_ok_iff hread hproper).mp hload
    refine ⟨⟨hanalysis.eq_none_iff, ?_⟩, ⟨hsimulation.eq_none_iff, ?_⟩, ?_⟩
    · intro plan hplan
      rw [hplan] at hanalysis
      exact hanalysis.2
    · intro plan hplan
      rw [hplan] at hsimulation
      exact hsimulation.2
    · intro otherTree otherPaths others otherPlans hotherRead hotherProper hotherLoad
      obtain ⟨hotherAnalysis, hotherSimulation⟩ :=
        (load_eq_ok_iff hotherRead hotherProper).mp hotherLoad
      have hotherAnalysisFits := fun document hmem => (hotherProper document hmem).1
      have hotherSimulationFits := fun document hmem => (hotherProper document hmem).2
      have hanalysisEq := SectionIs.eq_of_lastField? AnalysisPlan.IsSetBy hanalysisFits
        hotherAnalysisFits fun _ _ _ => AnalysisPlan.IsSetBy.eq
      have hsimulationEq := SectionIs.eq_of_lastField? SimulationPlan.IsSetBy hsimulationFits
        hotherSimulationFits fun _ _ _ => SimulationPlan.IsSetBy.eq
      exact ⟨fun hsame => hanalysisEq hsame hanalysis hotherAnalysis,
        fun hsame => hsimulationEq hsame hsimulation hotherSimulation⟩

end Plans

/-- Two files. The second one sets a field again, one that the first one leaves out, and a list of
the other section. -/
def layeredTree : FileTree :=
  let file (lines : List String) := Entry.file (lines.flatMap fun line =>
    Bytes.ofText (line ++ "\n"))
  { entries := .ofList [
      (["base.toml"], file ["[analysis]", "workload_dir = 'stats'", "workloads = ['a', 'b']",
        "ref_dram = 'X'", "output_dir = 'out'", "[simulation]", "simulator = 'sim'",
        "trace_dir = 't'", "config_dir = 'c'", "output_dir = 'o'", "dram_list = ['X']"]),
      (["more.toml"], file ["[analysis]", "workloads = ['m']", "dram_list = ['X', 'Y']",
        "[[simulation.multi_program]]", "name = 'm'", "programs = ['a', 'b']"])] }

/-- The last values of a few fields. -/
def shownFields (documents : List Document) :
    Option (List String) × Option (List String) × Option (List ProgramMix) × Option String :=
  let texts? (field : String) :=
    (lastField? documents "analysis" field).bind (Toml.list? Toml.text?)
  (texts? "workloads", texts? "dram_list",
    (lastField? documents "simulation" "multi_program").bind (Toml.list? Toml.mix?),
    (lastField? documents "simulation" "mode").bind Toml.text?)

theorem Plans.fields_follow_last_files_two :
    ∃ plans analysis simulation,
      Plans.load layeredTree [⟨"base"⟩, ⟨"more.toml"⟩] = .ok plans ∧
      plans.analysis = some analysis ∧ plans.simulation = some simulation ∧
      analysis.workloads = ["m"] ∧ analysis.configurations = ["X", "Y"] ∧
      simulation.mixes = [⟨"m", ["a", "b"]⟩] ∧ simulation.mode = "cpu" := by
  have hchecks : ([⟨"base"⟩, ⟨"more.toml"⟩].mapM (Plans.documentAt? layeredTree)).any
      (fun documents =>
        documents.all (fun document =>
          AnalysisPlan.shape.fits document && SimulationPlan.shape.fits document) &&
        [AnalysisPlan.shape, SimulationPlan.shape].all (fun shape =>
          documents.any (fun document => (document.lookup shape.name).isSome) &&
          shape.required.all fun field => documents.any fun document =>
            (document.field? shape.name field.1).isSome) &&
        shownFields documents =
          (some ["m"], some ["X", "Y"], some [⟨"m", ["a", "b"]⟩], none)) = true := by
    decide +kernel
  obtain ⟨documents, hread, hchecks⟩ := (Option.any_eq_true _ _).mp hchecks
  simp only [Bool.and_eq_true, List.all_eq_true, List.any_eq_true, decide_eq_true_eq] at hchecks
  obtain ⟨⟨hproper, hshapes⟩, hshown⟩ := hchecks
  obtain ⟨hloads, hfields⟩ := Plans.fields_follow_last_files hread hproper
  obtain ⟨plans, hload⟩ := hloads.mpr fun shape hshape _ => (hshapes shape hshape).2
  obtain ⟨⟨hanalysis, hanalysisSet⟩, ⟨hsimulation, hsimulationSet⟩, -⟩ := hfields plans hload
  have hthere : ∀ shape ∈ [AnalysisPlan.shape, SimulationPlan.shape],
      ¬∀ document ∈ documents, document.lookup shape.name = none := by
    intro shape hshape habsent
    obtain ⟨document, hmem, hlookup⟩ := (hshapes shape hshape).1
    rw [habsent document hmem] at hlookup
    cases hlookup
  obtain ⟨analysis, hanalysis⟩ := Option.ne_none_iff_exists'.mp
    (mt hanalysis.mp (hthere AnalysisPlan.shape (by simp)))
  obtain ⟨simulation, hsimulation⟩ := Option.ne_none_iff_exists'.mp
    (mt hsimulation.mp (hthere SimulationPlan.shape (by simp)))
  have hanalysisSet := hanalysisSet analysis hanalysis
  have hsimulationSet := hsimulationSet simulation hsimulation
  simp only [shownFields, Prod.mk.injEq] at hshown
  obtain ⟨hworkloads, hconfigurations, hmixes, hmode⟩ := hshown
  refine ⟨plans, analysis, simulation, hload, hanalysis, hsimulation, ?_, ?_, ?_, ?_⟩
  · exact Option.some.inj (hanalysisSet.workloads.symm.trans hworkloads)
  · exact Option.some.inj (hanalysisSet.configurations.symm.trans hconfigurations)
  · rw [hsimulationSet.mixes, hmixes, Option.getD_some]
  · rw [hsimulationSet.mode, hmode, Option.getD_none]

end DramSweep
