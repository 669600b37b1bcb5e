import DramSweep.Plan.Load
import DramSweep.Proofs.Traverse

/-!
What layers hold. The names in a document and in each of its tables are distinct, so the layer over
an earlier one decides name by name: a table goes into the table that is there, and everything else
takes the place of what is there. Main statement: a section that is a table in every document that
has it holds under each name the value of the last document that sets it.
-/

namespace DramSweep

namespace Toml

/-- A table with distinct names is settled to one with the same names. -/
theorem map_fst_of_settleMembers {members settled : List (String × Toml)}
    (h : settleMembers members = some settled) : settled.map Prod.fst = members.map Prod.fst := by
  induction members generalizing settled with
  | nil =>
      cases h
      rfl
  | cons member rest ih =>
      obtain ⟨value, -, hrest⟩ := Option.bind_eq_some_iff.mp h
      obtain ⟨tail, htail, hsettled⟩ := Option.bind_eq_some_iff.mp hrest
      cases hsettled
      rw [List.map_cons, List.map_cons, ih htail]

theorem exists_settle_of_mem {members settled : List (String × Toml)}
    (h : settleMembers members = some settled) {member : String × Toml} (hmem : member ∈ settled) :
    ∃ before, settle before = some member.2 := by
  induction members generalizing settled with
  | nil =>
      cases h
      cases hmem
  | cons first rest ih =>
      obtain ⟨value, hvalue, hrest⟩ := Option.bind_eq_some_iff.mp h
      obtain ⟨tail, htail, hsettled⟩ := Option.bind_eq_some_iff.mp hrest
      cases hsettled
      rcases List.mem_cons.mp hmem with rfl | hmem
      · exact ⟨_, hvalue⟩
      · exact ih htail hmem

/-- A marked table is a moment, if it is settled at all. -/
theorem markedMoment?_ne_table {members settled : List (String × Toml)} :
    markedMoment? members ≠ some (some (.table settled)) := by
  unfold markedMoment?
  split
  · simp
  · split
    · simp
    · split <;> simp

/-- Only a table whose names are distinct is settled to a table. -/
theorem settled_table {value : Toml} {settled : List (String × Toml)}
    (h : settle value = some (.table settled)) :
    (settled.map Prod.fst).Nodup ∧
      ∀ member ∈ settled, ∃ before, settle before = some member.2 := by
  cases value with
  | table members =>
      rw [settle] at h
      cases hmoment : markedMoment? members with
      | some moment =>
          rw [hmoment] at h
          exact absurd (hmoment.trans (congrArg some h)) markedMoment?_ne_table
      | none =>
          simp only [hmoment] at h
          split at h
          · rename_i hnodup
            obtain ⟨members', hmembers, heq⟩ := Option.map_eq_some_iff.mp h
            cases heq
            exact ⟨map_fst_of_settleMembers hmembers ▸ hnodup,
              fun _ => exists_settle_of_mem hmembers⟩
          · cases h
  | array items => simp [settle] at h
  | string _ | integer _ | real _ | flag _ | moment _ => simp [settle] at h

/-- The names in a document are distinct, and so are those in each of its tables. -/
theorem nodup_of_readDocument? {text : String} {document : List (String × Toml)}
    (h : readDocument? text = some document) :
    (document.map Prod.fst).Nodup ∧
      ∀ name members, (name, .table members) ∈ document → (members.map Prod.fst).Nodup := by
  obtain ⟨expressions, -, h⟩ := Option.bind_eq_some_iff.mp h
  obtain ⟨draft, -, h⟩ := Option.bind_eq_some_iff.mp h
  obtain ⟨settled, hsettled, h⟩ := Option.bind_eq_some_iff.mp h
  cases settled with
  | table members =>
      cases h
      obtain ⟨hnodup, hmembers⟩ := settled_table hsettled
      refine ⟨hnodup, fun name inner hmem => ?_⟩
      obtain ⟨before, hbefore⟩ := hmembers _ hmem
      exact (settled_table hbefore).1
  | string _ | integer _ | real _ | flag _ | moment _ | array _ =>
      cases h
      exact ⟨List.nodup_nil, fun _ _ hmem => absurd hmem List.not_mem_nil⟩

end Toml

namespace Setting

/-- A layer is made member by member. -/
theorem membersOfToml_eq (origin : String) (members : List (String × Toml)) :
    membersOfToml origin members =
      members.map fun (name, value) => (name, ofToml origin value) := by
  induction members with
  | nil => rfl
  | cons member rest ih => rw [membersOfToml, ih, List.map_cons]

theorem map_fst_membersOfToml (origin : String) (members : List (String × Toml)) :
    (membersOfToml origin members).map Prod.fst = members.map Prod.fst := by
  rw [membersOfToml_eq, List.map_map]
  rfl

theorem get?_membersOfToml (origin : String) (members : List (String × Toml)) (name : String) :
    Layer.get? (membersOfToml origin members) name = (members.lookup name).map (ofToml origin) := by
  rw [membersOfToml_eq, Layer.get?]
  induction members with
  | nil => rfl
  | cons member rest ih =>
      rw [List.map_cons, List.lookup_cons, List.lookup_cons, ih]
      cases name == member.1 <;> rfl

theorem listOfToml_eq (origin : String) (items : List Toml) :
    listOfToml origin items = items.map (ofToml origin) := by
  induction items with
  | nil => rfl
  | cons item rest ih => rw [listOfToml, ih, List.map_cons]

end Setting

namespace Layer

/-- With distinct names in the upper layer, each name is decided by itself. -/
theorem get?_mergeInto {above : Layer} (hnodup : (above.map Prod.fst).Nodup) (under : Layer)
    (name : String) :
    (mergeInto under above).get? name =
      match above.get? name with
      | none => under.get? name
      | some upper => some (cover upper (under.get? name)) := by
  induction above generalizing under with
  | nil => rfl
  | cons first rest ih =>
      obtain ⟨other, setting⟩ := first
      rw [List.map_cons, List.nodup_cons] at hnodup
      rw [mergeInto, ih hnodup.2]
      by_cases hname : name = other
      · subst hname
        have habsent : get? rest name = none := by
          rw [get?, List.lookup_eq_none_iff]
          intro member hmem
          have hne : name ≠ member.1 := by
            rintro rfl
            exact hnodup.1 (List.mem_map.mpr ⟨member, hmem, rfl⟩)
          simpa using hne
        rw [habsent, get?_put_self]
        simp [get?]
      · have hother : (name == other) = false := by simpa using hname
        rw [get?_put_of_ne _ hname]
        simp [get?, List.lookup_cons, hother]

/-- The members of a table, put over a layer, decide each name of theirs. -/
theorem get?_mergeInto_membersOfToml {members : List (String × Toml)}
    (hnodup : (members.map Prod.fst).Nodup) (under : Layer) (origin name : String) :
    (mergeInto under (Setting.membersOfToml origin members)).get? name =
      match (members.lookup name).map (Setting.ofToml origin) with
      | none => under.get? name
      | some upper => some (cover upper (under.get? name)) := by
  have hsettings : ((Setting.membersOfToml origin members).map Prod.fst).Nodup := by
    rwa [Setting.map_fst_membersOfToml]
  rw [get?_mergeInto hsettings, Setting.get?_membersOfToml]

end Layer

/-- A member that is found under a name is one of the members. -/
theorem mem_of_lookup_eq_some {α : Type} {members : List (String × α)} {name : String} {value : α}
    (h : members.lookup name = some value) : (name, value) ∈ members := by
  obtain ⟨before, after, rfl, -⟩ := List.lookup_eq_some_iff.mp h
  exact List.mem_append_right before List.mem_cons_self

def Toml.isTable : Toml → Bool
  | .table _ => true
  | _ => false

/-- What is no table takes the place of what is there, whatever that is. -/
theorem Layer.cover_ofToml {value : Toml} (h : value.isTable = false) (origin : String)
    (lower : Option Setting) : cover (.ofToml origin value) lower = .ofToml origin value := by
  cases value with
  | table members => cases h
  | string _ | integer _ | real _ | flag _ | moment _ | array _ => rfl

/-- A table with members goes into the one that is there. -/
theorem Layer.cover_table {members : Layer} (h : members ≠ []) (origin : Option String)
    (lower : Option Setting) :
    cover (.table origin members) lower = .table none (mergeInto (membersOf lower) members) := by
  obtain ⟨first, rest, rfl⟩ := List.exists_cons_of_ne_nil h
  rfl

/-- A setting is a value of a document, from some file. -/
def Setting.IsFrom (setting : Setting) (value : Toml) : Prop :=
  ∃ origin, setting = .ofToml origin value

abbrev Document := List (String × Toml)

namespace Document

/-- The value of a field in a section of a document. -/
def field? (document : Document) (name field : String) : Option Toml :=
  match document.lookup name with
  | some (.table members) => members.lookup field
  | _ => none

/-- The value of a field in the last document that sets it. -/
def lastField? (documents : List Document) (name field : String) : Option Toml :=
  documents.reverse.findSome? (·.field? name field)

theorem lastField?_concat (documents : List Document) (last : Document) (name field : String) :
    lastField? (documents ++ [last]) name field =
      (last.field? name field).or (lastField? documents name field) := by
  rw [lastField?, List.reverse_append, List.reverse_singleton, List.singleton_append,
    List.findSome?_cons]
  cases last.field? name field <;> rfl

/-- A section is a table with members, none of which is a table, wherever it is. -/
def IsFlat (document : Document) (name : String) : Prop :=
  ∀ value, document.lookup name = some value →
    ∃ members, value = .table members ∧ members ≠ [] ∧
      ∀ member ∈ members, member.2.isTable = false

/-- Names are distinct at both levels that sections are merged at. -/
structure Distinct (document : Document) : Prop where
  names : (document.map Prod.fst).Nodup
  members : ∀ name members, (name, .table members) ∈ document → (members.map Prod.fst).Nodup

end Document

namespace Layer

open Document (lastField?)

/-- What a layer made of documents holds of a section: nothing where no document has it, and else a
table with the last value of each field. -/
structure HoldsSection (layer : Layer) (documents : List Document) (name : String) : Prop where
  absent : (∀ document ∈ documents, document.lookup name = none) → layer.get? name = none
  present : (∃ document ∈ documents, (document.lookup name).isSome) →
    ∃ members, layer.get? name = some (.table none members)
  fields : ∀ field, Option.Rel Setting.IsFrom ((membersOf (layer.get? name)).get? field)
    (lastField? documents name field)

/-- A document without the section leaves it as it was. -/
theorem HoldsSection.concat_of_absent {under layer : Layer} {documents : List Document}
    {name : String} (h : under.HoldsSection documents name) {document : Document}
    (hlookup : document.lookup name = none) (hget : layer.get? name = under.get? name) :
    layer.HoldsSection (documents ++ [document]) name := by
  constructor
  · intro habsent
    exact hget.trans (h.absent fun earlier hmem => habsent earlier (List.mem_append_left _ hmem))
  · rintro ⟨setter, hmem, hsets⟩
    rcases List.mem_append.mp hmem with hmem | hmem
    · rw [hget]
      exact h.present ⟨setter, hmem, hsets⟩
    · cases List.mem_singleton.mp hmem
      rw [hlookup] at hsets
      cases hsets
  · intro field
    have hfield : document.field? name field = none := by rw [Document.field?, hlookup]
    rw [hget, Document.lastField?_concat, hfield, Option.none_or]
    exact h.fields field

/-- A document with the section sets the fields that it has there. -/
theorem HoldsSection.concat_of_table {under layer : Layer} {documents : List Document}
    {name origin : String} (h : under.HoldsSection documents name) {document : Document}
    {members : List (String × Toml)} (hlookup : document.lookup name = some (.table members))
    (hnodup : (members.map Prod.fst).Nodup)
    (hplain : ∀ member ∈ members, member.2.isTable = false)
    (hget : layer.get? name = some (.table none (Layer.mergeInto (membersOf (under.get? name))
      (Setting.membersOfToml origin members)))) :
    layer.HoldsSection (documents ++ [document]) name := by
  constructor
  · intro habsent
    have hnone := habsent document (List.mem_append_right _ (List.mem_singleton_self _))
    rw [hlookup] at hnone
    cases hnone
  · exact fun _ => ⟨_, hget⟩
  · intro field
    have hfield : document.field? name field = members.lookup field := by
      rw [Document.field?, hlookup]
    rw [hget, membersOf, get?_mergeInto_membersOfToml hnodup, Document.lastField?_concat, hfield]
    cases hvalue : members.lookup field with
    | none => exact h.fields field
    | some value =>
        rw [Option.map_some, Option.some_or]
        exact .some ⟨origin, cover_ofToml (hplain _ (mem_of_lookup_eq_some hvalue)) origin _⟩

/-- One more document on top. -/
theorem HoldsSection.mergeInto {under : Layer} {documents : List Document} {name : String}
    (h : under.HoldsSection documents name) {document : Document} (hdistinct : document.Distinct)
    (hflat : document.IsFlat name) (origin : String) :
    (mergeInto under (Setting.membersOfToml origin document)).HoldsSection
      (documents ++ [document]) name := by
  have hget := get?_mergeInto_membersOfToml hdistinct.names under origin name
  cases hlookup : document.lookup name with
  | none =>
      rw [hlookup] at hget
      exact h.concat_of_absent hlookup hget
  | some value =>
      obtain ⟨members, rfl, hne, hplain⟩ := hflat value hlookup
      have hsettings : Setting.membersOfToml origin members ≠ [] := by
        rw [Setting.membersOfToml_eq]
        simpa using hne
      rw [hlookup, Option.map_some, Setting.ofToml] at hget
      simp only [cover_table hsettings] at hget
      exact h.concat_of_table hlookup
        (hdistinct.members name members (mem_of_lookup_eq_some hlookup)) hplain hget

/-- Documents put over each other hold each section field by field. -/
theorem holdsSection_ofLayers {layers : List Layer} {documents : List Document} {name : String}
    (hlayers : List.Forall₂ (fun layer document =>
      ∃ origin, layer = Setting.membersOfToml origin document) layers documents)
    (hdistinct : ∀ document ∈ documents, document.Distinct)
    (hflat : ∀ document ∈ documents, document.IsFlat name) :
    (ofLayers layers).HoldsSection documents name := by
  have hmerged : ∀ (under : Layer) (earlier : List Document), under.HoldsSection earlier name →
      (layers.foldl Layer.mergeInto under).HoldsSection (earlier ++ documents) name := by
    induction hlayers with
    | nil =>
        intro under earlier hunder
        simpa using hunder
    | cons hlayer hrest ih =>
        intro under earlier hunder
        obtain ⟨origin, rfl⟩ := hlayer
        obtain ⟨hfirstDistinct, hrestDistinct⟩ := List.forall_mem_cons.mp hdistinct
        obtain ⟨hfirstFlat, hrestFlat⟩ := List.forall_mem_cons.mp hflat
        have hfirst := hunder.mergeInto hfirstDistinct hfirstFlat origin
        simpa using ih hrestDistinct hrestFlat _ _ hfirst
  have hnothing : Layer.HoldsSection [] [] name :=
    ⟨fun _ => rfl, by simp, fun _ => .none⟩
  exact hmerged [] [] hnothing

end Layer

end DramSweep
