import DramSweep.Toml.Table

/-!
Layers of configuration. A setting remembers the file that it comes from. A later layer is put
over an earlier one: tables are merged name by name, and everything else is replaced as a whole. A
table that layers were merged into comes from no single file.
-/

namespace DramSweep

/-- A configured value with its origin. -/
inductive Setting where
  | string (origin : String) (s : String)
  | integer (origin : String) (n : Int)
  | real (origin : String) (x : Float)
  | flag (origin : String) (b : Bool)
  | list (origin : String) (items : List Setting)
  | table (origin : Option String) (members : List (String × Setting))

namespace Setting

def origin? : Setting → Option String
  | .string origin _ | .integer origin _ | .real origin _ | .flag origin _ | .list origin _ =>
    some origin
  | .table origin _ => origin

mutual

/-- A value of a document in a file. Dates and times are strings. -/
def ofToml (origin : String) : Toml → Setting
  | .string s | .moment s => .string origin s
  | .integer n => .integer origin n
  | .real x => .real origin x
  | .flag b => .flag origin b
  | .array items => .list origin (listOfToml origin items)
  | .table members => .table (some origin) (membersOfToml origin members)

def listOfToml (origin : String) : List Toml → List Setting
  | [] => []
  | item :: rest => ofToml origin item :: listOfToml origin rest

def membersOfToml (origin : String) : List (String × Toml) → List (String × Setting)
  | [] => []
  | (name, value) :: rest => (name, ofToml origin value) :: membersOfToml origin rest

end

end Setting

/-- The members of a table of settings, each name once. -/
abbrev Layer := List (String × Setting)

namespace Layer

def get? (layer : Layer) (name : String) : Option Setting :=
  layer.lookup name

/-- Puts a setting in the place of the one under its name, or behind all others. -/
def put (name : String) (setting : Setting) : Layer → Layer
  | [] => [(name, setting)]
  | (other, old) :: rest =>
    if other = name then (name, setting) :: rest else (other, old) :: put name setting rest

theorem get?_put_self (layer : Layer) (name : String) (setting : Setting) :
    (put name setting layer).get? name = some setting := by
  induction layer with
  | nil => simp [put, get?]
  | cons head rest ih =>
    obtain ⟨other, old⟩ := head
    by_cases h : other = name
    · simp [put, get?, h]
    · have hne : (name == other) = false := by simpa using Ne.symm h
      simpa [put, get?, h, List.lookup_cons, hne] using ih

theorem get?_put_of_ne (layer : Layer) {name asked : String} (h : asked ≠ name)
    (setting : Setting) : (put name setting layer).get? asked = layer.get? asked := by
  have hne : (asked == name) = false := by simpa using h
  induction layer with
  | nil => simp [put, get?, List.lookup_cons, hne]
  | cons head rest ih =>
    obtain ⟨other, old⟩ := head
    by_cases ho : other = name
    · subst ho
      simp [put, get?, List.lookup_cons, hne]
    · simp only [put, ho, if_false, get?, List.lookup_cons] at ih ⊢
      rw [ih]

/-- The members to merge a table into: those of the table that is there, if it is one. -/
def membersOf : Option Setting → Layer
  | some (.table _ members) => members
  | _ => []

mutual

/-- What a name stands for after a setting is put over what was there. A table without members
changes nothing that was there. -/
def cover (upper : Setting) (lower : Option Setting) : Setting :=
  match upper with
  | .table _ [] => lower.getD (.table none [])
  | .table _ (member :: rest) => .table none (mergeInto (membersOf lower) (member :: rest))
  | setting => setting

/-- A layer with the members of another one put over it. -/
def mergeInto (under : Layer) : Layer → Layer
  | [] => under
  | (name, setting) :: rest =>
    mergeInto (put name (cover setting (under.get? name)) under) rest

end

/-- Layers put over each other, the first one at the bottom. -/
def ofLayers (layers : List Layer) : Layer :=
  layers.foldl mergeInto []

end Layer

end DramSweep
