import DramSweep.Proofs.FileTree.Walking

/-!
The components of a path from its segments. Names at the end of a path are its last components, and
what is in front of them does not depend on them. Another extension changes the end of a path only.
-/

namespace DramSweep.Path

theorem IsName.ofSegment? {segment : List Char} (h : IsName segment) :
    Component.ofSegment? segment = some (.name segment) := by
  simp [Component.ofSegment?, h.1, h.2.1, h.2.2]

variable {path : Path}

theorem segments_ne_nil (path : Path) : path.segments ≠ [] :=
  List.splitOn_ne_nil _ _

/-- In front of the first separator of an absolute path there is nothing. -/
theorem not_isAbsolute_of_segments {first : List Char} {rest : List (List Char)}
    (h : path.segments = first :: rest) (hfirst : first ≠ []) : path.isAbsolute = false := by
  unfold segments at h
  unfold isAbsolute
  cases htext : path.text.toList with
  | nil => rfl
  | cons c more =>
      by_cases hc : c = '/'
      · rw [htext, hc, ← List.nil_append ('/' :: more), splitOn_append_separator] at h
        exact absurd (List.cons.inj h).1.symm hfirst
      · simpa using hc

/-- The components that segments stand for. The first segment may also say where the path starts. -/
def componentsOf (absolute : Bool) : List (List Char) → List Component
  | [] => []
  | first :: rest =>
    (if absolute then some Component.root
      else if first = ['.'] then some .here
      else Component.ofSegment? first).toList ++ rest.filterMap Component.ofSegment?

theorem components_eq (path : Path) :
    path.components = componentsOf path.isAbsolute path.segments := by
  unfold components componentsOf
  cases path.segments <;> rfl

/-- A name behind other segments adds itself. One that stands first is no start of a path. -/
theorem componentsOf_concat_name {absolute : Bool} {front : List (List Char)} {name : List Char}
    (hstart : front = [] → absolute = false) (hname : IsName name) :
    componentsOf absolute (front ++ [name]) = componentsOf absolute front ++ [.name name] := by
  cases front with
  | nil => simp [componentsOf, hstart rfl, hname.2.1, hname.ofSegment?]
  | cons first rest => simp [componentsOf, hname.ofSegment?]

/-- An empty segment behind other ones says nothing. -/
theorem componentsOf_concat_empty {absolute : Bool} {front : List (List Char)}
    (hstart : front = [] → absolute = false) :
    componentsOf absolute (front ++ [[]]) = componentsOf absolute front := by
  cases front with
  | nil => simp [componentsOf, hstart rfl, Component.ofSegment?]
  | cons first rest => simp [componentsOf, Component.ofSegment?]

/-- A name at the end of a path is the name of the file. -/
theorem fileName?_of_segments {front : List (List Char)} {name : List Char}
    (h : path.segments = front ++ [name]) (hname : IsName name) :
    path.fileName? = some name := by
  have hstart : front = [] → path.isAbsolute = false := by
    rintro rfl
    exact not_isAbsolute_of_segments h hname.1
  simp [fileName?, components_eq, h, componentsOf_concat_name hstart hname]

/-- A name put behind a path is one component more. -/
theorem components_div (directory : Path) {name : String} (hslash : '/' ∉ name.toList)
    (hname : IsName name.toList) :
    (directory / name).components = directory.components ++ [.name name.toList] := by
  obtain ⟨front, last, hsegments, -, hfile⟩ := directory.exists_segments
  rw [components_eq, components_eq, isAbsolute_div directory hslash, hsegments]
  rcases hfile name hslash with hbehind | ⟨rfl, hinstead⟩
  · have hsplit : front ++ [last, name.toList] = (front ++ [last]) ++ [name.toList] := by simp
    rw [hbehind, hsplit, componentsOf_concat_name (by simp) hname]
  · have hstart : front = [] → directory.isAbsolute = false := by
      rintro rfl
      rw [← isAbsolute_div directory hslash]
      exact not_isAbsolute_of_segments hinstead hname.1
    rw [hinstead, componentsOf_concat_name hstart hname, componentsOf_concat_empty hstart]

/-- Text put behind the last of several pieces is put behind the joined pieces. -/
theorem exists_intercalate_append (separator : List Char) (front : List (List Char)) :
    ∃ above, ∀ last, separator.intercalate (front ++ [last]) = above ++ last := by
  induction front with
  | nil => exact ⟨[], fun last => by simp⟩
  | cons first rest ih =>
      obtain ⟨above, habove⟩ := ih
      refine ⟨first ++ separator ++ above, fun last => ?_⟩
      have hsplit : ∃ second more, rest ++ [last] = second :: more :=
        List.exists_cons_of_ne_nil (by simp)
      obtain ⟨second, more, hmore⟩ := hsplit
      rw [List.cons_append, hmore, List.intercalate_cons_cons, ← hmore, habove]
      simp

theorem ofComponents_eq {components : List Component} (h : components ≠ [.root]) :
    ofComponents components =
      ⟨String.ofList (['/'].intercalate (components.map Component.chars))⟩ := by
  unfold ofComponents
  split
  next => exact absurd rfl h
  next => rfl

theorem concat_name_ne_root (front : List Component) (name : List Char) :
    front ++ [.name name] ≠ [.root] := by
  intro hroot
  have hlast := congrArg List.getLast? hroot
  simp at hlast

/-- A path with another extension is one text with the point and the extension behind it. -/
theorem exists_withExtension {name : List Char} (h : path.fileName? = some name) :
    ∃ stem : String, ∀ extension : String,
      path.withExtension extension = ⟨stem ++ ("." ++ extension)⟩ := by
  obtain ⟨above, habove⟩ :=
    exists_intercalate_append ['/'] (path.components.dropLast.map Component.chars)
  refine ⟨String.ofList (above ++ (cutAtPoint name).1), fun extension => ?_⟩
  unfold withExtension
  rw [h]
  dsimp only
  rw [ofComponents_eq (concat_name_ne_root _ _), List.map_append, List.map_singleton,
    Component.chars, habove]
  congr 1
  rw [← String.toList_inj]
  simp

end DramSweep.Path
