import DramSweep.Proofs.FileTree.Components

/-!
Paths put together again. The components of a path say all that taking it apart can tell, so a path
made of them has the same ones; another extension therefore changes the last component of a path and
nothing in front of it. What it changes there is the part of the name behind its last point: names
that differ in that part only become one name.
-/

namespace DramSweep.Path

/-- No segment has a separator in it. -/
theorem not_mem_of_mem_splitOn {chars segment : List Char} (h : segment ∈ chars.splitOn '/') :
    '/' ∉ segment := by
  induction chars generalizing segment with
  | nil =>
      obtain rfl : segment = [] := by simpa using h
      simp
  | cons c rest ih =>
      rw [List.splitOn_cons_eq_if_modifyHead] at h
      by_cases hc : c = '/'
      · rw [if_pos (by simpa using hc)] at h
        rcases List.mem_cons.mp h with rfl | hrest
        · simp
        · exact ih hrest
      · rw [if_neg (by simpa using hc)] at h
        -- The character belongs to the first of the other segments.
        obtain ⟨first, more, hmore⟩ := List.exists_cons_of_ne_nil (List.splitOn_ne_nil '/' rest)
        rw [hmore, List.modifyHead_cons] at h
        rcases List.mem_cons.mp h with rfl | hrest
        · have hfirst : '/' ∉ first := ih (hmore ▸ List.mem_cons_self)
          simp [hfirst, Ne.symm hc]
        · exact ih (hmore ▸ List.mem_cons_of_mem _ hrest)

namespace Component

/-- A component that may stand behind another one: a name, or the way up. -/
inductive IsInner : Component → Prop
  | up : IsInner .up
  | name {text : List Char} (hname : IsName text) (hplain : '/' ∉ text) : IsInner (.name text)

variable {component : Component}

theorem isInner_of_ofSegment? {segment : List Char} (hplain : '/' ∉ segment)
    (h : ofSegment? segment = some component) : component.IsInner := by
  unfold ofSegment? at h
  split at h
  next => cases h
  next hsome =>
    split at h
    next =>
      cases h
      exact .up
    next hup =>
      cases h
      exact .name ⟨fun hnil => hsome (.inl hnil), fun hdot => hsome (.inr hdot), hup⟩ hplain

/-- A component is read off its own text again. -/
theorem IsInner.ofSegment?_chars (h : component.IsInner) :
    ofSegment? component.chars = some component := by
  cases h with
  | up => rfl
  | name hname hplain => exact hname.ofSegment?

theorem IsInner.chars_ne_nil (h : component.IsInner) : component.chars ≠ [] := by
  cases h with
  | up => simp [chars]
  | name hname hplain => exact hname.1

theorem IsInner.chars_ne_here (h : component.IsInner) : component.chars ≠ ['.'] := by
  cases h with
  | up => simp [chars]
  | name hname hplain => exact hname.2.1

theorem IsInner.not_mem_chars (h : component.IsInner) : '/' ∉ component.chars := by
  cases h with
  | up => simp [chars]
  | name hname hplain => exact hplain

end Component

/-- Components that a path can have: only the first one may say where the path starts. -/
inductive WellFormed : List Component → Prop
  | empty : WellFormed []
  | start {first : Component} {rest : List Component}
      (hfirst : first = .root ∨ first = .here ∨ first.IsInner)
      (hrest : ∀ component ∈ rest, component.IsInner) : WellFormed (first :: rest)

theorem wellFormed_of_inner {components : List Component}
    (h : ∀ component ∈ components, component.IsInner) : WellFormed components := by
  cases components with
  | nil => exact .empty
  | cons first rest =>
      obtain ⟨hfirst, hrest⟩ := List.forall_mem_cons.mp h
      exact .start (.inr (.inr hfirst)) hrest

theorem wellFormed_components (path : Path) : WellFormed path.components := by
  have hplain : ∀ segment ∈ path.segments, '/' ∉ segment := fun _ => not_mem_of_mem_splitOn
  rw [components_eq]
  cases hsegments : path.segments with
  | nil => exact .empty
  | cons first rest =>
      rw [hsegments] at hplain
      obtain ⟨hfirst, hrest⟩ := List.forall_mem_cons.mp hplain
      have hinner : ∀ component ∈ rest.filterMap Component.ofSegment?, component.IsInner := by
        intro component hmem
        obtain ⟨segment, hsegment, hcomponent⟩ := List.mem_filterMap.mp hmem
        exact Component.isInner_of_ofSegment? (hrest segment hsegment) hcomponent
      rw [componentsOf]
      split
      next => exact .start (.inl rfl) hinner
      next =>
        split
        next => exact .start (.inr (.inl rfl)) hinner
        next =>
          cases hstart : Component.ofSegment? first with
          | none => exact wellFormed_of_inner hinner
          | some start =>
              exact .start (.inr (.inr (Component.isInner_of_ofSegment? hfirst hstart))) hinner

/-- The text of a component is one segment. -/
theorem WellFormed.not_mem_chars {components : List Component} (h : WellFormed components)
    {component : Component} (hmem : component ∈ components) : '/' ∉ component.chars := by
  cases h with
  | empty => cases hmem
  | start hfirst hrest =>
      rcases List.mem_cons.mp hmem with rfl | hmem
      · rcases hfirst with rfl | rfl | hinner
        · simp [Component.chars]
        · simp [Component.chars]
        · exact hinner.not_mem_chars
      · exact (hrest component hmem).not_mem_chars

/-- Only a start at the root has no text of its own. -/
theorem WellFormed.chars_ne_nil {front : List Component} {last : Component}
    (h : WellFormed (front ++ [last])) (hroot : front ++ [last] ≠ [.root]) : last.chars ≠ [] := by
  generalize hcomponents : front ++ [last] = components at h hroot
  cases h with
  | empty => simp at hcomponents
  | start hfirst hrest =>
      cases front with
      | nil =>
          cases hcomponents
          rcases hfirst with rfl | rfl | hinner
          · exact absurd rfl hroot
          · simp [Component.chars]
          · exact hinner.chars_ne_nil
      | cons _ middle =>
          cases hcomponents
          exact (hrest last (by simp)).chars_ne_nil

theorem WellFormed.take {components : List Component} (h : WellFormed components) (count : Nat) :
    WellFormed (components.take count) := by
  cases h with
  | empty => simpa using .empty
  | start hfirst hrest =>
      cases count with
      | zero => exact .empty
      | succ n =>
          exact .start hfirst fun component hmem => hrest component (List.mem_of_mem_take hmem)

theorem WellFormed.dropLast {components : List Component} (h : WellFormed components) :
    WellFormed components.dropLast := by
  rw [List.dropLast_eq_take]
  exact h.take _

/-- The segments of a path that is put together are the texts of its components. -/
theorem segments_ofComponents {components : List Component} (h : components ≠ [.root])
    (hsome : components ≠ []) (hplain : ∀ component ∈ components, '/' ∉ component.chars) :
    (ofComponents components).segments = components.map Component.chars := by
  rw [ofComponents_eq h, segments, String.toList_ofList]
  refine List.splitOn_intercalate '/' ?_ (by simpa using hsome)
  intro segment hsegment
  obtain ⟨component, hcomponent, rfl⟩ := List.mem_map.mp hsegment
  exact hplain component hcomponent

/-- What is put together comes apart as it was. -/
theorem components_ofComponents {components : List Component} (h : WellFormed components) :
    (ofComponents components).components = components := by
  cases h with
  | empty => rfl
  | @start first rest hfirst hrest =>
      by_cases hroot : first :: rest = [.root]
      · rw [hroot]
        rfl
      · have hplain : ∀ component ∈ first :: rest, '/' ∉ component.chars :=
          fun _ => (WellFormed.start hfirst hrest).not_mem_chars
        have hsegments := segments_ofComponents hroot (by simp) hplain
        have hinner : (rest.map Component.chars).filterMap Component.ofSegment? = rest := by
          rw [List.filterMap_map]
          have hread : ∀ component ∈ rest,
              (Component.ofSegment? ∘ Component.chars) component = some component :=
            fun component hmem => (hrest component hmem).ofSegment?_chars
          rw [List.filterMap_congr hread, List.filterMap_some]
        rw [components_eq, hsegments, List.map_cons, componentsOf, hinner]
        rcases hfirst with rfl | rfl | hfirst
        · have habsolute : (ofComponents (.root :: rest)).isAbsolute = true := by
            obtain ⟨second, more, rfl⟩ : ∃ second more, rest = second :: more :=
              List.exists_cons_of_ne_nil fun hnil => hroot (by rw [hnil])
            rw [ofComponents_eq hroot]
            simp [isAbsolute, Component.chars, List.intercalate_cons_cons]
          rw [habsolute]
          rfl
        · rw [not_isAbsolute_of_segments hsegments (by simp [Component.chars])]
          rfl
        · rw [not_isAbsolute_of_segments hsegments hfirst.chars_ne_nil, if_neg (by simp),
            if_neg hfirst.chars_ne_here, hfirst.ofSegment?_chars]
          rfl

/-- A path that is put together ends in a separator only where it is the root. -/
theorem WellFormed.exists_last_char {components : List Component} (h : WellFormed components)
    (hroot : components ≠ [.root]) (hsome : components ≠ []) :
    ∃ front c, (ofComponents components).text.toList = front ++ [c] ∧ c ≠ '/' := by
  obtain ⟨front, last, rfl⟩ : ∃ front last, components = front ++ [last] :=
    ⟨_, _, (List.dropLast_concat_getLast hsome).symm⟩
  obtain ⟨above, habove⟩ := exists_intercalate_append ['/'] (front.map Component.chars)
  obtain ⟨chars, c, hchars⟩ : ∃ chars c, last.chars = chars ++ [c] :=
    ⟨_, _, (List.dropLast_concat_getLast (h.chars_ne_nil hroot)).symm⟩
  refine ⟨above ++ chars, c, ?_, ?_⟩
  · rw [ofComponents_eq hroot, String.toList_ofList, List.map_append, List.map_singleton, habove,
      hchars, List.append_assoc]
  · rintro rfl
    have hlast : last ∈ front ++ [last] := by simp
    exact h.not_mem_chars hlast (by simp [hchars])

theorem intercalate_concat (separator last : List Char) {pieces : List (List Char)}
    (h : pieces ≠ []) : separator.intercalate (pieces ++ [last]) =
      separator.intercalate pieces ++ (separator ++ last) := by
  induction pieces with
  | nil => exact absurd rfl h
  | cons first rest ih =>
      by_cases hrest : rest = []
      · simp [hrest, List.intercalate_cons_cons]
      · rw [List.cons_append, List.intercalate_cons_of_ne_nil (by simp), ih hrest,
          List.intercalate_cons_of_ne_nil hrest]
        simp

/-- One name more is a name put behind the path. -/
theorem ofComponents_concat {components : List Component} (h : WellFormed components)
    {name : List Char} (hplain : '/' ∉ name) :
    ofComponents (components ++ [.name name]) = ofComponents components / String.ofList name := by
  have hrelative : (String.ofList name).toList.head? ≠ some '/' := by
    rw [String.toList_ofList]
    exact fun hhead => hplain (List.mem_of_head? hhead)
  change _ = (ofComponents components).join (String.ofList name)
  rw [join, if_neg hrelative, ofComponents_eq (concat_name_ne_root components name)]
  by_cases hroot : components = [.root]
  · subst hroot
    simp [ofComponents, Component.chars, List.intercalate_cons_cons]
  · by_cases hsome : components = []
    · subst hsome
      simp [ofComponents, Component.chars]
    · obtain ⟨front, c, htext, hc⟩ := h.exists_last_char hroot hsome
      rw [htext, List.getLast?_concat, List.map_append, List.map_singleton, Component.chars,
        intercalate_concat ['/'] name (by simpa using hsome)]
      split
      next hnone => cases hnone
      next hslash => exact absurd (Option.some.inj hslash) hc
      next =>
        rw [ofComponents_eq hroot]
        simp [String.append_assoc]

/-- A name without an extension is left whole. One with an extension is what stands in front of its
last point, the point, and the extension behind it. -/
theorem cutAtPoint_cases (name : List Char) :
    cutAtPoint name = (name, none) ∨
      ∃ stem suffix, cutAtPoint name = (stem, some suffix) ∧ name = stem ++ '.' :: suffix := by
  have hsplit := List.takeWhile_append_dropWhile (p := (· ≠ '.')) (l := name.reverse)
  have hpoint := List.head?_dropWhile_not (· ≠ '.') name.reverse
  unfold cutAtPoint
  dsimp only
  split
  next => exact .inl rfl
  next => exact .inl rfl
  next point stem _ hrest =>
    rw [hrest] at hsplit hpoint
    obtain rfl : point = '.' := by simpa using hpoint
    exact .inr ⟨_, _, rfl, by simpa using (congrArg List.reverse hsplit).symm⟩

/-- What stands in front of the last point. -/
def stemOf (name : List Char) : List Char :=
  (cutAtPoint name).1

theorem not_mem_stemOf {c : Char} {name : List Char} (h : c ∉ name) : c ∉ stemOf name := by
  rw [stemOf]
  rcases cutAtPoint_cases name with hwhole | ⟨stem, suffix, hcut, rfl⟩
  · rwa [hwhole]
  · rw [hcut]
    exact fun hmem => h (List.mem_append_left _ hmem)

/-- Exactly a name without an extension is its own stem. -/
theorem stemOf_eq_self_iff (name : List Char) : stemOf name = name ↔ (cutAtPoint name).2 = none := by
  rw [stemOf]
  rcases cutAtPoint_cases name with hwhole | ⟨stem, suffix, hcut, hname⟩
  · simp [hwhole]
  · rw [hcut]
    constructor
    · intro hself
      have hlength := congrArg List.length hname
      simp [show stem = name from hself] at hlength
    · intro hnone
      cases hnone

section Renamed

variable {path : Path} {name : List Char} (h : path.fileName? = some name)
include h

theorem components_eq_of_fileName? :
    path.components = path.components.dropLast ++ [.name name] := by
  unfold fileName? at h
  split at h
  next text hlast =>
    cases h
    exact (List.dropLast_append_getLast? _ hlast).symm
  next => cases h

theorem not_mem_of_fileName? : '/' ∉ name := by
  have hmem : Component.name name ∈ path.components := by
    rw [components_eq_of_fileName? h]
    simp
  exact (wellFormed_components path).not_mem_chars hmem

/-- Another extension gives the directory of the file another name to lead to. -/
theorem exists_parent_div : ∃ parent, path.parent? = some parent ∧
    ∀ extension : String, '/' ∉ extension.toList → path.withExtension extension =
      parent / (String.ofList (stemOf name) ++ ("." ++ extension)) := by
  have hcomponents := components_eq_of_fileName? h
  have hwell := (wellFormed_components path).dropLast
  refine ⟨ofComponents path.components.dropLast, ?_, fun extension hplain => ?_⟩
  · rw [parent?, hcomponents, List.getLast?_concat, List.dropLast_concat]
  · have hstem : '/' ∉ stemOf name := not_mem_stemOf (not_mem_of_fileName? h)
    have hrenamed : '/' ∉ stemOf name ++ '.' :: extension.toList := by simp [hstem, hplain]
    have htext : String.ofList (stemOf name ++ '.' :: extension.toList) =
        String.ofList (stemOf name) ++ ("." ++ extension) := by
      rw [← String.toList_inj]
      simp
    rw [withExtension, h, ← htext]
    exact ofComponents_concat hwell hrenamed

end Renamed

/-- A path from the parent of a file upwards is some of the components in front of the name. -/
theorem exists_take_of_mem_upwards {path parent above : Path} (hparent : path.parent? = some parent)
    (h : above ∈ parent.upwards) :
    ∃ count < path.components.length, above = ofComponents (path.components.take count) := by
  have hbelow : parent = ofComponents path.components.dropLast ∧ path.components ≠ [] := by
    unfold parent? at hparent
    split at hparent
    next => cases hparent
    next => cases hparent
    next hlast =>
      cases hparent
      refine ⟨rfl, fun hnone => ?_⟩
      simp [hnone] at hlast
  obtain ⟨rfl, hsome⟩ := hbelow
  have hlength := List.length_pos_iff.mpr hsome
  have hcomponents := components_ofComponents (wellFormed_components path).dropLast
  unfold upwards at h
  rw [hcomponents] at h
  split at h
  next => cases h
  next n hn =>
    rw [List.length_dropLast] at hn
    rcases List.mem_cons.mp h with rfl | h
    · exact ⟨path.components.length - 1, by omega, by rw [List.dropLast_eq_take]⟩
    · obtain ⟨count, hcount, rfl⟩ := List.mem_map.mp h
      have hbounds : count < n + 1 := by
        have := List.mem_range'_1.mp (List.mem_reverse.mp hcount)
        omega
      refine ⟨count, by omega, ?_⟩
      rw [List.dropLast_eq_take, List.take_take, Nat.min_eq_left (by omega)]

end DramSweep.Path
