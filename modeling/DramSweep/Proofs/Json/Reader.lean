import DramSweep.Proofs.Json.Numerals

/-!
JSON texts read back. The reader goes over a text once, character by character, and keeps what is
open around the place where it stands. Main statement: what is printed is read back as it was, as
long as its doubles are.
-/

namespace DramSweep.Json

/-- What a value that is read stands in: an array behind some items, or an object behind some
members and a name. -/
inductive Frame where
  | array (items : List Json)
  | object (members : List (String × Json)) (name : String)

/-- What a string is read for. -/
inductive Role where
  | name (members : List (String × Json))
  | value

/-- How far an escape inside a string is read. A character beyond the sixteen-bit ones comes in two
halves, of which the first one is kept. -/
inductive Escape where
  | none
  | mark
  /-- In front of the last `missing` digits of a code. -/
  | code (high? : Option Nat) (missing : Nat) (value : Nat)
  | half (high : Nat)
  | halfMark (high : Nat)
  deriving Repr, DecidableEq

/-- Where the reader stands. -/
inductive Place where
  /-- In front of a value, or of the end of an array without items. -/
  | value
  /-- In front of a name, or of the end of an object without members. -/
  | name (members : List (String × Json))
  | quoted (role : Role) (chars : List Char) (escape : Escape)
  /-- Behind a name. -/
  | colon (members : List (String × Json)) (name : String)
  /-- In a number or a bare word. -/
  | word (chars : List Char)
  /-- Behind a value. -/
  | behind (value : Json)

def isBlank (c : Char) : Bool :=
  c = ' ' || c = '\n' || c = '\r' || c = '\t'

def hexValue? (c : Char) : Option Nat :=
  if c.isDigit then some (c.toNat - '0'.toNat)
  else if 'a' ≤ c ∧ c ≤ 'f' then some (c.toNat - 'a'.toNat + 10)
  else if 'A' ≤ c ∧ c ≤ 'F' then some (c.toNat - 'A'.toNat + 10)
  else none

/-- What a single character behind a backslash stands for. -/
def escaped? (c : Char) : Option Char :=
  if c = '"' ∨ c = '\\' ∨ c = '/' then some c
  else if c = 'b' then some '\x08'
  else if c = 'f' then some '\x0c'
  else if c = 'n' then some '\n'
  else if c = 'r' then some '\r'
  else if c = 't' then some '\t'
  else none

/-- What a complete code gives: a character, or the first half of one. A second half must follow a
first one and nothing else. -/
def unitStep? (high? : Option Nat) (unit : Nat) (chars : List Char) :
    Option (List Char × Escape) :=
  let isLow : Bool := 0xDC00 ≤ unit && unit < 0xE000
  match high? with
  | some high =>
    if isLow then
      some (chars ++ [Char.ofNat (0x10000 + (high - 0xD800) * 0x400 + (unit - 0xDC00))], .none)
    else none
  | none =>
    if isLow then none
    else if 0xD800 ≤ unit ∧ unit < 0xDC00 then some (chars, .half unit)
    else some (chars ++ [Char.ofNat unit], .none)

/-- One character inside a string, unless it is the quote that ends it. -/
def escapeStep? (chars : List Char) (c : Char) : Escape → Option (List Char × Escape)
  | .none =>
    if c = '\\' then some (chars, .mark)
    else if c.toNat < 0x20 then none
    else some (chars ++ [c], .none)
  | .mark =>
    if c = 'u' then some (chars, .code none 4 0)
    else (escaped? c).map fun c => (chars ++ [c], .none)
  | .code high? missing value =>
    (hexValue? c).bind fun digit =>
      if missing ≤ 1 then unitStep? high? (16 * value + digit) chars
      else some (chars, .code high? (missing - 1) (16 * value + digit))
  | .half high => if c = '\\' then some (chars, .halfMark high) else none
  | .halfMark high => if c = 'u' then some (chars, .code (some high) 4 0) else none

/-- A string at its end. -/
def Role.finish (chars : List Char) : Role → Place
  | .name members => .colon members (String.ofList chars)
  | .value => .behind (.text (String.ofList chars))

structure Reader where
  /-- What is open, the innermost first. -/
  frames : List Frame
  place : Place

namespace Reader

/-- What may follow a value: a blank, or what ends it in its array or object. -/
def behind? (frames : List Frame) (value : Json) (c : Char) : Option Reader :=
  if isBlank c then some ⟨frames, .behind value⟩
  else match frames with
    | [] => none
    | .array items :: outer =>
      if c = ',' then some ⟨.array (items ++ [value]) :: outer, .value⟩
      else if c = ']' then some ⟨outer, .behind (.array (items ++ [value]))⟩
      else none
    | .object members name :: outer =>
      if c = ',' then some ⟨outer, .name (members ++ [(name, value)])⟩
      else if c = '\x7d' then some ⟨outer, .behind (.object (members ++ [(name, value)]))⟩
      else none

/-- One character. -/
def step (reader : Reader) (c : Char) : Option Reader :=
  let frames := reader.frames
  match reader.place with
  | .value =>
    if isBlank c then some reader
    else if isWordChar c then some ⟨frames, .word [c]⟩
    else if c = '"' then some ⟨frames, .quoted .value [] .none⟩
    else if c = '[' then some ⟨.array [] :: frames, .value⟩
    else if c = '\x7b' then some ⟨frames, .name []⟩
    else match c, frames with
      | ']', .array [] :: outer => some ⟨outer, .behind (.array [])⟩
      | _, _ => none
  | .name members =>
    if isBlank c then some reader
    else if c = '"' then some ⟨frames, .quoted (.name members) [] .none⟩
    else match c, members with
      | '\x7d', [] => some ⟨frames, .behind (.object [])⟩
      | _, _ => none
  | .quoted role chars escape =>
    if c = '"' ∧ escape = .none then some ⟨frames, role.finish chars⟩
    else (escapeStep? chars c escape).map fun (chars, escape) =>
      ⟨frames, .quoted role chars escape⟩
  | .colon members name =>
    if isBlank c then some reader
    else if c = ':' then some ⟨.object members name :: frames, .value⟩
    else none
  | .word chars =>
    if isWordChar c then some ⟨frames, .word (chars ++ [c])⟩
    else (wordValue? chars).bind fun value => behind? frames value c
  | .behind value => behind? frames value c

/-- The value at the end of a text. Nothing may be open there. -/
def finish (reader : Reader) : Option Json :=
  match reader.frames, reader.place with
  | [], .word chars => wordValue? chars
  | [], .behind value => some value
  | _, _ => none

end Reader

/-- The value of a text, or nothing where it breaks the rules. -/
def read (text : String) : Option Json :=
  (text.toList.foldlM Reader.step ⟨[], .value⟩).bind Reader.finish

namespace Reader

variable (frames : List Frame)

section Strings

variable (role : Role) (before : List Char)

/-- A code of four digits for a character below the space. -/
theorem foldlM_step_fourHex {n : Nat} (hn : n < 0x20) :
    (fourHex n).foldlM step ⟨frames, .quoted role before (.code none 4 0)⟩ =
      some ⟨frames, .quoted role (before ++ [Char.ofNat n]) .none⟩ := by
  have hvalues : ∀ n < 0x20, (fourHex n).map hexValue? =
      [some 0, some 0, some (n / 16), some (n % 16)] := by
    decide
  have hn' := hvalues n hn
  obtain ⟨a, b, c, d, hdigits⟩ : ∃ a b c d, fourHex n = [a, b, c, d] := by
    have hlength : (fourHex n).length = 4 := by simpa using congrArg List.length hn'
    exact List.length_eq_four.mp hlength
  rw [hdigits] at hn' ⊢
  simp only [List.map_cons, List.map_nil, List.cons.injEq, and_true] at hn'
  obtain ⟨ha, hb, hc, hd⟩ := hn'
  have hvalue : 16 * (n / 16) + n % 16 = n := by omega
  have hsmall : ¬(0xDC00 ≤ n) ∧ ¬(0xD800 ≤ n) := by omega
  simp [step, escapeStep?, ha, hb, hc, hd, unitStep?, hvalue, hsmall]

/-- An escape inside a string is read as the character that it stands for. -/
theorem foldlM_step_escapeChar (c : Char) :
    (escapeChar c).foldlM step ⟨frames, .quoted role before .none⟩ =
      some ⟨frames, .quoted role (before ++ [c]) .none⟩ := by
  unfold escapeChar
  split_ifs with hquote hslash hb hf hn hr ht hsmall
  · subst hquote; rfl
  · subst hslash; rfl
  · subst hb; rfl
  · subst hf; rfl
  · subst hn; rfl
  · subst hr; rfl
  · subst ht; rfl
  · have hmark : ['\\', 'u'].foldlM step ⟨frames, .quoted role before .none⟩ =
        some ⟨frames, .quoted role before (.code none 4 0)⟩ := rfl
    rw [List.foldlM_append, hmark, Option.bind_eq_bind, Option.bind_some,
      foldlM_step_fourHex frames role before hsmall, Char.ofNat_toNat]
  · simp [step, escapeStep?, hquote, hslash, hsmall]

theorem foldlM_step_flatMap_escapeChar (chars : List Char) :
    (chars.flatMap escapeChar).foldlM step ⟨frames, .quoted role before .none⟩ =
      some ⟨frames, .quoted role (before ++ chars) .none⟩ := by
  induction chars generalizing before with
  | nil => simp
  | cons c rest ih =>
      rw [List.flatMap_cons, List.foldlM_append, foldlM_step_escapeChar, Option.bind_eq_bind,
        Option.bind_some, ih]
      simp

end Strings

/-- A string in front of which a name or a value must come is read as that. -/
theorem foldlM_step_stringChars {place : Place} {role : Role}
    (hplace : step ⟨frames, place⟩ '"' = some ⟨frames, .quoted role [] .none⟩) (s : String) :
    (stringChars s).foldlM step ⟨frames, place⟩ = some ⟨frames, role.finish s.toList⟩ := by
  unfold stringChars
  rw [List.cons_append, List.foldlM_cons, hplace, Option.bind_eq_bind, Option.bind_some,
    List.foldlM_append, foldlM_step_flatMap_escapeChar]
  simp [step]

/-- Blanks are passed over wherever the reader stays for them. -/
theorem foldlM_step_blanks {reader : Reader}
    (hreader : ∀ c, isBlank c = true → step reader c = some reader)
    {blanks : List Char} (hblanks : ∀ c ∈ blanks, isBlank c = true) :
    blanks.foldlM step reader = some reader := by
  induction blanks with
  | nil => rfl
  | cons c rest ih =>
      obtain ⟨hc, hrest⟩ := List.forall_mem_cons.mp hblanks
      rw [List.foldlM_cons, hreader c hc]
      exact ih hrest

theorem isBlank_line (level : Nat) : ∀ c ∈ '\n' :: indent level, isBlank c = true := by
  intro c hc
  rcases List.mem_cons.mp hc with rfl | hc
  · rfl
  · rw [List.eq_of_mem_replicate hc]
    rfl

/-- A word is read up to its end. -/
theorem foldlM_step_word {word : List Char} (hne : word ≠ [])
    (hword : ∀ c ∈ word, isWordChar c = true) :
    word.foldlM step ⟨frames, .value⟩ = some ⟨frames, .word word⟩ := by
  have hmore : ∀ (more before : List Char), (∀ c ∈ more, isWordChar c = true) →
      more.foldlM step ⟨frames, .word before⟩ = some ⟨frames, .word (before ++ more)⟩ := by
    intro more
    induction more with
    | nil => simp
    | cons c rest ih =>
        intro before hmore
        obtain ⟨hc, hrest⟩ := List.forall_mem_cons.mp hmore
        have hstep : step ⟨frames, .word before⟩ c = some ⟨frames, .word (before ++ [c])⟩ := by
          simp [step, hc]
        rw [List.foldlM_cons, hstep]
        simpa using ih (before ++ [c]) hrest
  obtain ⟨first, rest, rfl⟩ := List.exists_cons_of_ne_nil hne
  obtain ⟨hfirst, hrest⟩ := List.forall_mem_cons.mp hword
  have hblank : isBlank first = false := by
    cases hblank : isBlank first with
    | false => rfl
    | true =>
        simp only [isBlank, Bool.or_eq_true, decide_eq_true_eq] at hblank
        rcases hblank with ((rfl | rfl) | rfl) | rfl <;> exact absurd hfirst (by decide)
  have hstep : step ⟨frames, .value⟩ first = some ⟨frames, .word [first]⟩ := by
    simp [step, hblank, hfirst]
  rw [List.foldlM_cons, hstep]
  exact hmore rest [first] hrest

/-- A value is read, up to the character that shows its end. -/
def HasRead (value : Json) (place : Place) : Prop :=
  place = .behind value ∨ ∃ word, place = .word word ∧ wordValue? word = some value

variable {frames}

theorem HasRead.step_eq {value : Json} {place : Place} (h : HasRead value place) {c : Char}
    (hc : isWordChar c = false) : step ⟨frames, place⟩ c = behind? frames value c := by
  rcases h with rfl | ⟨word, rfl, hword⟩
  · rfl
  · simp [step, hc, hword]

theorem HasRead.finish_eq {value : Json} {place : Place} (h : HasRead value place) :
    finish ⟨[], place⟩ = some value := by
  rcases h with rfl | ⟨word, rfl, hword⟩
  · rfl
  · exact hword

/-- What comes behind the last item: a line break, blanks and the closing bracket. -/
theorem HasRead.foldlM_step_closing {value : Json} {place : Place} (h : HasRead value place)
    {closing : Char} {after : Reader} (hclosing : behind? frames value closing = some after)
    (level : Nat) :
    ('\n' :: indent level ++ [closing]).foldlM step ⟨frames, place⟩ = some after := by
  have hbreak : step ⟨frames, place⟩ '\n' = some ⟨frames, .behind value⟩ := h.step_eq rfl
  have hblanks : ∀ c, isBlank c = true →
      step ⟨frames, .behind value⟩ c = some ⟨frames, .behind value⟩ := by
    intro c hc
    simp [step, behind?, hc]
  have hindent := foldlM_step_blanks hblanks
    (fun c hc => isBlank_line level c (List.mem_cons_of_mem _ hc))
  rw [List.cons_append, List.foldlM_cons, hbreak, Option.bind_eq_bind, Option.bind_some,
    List.foldlM_append, hindent]
  simpa [step] using hclosing

/-- Items on lines of their own are read in order. It takes that each of them is read, and that the
comma and the closing bracket are taken behind it. -/
theorem foldlM_step_intercalate {α : Type} (text : α → List Char) (before after : List α → Reader)
    (level : Nat) (closing : Char)
    (hblanks : ∀ read c, isBlank c = true → step (before read) c = some (before read))
    (items : List α)
    (hitems : ∀ item ∈ items, ∀ read, ∃ reader,
      (text item).foldlM step (before read) = some reader ∧
      step reader ',' = some (before (read ++ [item])) ∧
      ('\n' :: indent level ++ [closing]).foldlM step reader = some (after (read ++ [item])))
    (hne : items ≠ []) (read : List α) :
    ([','].intercalate (items.map fun item => '\n' :: indent (level + 1) ++ text item) ++
        '\n' :: indent level ++ [closing]).foldlM step (before read) =
      some (after (read ++ items)) := by
  have hline : ∀ item read, ('\n' :: indent (level + 1) ++ text item).foldlM step (before read) =
      (text item).foldlM step (before read) := by
    intro item read
    rw [List.foldlM_append, foldlM_step_blanks (hblanks read) (isBlank_line (level + 1))]
    rfl
  induction items generalizing read with
  | nil => exact absurd rfl hne
  | cons item rest ih =>
      obtain ⟨hitem, hrest⟩ := List.forall_mem_cons.mp hitems
      obtain ⟨reader, hread, hcomma, hclosing⟩ := hitem read
      cases rest with
      | nil =>
          rw [List.map_cons, List.map_nil, List.intercalate_singleton, List.append_assoc,
            List.foldlM_append, hline, hread]
          exact hclosing
      | cons second rest =>
          have hmore := ih hrest (by simp) (read ++ [item])
          rw [List.map_cons, List.map_cons, List.intercalate_cons_cons, ← List.map_cons
            (f := fun item => '\n' :: indent (level + 1) ++ text item),
            List.append_assoc, List.append_assoc, List.append_assoc, List.foldlM_append, hline,
            hread, Option.bind_eq_bind, Option.bind_some, List.singleton_append, List.foldlM_cons,
            hcomma, Option.bind_eq_bind, Option.bind_some, ← List.append_assoc, hmore]
          simp

end Reader

mutual

/-- The doubles in a value, in order. -/
def doubles : Json → List Float
  | .double x => [x]
  | .array items => itemDoubles items
  | .object members => memberDoubles members
  | .null | .natural _ | .text _ => []

def itemDoubles : List Json → List Float
  | [] => []
  | item :: rest => doubles item ++ itemDoubles rest

def memberDoubles : List (String × Json) → List Float
  | [] => []
  | (_, value) :: rest => doubles value ++ memberDoubles rest

end

theorem itemDoubles_eq (items : List Json) : itemDoubles items = items.flatMap doubles := by
  induction items with
  | nil => rfl
  | cons item rest ih => rw [itemDoubles, ih, List.flatMap_cons]

theorem memberDoubles_eq (members : List (String × Json)) :
    memberDoubles members = members.flatMap fun member => member.2.doubles := by
  induction members with
  | nil => rfl
  | cons member rest ih => rw [memberDoubles, ih, List.flatMap_cons]

theorem itemChars_eq (level : Nat) (items : List Json) :
    itemChars level items = items.map (chars level) := by
  induction items with
  | nil => rfl
  | cons item rest ih => rw [itemChars, ih, List.map_cons]

theorem memberChars_eq (level : Nat) (members : List (String × Json)) :
    memberChars level members = members.map fun (name, value) =>
      stringChars name ++ ':' :: ' ' :: chars level value := by
  induction members with
  | nil => rfl
  | cons member rest ih => rw [memberChars, ih, List.map_cons]

/-- What holds of an array or an object as soon as it holds of its parts holds of all values. -/
@[elab_as_elim]
theorem induct {motive : Json → Prop} (null : motive .null) (natural : ∀ n, motive (.natural n))
    (double : ∀ x, motive (.double x)) (text : ∀ s, motive (.text s))
    (array : ∀ items, (∀ item ∈ items, motive item) → motive (.array items))
    (object : ∀ members, (∀ member ∈ members, motive member.2) → motive (.object members))
    (value : Json) : motive value :=
  @Json.rec motive (fun items => ∀ item ∈ items, motive item)
    (fun members => ∀ member ∈ members, motive member.2) (fun member => motive member.2)
    null natural double text array object (by simp)
    (fun _ _ hitem hrest => List.forall_mem_cons.mpr ⟨hitem, hrest⟩) (by simp)
    (fun _ _ hmember hrest => List.forall_mem_cons.mpr ⟨hmember, hrest⟩) (fun _ _ hvalue => hvalue)
    value

namespace Reader

/-- A printed value is read up to its end, whatever it stands in and however far it is indented. -/
def Reads (value : Json) : Prop :=
  ∀ level frames, ∃ place, HasRead value place ∧
    (value.chars level).foldlM step ⟨frames, .value⟩ = some ⟨frames, place⟩

theorem reads_of_wordValue? {value : Json} {word : List Char}
    (htext : ∀ level, value.chars level = word) (hvalue : wordValue? word = some value)
    (hne : word ≠ []) (hword : ∀ c ∈ word, isWordChar c = true) : Reads value := by
  intro level frames
  rw [htext]
  exact ⟨.word word, Or.inr ⟨word, rfl, hvalue⟩, foldlM_step_word frames hne hword⟩

theorem reads_text (s : String) : Reads (.text s) := by
  intro level frames
  refine ⟨.behind (.text s), Or.inl rfl, ?_⟩
  have hquote : step ⟨frames, .value⟩ '"' = some ⟨frames, .quoted .value [] .none⟩ := rfl
  simpa [Role.finish, chars] using foldlM_step_stringChars frames hquote s

theorem reads_array {items : List Json} (h : ∀ item ∈ items, Reads item) :
    Reads (.array items) := by
  intro level frames
  refine ⟨.behind (.array items), Or.inl rfl, ?_⟩
  rw [chars, itemChars_eq]
  cases items with
  | nil => rfl
  | cons first rest =>
      have hopen : step ⟨frames, .value⟩ '[' = some ⟨.array [] :: frames, .value⟩ := rfl
      have hitems := foldlM_step_intercalate (chars (level + 1))
        (fun read => ⟨.array read :: frames, .value⟩)
        (fun read => ⟨frames, .behind (.array read)⟩) level ']'
        (fun read c hc => by simp [step, hc]) (first :: rest) ?_ (by simp) []
      · simp only [bracketed, List.map_cons, List.map_map]
        rw [List.cons_append, List.cons_append, List.foldlM_cons, hopen]
        exact hitems
      · intro item hitem read
        obtain ⟨place, hplace, hread⟩ := h item hitem (level + 1) (.array read :: frames)
        exact ⟨_, hread, hplace.step_eq rfl, hplace.foldlM_step_closing rfl level⟩

theorem reads_object {members : List (String × Json)} (h : ∀ member ∈ members, Reads member.2) :
    Reads (.object members) := by
  intro level frames
  refine ⟨.behind (.object members), Or.inl rfl, ?_⟩
  rw [chars, memberChars_eq]
  cases members with
  | nil => rfl
  | cons first rest =>
      have hopen : step ⟨frames, .value⟩ '\x7b' = some ⟨frames, .name []⟩ := rfl
      have hmembers := foldlM_step_intercalate
        (fun member : String × Json =>
          stringChars member.1 ++ ':' :: ' ' :: chars (level + 1) member.2)
        (fun read => ⟨frames, .name read⟩)
        (fun read => ⟨frames, .behind (.object read)⟩) level '\x7d'
        (fun read c hc => by simp [step, hc]) (first :: rest) ?_ (by simp) []
      · simp only [bracketed, List.map_cons, List.map_map]
        rw [List.cons_append, List.cons_append, List.foldlM_cons, hopen]
        exact hmembers
      · rintro ⟨name, value⟩ hmember read
        obtain ⟨place, hplace, hread⟩ :=
          h (name, value) hmember (level + 1) (.object read name :: frames)
        have hquote : step ⟨frames, .name read⟩ '"' =
            some ⟨frames, .quoted (.name read) [] .none⟩ := rfl
        have hname : (stringChars name).foldlM step ⟨frames, .name read⟩ =
            some ⟨frames, .colon read name⟩ := by
          simpa [Role.finish] using foldlM_step_stringChars frames hquote name
        have hcolon : ∀ rest, (':' :: ' ' :: rest).foldlM step ⟨frames, .colon read name⟩ =
            rest.foldlM step ⟨.object read name :: frames, .value⟩ := fun _ => rfl
        refine ⟨⟨.object read name :: frames, place⟩, ?_, hplace.step_eq rfl,
          hplace.foldlM_step_closing rfl level⟩
        rw [List.foldlM_append, hname]
        exact (hcolon _).trans hread

/-- Every value is read whose doubles are finite and are read back from their texts. -/
theorem reads_of_doubles (value : Json) (hfinite : ∀ x ∈ value.doubles, x.isFinite = true)
    (hreads : ∀ x ∈ value.doubles,
      Number.readFloat? (doubleLayout.render x).toList = some x) : Reads value := by
  induction value using induct with
  | null => exact reads_of_wordValue? (fun _ => rfl) rfl (by decide) (List.all_eq_true.mp rfl)
  | natural n =>
      obtain ⟨hne, hword⟩ := isWordChar_of_isNumber (isNumber_toDigits n)
      exact reads_of_wordValue? (fun _ => rfl) (wordValue?_toDigits n) hne hword
  | double x =>
      have hx : x ∈ (double x).doubles := by simp [doubles]
      obtain ⟨hne, hword⟩ := isWordChar_of_isNumber (isNumber_render (hfinite x hx))
      exact reads_of_wordValue? (fun _ => rfl) (wordValue?_render (hfinite x hx) (hreads x hx))
        hne hword
  | text s => exact reads_text s
  | array items ih =>
      have hpart : ∀ item ∈ items, ∀ x ∈ item.doubles, x ∈ (array items).doubles := by
        intro item hitem x hx
        rw [doubles, itemDoubles_eq]
        exact List.mem_flatMap.mpr ⟨item, hitem, hx⟩
      exact reads_array fun item hitem => ih item hitem
        (fun x hx => hfinite x (hpart item hitem x hx))
        (fun x hx => hreads x (hpart item hitem x hx))
  | object members ih =>
      have hpart : ∀ member ∈ members, ∀ x ∈ member.2.doubles, x ∈ (object members).doubles := by
        intro member hmember x hx
        rw [doubles, memberDoubles_eq]
        exact List.mem_flatMap.mpr ⟨member, hmember, hx⟩
      exact reads_object fun member hmember => ih member hmember
        (fun x hx => hfinite x (hpart member hmember x hx))
        (fun x hx => hreads x (hpart member hmember x hx))

end Reader

/-- What is printed is read back as it was. -/
theorem read_pretty {value : Json} (hfinite : ∀ x ∈ value.doubles, x.isFinite = true)
    (hreads : ∀ x ∈ value.doubles,
      Number.readFloat? (doubleLayout.render x).toList = some x) :
    read value.pretty = some value := by
  obtain ⟨place, hplace, hread⟩ := Reader.reads_of_doubles value hfinite hreads 0 []
  rw [read, pretty, String.toList_ofList, hread]
  exact hplace.finish_eq

/-- Blanks and escapes are free, and a character beyond the sixteen-bit ones comes in two halves. -/
example : read "[ \"\\u0041\\ud83d\\ude00\\/\",\x7b\"a\" : null\x7d,10,[] ]" = some (.array
    [.text "A😀/", .object [("a", .null)], .natural 10, .array []]) := by
  rfl

end DramSweep.Json
