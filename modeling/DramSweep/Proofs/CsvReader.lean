import Mathlib.Data.List.Basic
import DramSweep.Csv

/-!
Comma-separated records read back. A field stands plain or in quotes; in quotes a quote is written
twice and separators and line breaks are text. Records end in a line feed, with or without a
carriage return in front of it, and the last one may lack its line break. The reader goes over the
text once, character by character. Main statement: what is written is read back as it was.
-/

namespace DramSweep.Csv

/-- Where a reader stands. -/
inductive Place where
  /-- In front of a field. -/
  | start
  /-- In a field without quotes. -/
  | plain
  /-- Inside quotes. -/
  | quoted
  /-- Behind a quote inside quotes: they end here unless a second one follows. -/
  | quote
  /-- Behind a carriage return, which a line feed must follow. -/
  | carriage
  deriving Repr, DecidableEq

/-- The records that are complete, the fields of the one after them that are complete, and what is
read of the field after those. -/
structure Reader where
  records : List (List String) := []
  fields : List String := []
  field : List Char := []
  place : Place := .start
  deriving Repr, DecidableEq

namespace Reader

def add (reader : Reader) (c : Char) (place : Place) : Reader :=
  { reader with field := reader.field ++ [c], place }

def endField (reader : Reader) : Reader where
  records := reader.records
  fields := reader.fields ++ [String.ofList reader.field]

def endRecord (reader : Reader) : Reader where
  records := reader.records ++ [reader.fields ++ [String.ofList reader.field]]

/-- What may follow a field: a comma or a line break. -/
def separate? (reader : Reader) (c : Char) : Option Reader :=
  if c = ',' then some reader.endField
  else if c = '\n' then some reader.endRecord
  else if c = '\r' then some { reader with place := .carriage }
  else none

/-- One character. A quote may stand in front of a field or inside quotes alone, and nothing but a
separator may follow closing quotes. -/
def step (reader : Reader) (c : Char) : Option Reader :=
  match reader.place with
  | .start =>
    if c = '"' then some { reader with place := .quoted }
    else (reader.separate? c).or (some (reader.add c .plain))
  | .plain => if c = '"' then none else (reader.separate? c).or (some (reader.add c .plain))
  | .quoted => some (if c = '"' then { reader with place := .quote } else reader.add c .quoted)
  | .quote => if c = '"' then some (reader.add c .quoted) else reader.separate? c
  | .carriage => if c = '\n' then some reader.endRecord else none

/-- The records at the end of the text. What follows the last line break is a record unless there
is nothing. -/
def finish (reader : Reader) : Option (List (List String)) :=
  match reader.place with
  | .quoted | .carriage => none
  | .start => if reader.fields = [] then some reader.records else some reader.endRecord.records
  | .plain | .quote => some reader.endRecord.records

end Reader

/-- The records of a text, or nothing where it breaks the rules. -/
def read (text : String) : Option (List (List String)) :=
  (text.toList.foldlM Reader.step {}).bind Reader.finish

namespace Reader

variable (records : List (List String)) (fields : List String)

/-- Characters that force no quotes are read as they stand. -/
theorem foldlM_step_plain {chars : List Char} (hplain : chars.any isSpecial = false)
    (before : List Char) {place : Place} (hplace : place = .start ∨ place = .plain) :
    ∃ after, (after = .start ∨ after = .plain) ∧
      chars.foldlM step ⟨records, fields, before, place⟩ =
        some ⟨records, fields, before ++ chars, after⟩ := by
  induction chars generalizing before place with
  | nil => exact ⟨place, hplace, by simp⟩
  | cons c rest ih =>
      obtain ⟨hc, hrest⟩ : isSpecial c = false ∧ rest.any isSpecial = false := by
        simpa using hplain
      have hordinary : c ≠ ',' ∧ c ≠ '"' ∧ c ≠ '\n' ∧ c ≠ '\r' := by
        simpa [isSpecial, and_assoc] using hc
      have hstep : step ⟨records, fields, before, place⟩ c =
          some ⟨records, fields, before ++ [c], .plain⟩ := by
        rcases hplace with rfl | rfl <;> simp [step, separate?, add, hordinary]
      obtain ⟨after, hafter, hread⟩ := ih hrest (before ++ [c]) (Or.inr rfl)
      refine ⟨after, hafter, ?_⟩
      rw [List.foldlM_cons, hstep]
      simpa using hread

/-- Inside quotes a quote stands for itself when it is doubled, and so does all else. -/
theorem foldlM_step_doubleQuotes (before chars : List Char) :
    (doubleQuotes chars).foldlM step ⟨records, fields, before, .quoted⟩ =
      some ⟨records, fields, before ++ chars, .quoted⟩ := by
  induction chars generalizing before with
  | nil => simp [doubleQuotes]
  | cons c rest ih =>
      have hcons : doubleQuotes (c :: rest) =
          (if c = '"' then ['"', '"'] else [c]) ++ doubleQuotes rest := by
        simp [doubleQuotes]
      have hfirst : (if c = '"' then ['"', '"'] else [c]).foldlM step
          ⟨records, fields, before, .quoted⟩ = some ⟨records, fields, before ++ [c], .quoted⟩ := by
        by_cases hc : c = '"' <;> simp [step, add, hc]
      rw [hcons, List.foldlM_append, hfirst]
      simpa using ih (before ++ [c])

/-- A field is read up to its end, whether it is quoted or not. -/
theorem foldlM_step_quoted (chars : List Char) :
    (quoted chars).foldlM step ⟨records, fields, [], .start⟩ =
      some ⟨records, fields, chars, .quote⟩ := by
  have hopen : step ⟨records, fields, [], .start⟩ '"' = some ⟨records, fields, [], .quoted⟩ := rfl
  unfold quoted
  rw [List.cons_append, List.foldlM_cons, hopen]
  simp [foldlM_step_doubleQuotes, step]

/-- A comma or a line feed behind a field ends it, also where the field is empty or quoted. -/
theorem step_separator (chars : List Char) {place : Place}
    (hplace : place ≠ .quoted ∧ place ≠ .carriage) {c : Char} (hc : c = ',' ∨ c = '\n') :
    step ⟨records, fields, chars, place⟩ c = separate? ⟨records, fields, chars, .start⟩ c := by
  cases place with
  | quoted => exact absurd rfl hplace.1
  | carriage => exact absurd rfl hplace.2
  | start => rcases hc with rfl | rfl <;> rfl
  | plain => rcases hc with rfl | rfl <;> rfl
  | quote => rcases hc with rfl | rfl <;> rfl

theorem foldlM_step_fieldChars (chars : List Char) {c : Char} (hc : c = ',' ∨ c = '\n') :
    (fieldChars chars ++ [c]).foldlM step ⟨records, fields, [], .start⟩ =
      separate? ⟨records, fields, chars, .start⟩ c := by
  have hfield : ∃ place, (place ≠ .quoted ∧ place ≠ .carriage) ∧
      (fieldChars chars).foldlM step ⟨records, fields, [], .start⟩ =
        some ⟨records, fields, chars, place⟩ := by
    unfold fieldChars
    by_cases hspecial : chars.any isSpecial
    · rw [if_pos hspecial]
      exact ⟨.quote, by simp, foldlM_step_quoted records fields chars⟩
    · rw [if_neg hspecial]
      obtain ⟨after, hafter, hread⟩ := foldlM_step_plain records fields
        (Bool.eq_false_iff.mpr hspecial) [] (Or.inl rfl)
      refine ⟨after, ?_, hread⟩
      rcases hafter with rfl | rfl <;> simp
  obtain ⟨place, hplace, hread⟩ := hfield
  rw [List.foldlM_append, hread]
  simpa using step_separator records fields chars hplace hc

/-- The fields of a record are read in order, and its line feed completes it. -/
theorem foldlM_step_intercalate (first : List Char) (rest : List (List Char)) :
    ([','].intercalate ((first :: rest).map fieldChars) ++ ['\n']).foldlM step
        ⟨records, fields, [], .start⟩ =
      some ⟨records ++ [fields ++ (first :: rest).map String.ofList], [], [], .start⟩ := by
  induction rest generalizing first fields with
  | nil =>
      have hlast := foldlM_step_fieldChars records fields first (Or.inr rfl)
      simpa [List.intercalate, separate?, endRecord] using hlast
  | cons second rest ih =>
      have hfirst := foldlM_step_fieldChars records fields first (Or.inl rfl)
      have hcons : [','].intercalate ((first :: second :: rest).map fieldChars) =
          fieldChars first ++ [','] ++ [','].intercalate ((second :: rest).map fieldChars) := by
        simp [List.intercalate]
      rw [hcons, List.append_assoc, List.foldlM_append, hfirst]
      simpa [separate?, endField] using ih (fields ++ [String.ofList first]) second

/-- A written record is read as one record. -/
theorem foldlM_step_record {written : List String} (hwritten : written ≠ []) :
    (record written).toList.foldlM step ⟨records, [], [], .start⟩ =
      some ⟨records ++ [written], [], [], .start⟩ := by
  obtain ⟨first, rest, rfl⟩ := List.exists_cons_of_ne_nil hwritten
  unfold record
  rw [String.toList_ofList]
  by_cases hempty : first = "" ∧ rest = []
  · -- The one empty field stands in quotes, which tells its record from an empty text.
    obtain ⟨rfl, rfl⟩ := hempty
    have hquoted := foldlM_step_quoted records [] []
    have hplace : Place.quote ≠ .quoted ∧ Place.quote ≠ .carriage := by simp
    have hbreak := step_separator records [] [] hplace (Or.inr rfl)
    change (quoted [] ++ ['\n']).foldlM step ⟨records, [], [], .start⟩ = _
    rw [List.foldlM_append, hquoted]
    simpa [separate?, endRecord] using hbreak
  · have hchars : recordChars ((first :: rest).map String.toList) =
        [','].intercalate (((first :: rest).map String.toList).map fieldChars) ++ ['\n'] := by
      unfold recordChars
      split
      next hsingle => simp_all
      next => rfl
    rw [hchars]
    simpa [Function.comp_def] using
      foldlM_step_intercalate records [] first.toList (rest.map String.toList)

/-- Written records are read as these records, behind those that were read before. -/
theorem foldlM_step_records {written : List (List String)}
    (hwritten : ∀ fields ∈ written, fields ≠ []) :
    (Csv.records written).toList.foldlM step ⟨records, [], [], .start⟩ =
      some ⟨records ++ written, [], [], .start⟩ := by
  induction written generalizing records with
  | nil => simp [Csv.records]
  | cons first rest ih =>
      obtain ⟨hfirst, hrest⟩ := List.forall_mem_cons.mp hwritten
      have hrecord := foldlM_step_record records hfirst
      unfold Csv.records
      rw [String.toList_append, List.foldlM_append, hrecord]
      simpa using ih (records ++ [first]) hrest

end Reader

/-- What is written is read back as it was, whatever its fields hold. -/
theorem read_records {written : List (List String)} (hwritten : ∀ fields ∈ written, fields ≠ []) :
    read (records written) = some written := by
  unfold read
  have hread := Reader.foldlM_step_records [] hwritten
  rw [hread]
  rfl

/-- A line break, a comma and a quote are read as text inside quotes. -/
example : read "\"a\n,\"\"\",b\r\n\"\"\n" = some [["a\n,\"", "b"], [""]] := by decide

/-- Texts behind each other are the text of all their records. -/
theorem join_map_records {α : Type} (written : α → List (List String)) (texts : List α) :
    String.join (texts.map fun text => records (written text)) =
      records (texts.flatMap written) := by
  induction texts with
  | nil => rfl
  | cons first rest ih =>
      rw [List.map_cons, String.join_cons, ih, List.flatMap_cons, records_append]

end DramSweep.Csv
