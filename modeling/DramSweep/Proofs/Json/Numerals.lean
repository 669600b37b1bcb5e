import Mathlib.Data.List.Basic
import DramSweep.Json.Value
import DramSweep.Number.Reading

/-!
The numbers of a JSON text. A machine goes over a word and knows behind each character whether a
number may end there. Main statements: a natural number and a finite double are written as numbers
by the grammar, and a double is never written in digits alone.
-/

namespace DramSweep

open Number (Layout Shortest)

/-- Only a double whose exponent field is not all ones is finite. -/
theorem Number.exists_classify_of_isFinite {x : Float} (h : x.isFinite = true) :
    ∃ negative significand exponent, classify x = .finite negative significand exponent := by
  have hfield : x.toBits.toNat / Nat.pow 2 storedBits % Nat.pow 2 11 ≠ 2047 := by
    intro hfield
    have hones : @Float.Model.UnpackedFloat.unpackExponent .binary64 x.toBits.toBitVec =
        -1#_ := by
      apply BitVec.eq_of_toNat_eq
      simp only [Float.Model.UnpackedFloat.unpackExponent, BitVec.toNat_cast,
        BitVec.extractLsb_toNat]
      rw [Nat.shiftRight_eq_div_pow]
      exact hfield
    change (Float.Model.UnpackedFloat.unpack .binary64 x.toBits.toBitVec).isFinite = true at h
    unfold Float.Model.UnpackedFloat.unpack at h
    dsimp only at h
    rw [if_pos hones] at h
    split at h <;> cases h
  unfold classify
  simp only [hfield, if_false]
  split <;> exact ⟨_, _, _, rfl⟩

namespace Number.Shortest

/-- Zero is too far from every other double to be read back as one. -/
theorem readsBack_zero {m : Nat} (hm : m ≠ 0) (q e : Int) : readsBack m q 0 e = false := by
  have hnum : 0 < (unit q e).1 := Nat.mul_pos (Nat.pow_pos (by decide)) (Nat.pow_pos (by decide))
  have hlow : ∀ below, below ≤ 2 → 0 < (4 * m - below) * (unit q e).1 := fun below hbelow =>
    Nat.mul_pos (by omega) hnum
  unfold readsBack
  have hone := hlow 1 (by decide)
  have htwo := hlow 2 (by decide)
  simp only [Nat.mul_zero, Nat.zero_mul]
  split <;> split <;> simp <;> omega

theorem onGrid?_ne_zero {tie : Tie} {m : Nat} {q e : Int} {c : Nat} (hm : m ≠ 0)
    (h : onGrid? tie m q e = some c) : c ≠ 0 := by
  rintro rfl
  have hzero := readsBack_zero hm q e
  simp only [onGrid?] at h
  grind

theorem coefficient_strip_ne_zero (fuel : Nat) {c : Nat} (hc : c ≠ 0) (e : Int) :
    (strip fuel c e).coefficient ≠ 0 := by
  induction fuel generalizing c e with
  | zero => exact hc
  | succ fuel ih =>
      unfold strip
      split
      · exact ih (by omega) (e + 1)
      · exact hc

theorem coefficient_ofBinary_ne_zero (tie : Tie) {m : Nat} (hm : m ≠ 0) (q : Int) :
    (ofBinary tie m q).coefficient ≠ 0 := by
  unfold ofBinary
  cases htried : (List.range maxDigits).findSome? fun (n : Nat) =>
      (onGrid? tie m q (leadingPlace m q - n)).map fun c =>
        strip maxDigits c (leadingPlace m q - n) with
  | none => simpa [htried] using hm
  | some shortest =>
      obtain ⟨n, -, hgrid⟩ := List.exists_of_findSome?_eq_some htried
      obtain ⟨c, hc, rfl⟩ := Option.map_eq_some_iff.mp hgrid
      simpa [htried] using coefficient_strip_ne_zero maxDigits (onGrid?_ne_zero hm hc) _

end Number.Shortest

namespace Json

/-- Where a reader of a number stands. -/
inductive NumberPlace where
  | start
  | sign
  /-- Behind a zero in front, which no digit may follow. -/
  | zero
  | whole
  | point
  | fraction
  | mark
  | markSign
  | exponent
  deriving Repr, DecidableEq

namespace NumberPlace

def leading? (c : Char) : Option NumberPlace :=
  if c = '0' then some .zero else if c.isDigit then some .whole else none

def mark? (c : Char) : Option NumberPlace :=
  if c = 'e' ∨ c = 'E' then some .mark else none

def pointOrMark? (c : Char) : Option NumberPlace :=
  if c = '.' then some .point else mark? c

def step (place : NumberPlace) (c : Char) : Option NumberPlace :=
  match place with
  | .start => if c = '-' then some .sign else leading? c
  | .sign => leading? c
  | .zero => pointOrMark? c
  | .whole => if c.isDigit then some .whole else pointOrMark? c
  | .point => if c.isDigit then some .fraction else none
  | .fraction => if c.isDigit then some .fraction else mark? c
  | .mark => if c = '-' ∨ c = '+' then some .markSign
    else if c.isDigit then some .exponent else none
  | .markSign | .exponent => if c.isDigit then some .exponent else none

/-- Whether a number may end here. -/
def isEnd : NumberPlace → Bool
  | .zero | .whole | .fraction | .exponent => true
  | .start | .sign | .point | .mark | .markSign => false

end NumberPlace

/-- A number by the grammar. -/
def isNumber (word : List Char) : Bool :=
  (word.foldlM NumberPlace.step .start).any NumberPlace.isEnd

/-- What may stand in a number or in a bare word. -/
def isWordChar (c : Char) : Bool :=
  c.isAlphanum || c = '-' || c = '+' || c = '.'

/-- The value of a word without quotes. Truth values are refused, for no value stands for them. -/
def wordValue? (word : List Char) : Option Json :=
  if word = "null".toList then some .null
  else if !isNumber word then none
  else if word.all Char.isDigit then some (.natural (Number.ofDigits word))
  else (Number.readFloat? word).map .double

namespace NumberPlace

theorem isWordChar_of_isDigit {c : Char} (h : c.isDigit = true) : isWordChar c = true := by
  simp [isWordChar, Char.isAlphanum, h]

theorem isWordChar_of_leading? {next : NumberPlace} {c : Char} (h : leading? c = some next) :
    isWordChar c = true := by
  unfold leading? at h
  split at h
  · rename_i hc
    subst hc
    decide
  · split at h
    · exact isWordChar_of_isDigit ‹_›
    · cases h

theorem isWordChar_of_mark? {next : NumberPlace} {c : Char} (h : mark? c = some next) :
    isWordChar c = true := by
  unfold mark? at h
  split at h
  · rename_i hc
    rcases hc with rfl | rfl <;> decide
  · cases h

theorem isWordChar_of_pointOrMark? {next : NumberPlace} {c : Char}
    (h : pointOrMark? c = some next) : isWordChar c = true := by
  unfold pointOrMark? at h
  split at h
  · rename_i hc
    subst hc
    decide
  · exact isWordChar_of_mark? h

/-- A number is made of word characters. -/
theorem isWordChar_of_step {place next : NumberPlace} {c : Char} (h : place.step c = some next) :
    isWordChar c = true := by
  cases place with
  | start =>
      simp only [step] at h
      split at h
      · rename_i hc
        subst hc
        decide
      · exact isWordChar_of_leading? h
  | sign => exact isWordChar_of_leading? h
  | zero => exact isWordChar_of_pointOrMark? h
  | whole =>
      simp only [step] at h
      split at h
      · exact isWordChar_of_isDigit ‹_›
      · exact isWordChar_of_pointOrMark? h
  | fraction =>
      simp only [step] at h
      split at h
      · exact isWordChar_of_isDigit ‹_›
      · exact isWordChar_of_mark? h
  | mark =>
      simp only [step] at h
      split at h
      · rename_i hc
        rcases hc with rfl | rfl <;> decide
      · split at h
        · exact isWordChar_of_isDigit ‹_›
        · cases h
  | point | markSign | exponent =>
      simp only [step] at h
      split at h
      · exact isWordChar_of_isDigit ‹_›
      · cases h

/-- A run of digits stays where it is. -/
theorem foldlM_step_digits {place : NumberPlace}
    (hplace : place = .whole ∨ place = .fraction ∨ place = .exponent) {digits : List Char}
    (hdigits : ∀ c ∈ digits, c.isDigit = true) :
    digits.foldlM step place = some place := by
  induction digits with
  | nil => rfl
  | cons c rest ih =>
      obtain ⟨hc, hrest⟩ := List.forall_mem_cons.mp hdigits
      have hstep : step place c = some place := by
        rcases hplace with rfl | rfl | rfl <;> simp [step, hc]
      rw [List.foldlM_cons, hstep]
      exact ih hrest

/-- Every character of a number is a word character. -/
theorem forall_isWordChar {place next : NumberPlace} {word : List Char}
    (h : word.foldlM step place = some next) : ∀ c ∈ word, isWordChar c = true := by
  induction word generalizing place with
  | nil => simp
  | cons c rest ih =>
      rw [List.foldlM_cons] at h
      obtain ⟨between, hstep, hrest⟩ := Option.bind_eq_some_iff.mp h
      exact List.forall_mem_cons.mpr ⟨isWordChar_of_step hstep, ih hrest⟩

end NumberPlace

/-- A run of digits, at least one. -/
structure IsDigits (digits : List Char) : Prop where
  ne_nil : digits ≠ []
  isDigit : ∀ c ∈ digits, c.isDigit = true

/-- Digits without a needless zero in front. -/
structure IsWhole (digits : List Char) : Prop extends IsDigits digits where
  leading : digits.head? = some '0' → digits = ['0']

theorem isDigits_toDigits (n : Nat) : IsDigits (Nat.toDigits 10 n) where
  ne_nil := Nat.toDigits_ne_nil
  isDigit _ hc := Nat.isDigit_of_mem_toDigits (by decide) (by decide) hc

/-- Only zero is written with a zero in front. -/
theorem eq_zero_of_head?_toDigits {n : Nat} (h : (Nat.toDigits 10 n).head? = some '0') :
    n = 0 := by
  induction n using Nat.strongRecOn with
  | ind n ih =>
      rcases Nat.lt_or_ge n 10 with hn | hn
      · rw [Nat.toDigits_of_lt_base hn] at h
        have hdigit : ∀ digit < 10, digit.digitChar = '0' → digit = 0 := by decide
        exact hdigit n hn (by simpa using h)
      · rw [Nat.toDigits_of_base_le (by decide) hn,
          List.head?_append_of_ne_nil _ Nat.toDigits_ne_nil] at h
        have hquotient := ih (n / 10) (by omega) h
        omega

theorem isWhole_toDigits (n : Nat) : IsWhole (Nat.toDigits 10 n) where
  toIsDigits := isDigits_toDigits n
  leading h := by rw [eq_zero_of_head?_toDigits h, Nat.toDigits_zero]

/-- The first digits of a number other than zero are a number without a needless zero. -/
theorem isWhole_take_toDigits {n count : Nat} (hn : n ≠ 0) (hcount : count ≠ 0) :
    IsWhole ((Nat.toDigits 10 n).take count) where
  ne_nil := by simp [hcount, Nat.toDigits_ne_nil]
  isDigit c hc := (isDigits_toDigits n).isDigit c (List.mem_of_mem_take hc)
  leading h := by
    rw [List.head?_take, if_neg hcount] at h
    exact absurd (eq_zero_of_head?_toDigits h) hn

/-- A number that is not written in digits alone. -/
inductive IsDecimal : List Char → Prop where
  | point {whole fraction : List Char} (hwhole : IsWhole whole) (hfraction : IsDigits fraction) :
    IsDecimal (whole ++ '.' :: fraction)
  | exponent {whole : List Char} (hwhole : IsWhole whole) (e : Int) :
    IsDecimal (whole ++ (Layout.exponentText e).toList)
  | pointAndExponent {whole fraction : List Char} (hwhole : IsWhole whole)
    (hfraction : IsDigits fraction) (e : Int) :
    IsDecimal (whole ++ '.' :: fraction ++ (Layout.exponentText e).toList)

namespace NumberPlace

theorem foldlM_step_whole {place : NumberPlace} (hplace : place = .start ∨ place = .sign)
    {digits : List Char} (h : IsWhole digits) :
    ∃ next, (next = .zero ∨ next = .whole) ∧ digits.foldlM step place = some next := by
  obtain ⟨first, rest, rfl⟩ := List.exists_cons_of_ne_nil h.ne_nil
  obtain ⟨hfirst, hrest⟩ := List.forall_mem_cons.mp h.isDigit
  have hsign : first ≠ '-' := by
    rintro rfl
    revert hfirst
    decide
  have hstep : step place first = leading? first := by
    rcases hplace with rfl | rfl <;> simp [step, hsign]
  rw [List.foldlM_cons, hstep]
  by_cases hzero : first = '0'
  · subst hzero
    cases h.leading rfl
    exact ⟨.zero, Or.inl rfl, rfl⟩
  · have hleading : leading? first = some .whole := by simp [leading?, hzero, hfirst]
    rw [hleading]
    exact ⟨.whole, Or.inr rfl, foldlM_step_digits (Or.inl rfl) hrest⟩

theorem foldlM_step_fraction {place : NumberPlace} (hplace : place = .zero ∨ place = .whole)
    {digits : List Char} (h : IsDigits digits) :
    ('.' :: digits).foldlM step place = some .fraction := by
  obtain ⟨first, rest, rfl⟩ := List.exists_cons_of_ne_nil h.ne_nil
  obtain ⟨hfirst, hrest⟩ := List.forall_mem_cons.mp h.isDigit
  have hpoint : step place '.' = some .point := by rcases hplace with rfl | rfl <;> rfl
  have hdigit : step .point first = some .fraction := by simp [step, hfirst]
  rw [List.foldlM_cons, hpoint, Option.bind_eq_bind, Option.bind_some, List.foldlM_cons, hdigit]
  exact foldlM_step_digits (Or.inr (Or.inl rfl)) hrest

theorem foldlM_step_exponentText {place : NumberPlace}
    (hplace : place = .zero ∨ place = .whole ∨ place = .fraction) (e : Int) :
    (Layout.exponentText e).toList.foldlM step place = some .exponent := by
  obtain ⟨first, rest, hdigits⟩ := List.exists_cons_of_ne_nil (isDigits_toDigits e.natAbs).ne_nil
  obtain ⟨hfirst, hrest⟩ := List.forall_mem_cons.mp
    (hdigits ▸ (isDigits_toDigits e.natAbs).isDigit)
  have hsign : (if e < 0 then "e-" else "e+").toList.foldlM step place = some .markSign := by
    rcases hplace with rfl | rfl | rfl <;> split <;> rfl
  have hdigit : step .markSign first = some .exponent := by simp [step, hfirst]
  rw [Layout.exponentText, String.toList_append, List.foldlM_append, hsign,
    Nat.toList_repr, hdigits, Option.bind_eq_bind, Option.bind_some, List.foldlM_cons, hdigit]
  exact foldlM_step_digits (Or.inr (Or.inr rfl)) hrest

theorem foldlM_step_decimal {place : NumberPlace} (hplace : place = .start ∨ place = .sign)
    {text : List Char} (h : IsDecimal text) :
    ∃ next, next.isEnd = true ∧ text.foldlM step place = some next := by
  cases h with
  | point hwhole hfraction =>
      obtain ⟨next, hnext, hread⟩ := foldlM_step_whole hplace hwhole
      refine ⟨.fraction, rfl, ?_⟩
      rw [List.foldlM_append, hread]
      exact foldlM_step_fraction hnext hfraction
  | exponent hwhole e =>
      obtain ⟨next, hnext, hread⟩ := foldlM_step_whole hplace hwhole
      refine ⟨.exponent, rfl, ?_⟩
      rw [List.foldlM_append, hread]
      exact foldlM_step_exponentText (hnext.imp_right Or.inl) e
  | pointAndExponent hwhole hfraction e =>
      obtain ⟨next, hnext, hread⟩ := foldlM_step_whole hplace hwhole
      refine ⟨.exponent, rfl, ?_⟩
      rw [List.foldlM_append, List.foldlM_append, hread, Option.bind_eq_bind, Option.bind_some,
        foldlM_step_fraction hnext hfraction]
      exact foldlM_step_exponentText (Or.inr (Or.inr rfl)) e

end NumberPlace

/-- A point or an exponent mark is no digit. -/
theorem IsDecimal.all_isDigit {text : List Char} (h : IsDecimal text) :
    text.all Char.isDigit = false := by
  have hexponent : ∀ e, (Layout.exponentText e).toList.all Char.isDigit = false := by
    intro e
    unfold Layout.exponentText
    split <;> rw [String.toList_append, List.all_append] <;> rfl
  cases h with
  | point => simp [List.all_append, show ('.' : Char).isDigit = false from rfl]
  | exponent hwhole e => simp [List.all_append, hexponent]
  | pointAndExponent hwhole hfraction e => simp [List.all_append, hexponent]

theorem isWhole_zero : IsWhole ['0'] :=
  ⟨⟨by simp, by simp⟩, fun _ => rfl⟩

theorem isDigits_zero : IsDigits ['0'] :=
  isWhole_zero.toIsDigits

theorem isWhole_append_zeros {c : Nat} (hc : c ≠ 0) (count : Nat) :
    IsWhole (Nat.toDigits 10 c ++ List.replicate count '0') where
  ne_nil := by simp [Nat.toDigits_ne_nil]
  isDigit d hd := by
    rcases List.mem_append.mp hd with hd | hd
    · exact (isDigits_toDigits c).isDigit d hd
    · rw [List.eq_of_mem_replicate hd]
      rfl
  leading h := by
    rw [List.head?_append_of_ne_nil _ Nat.toDigits_ne_nil] at h
    exact absurd (eq_zero_of_head?_toDigits h) hc

/-- A point among the digits of a number, or in front of them behind a zero. -/
theorem exists_withPoint {c places : Nat} (hc : c ≠ 0) (hplaces : places ≠ 0) :
    ∃ whole fraction, IsWhole whole ∧ IsDigits fraction ∧
      (Layout.withPoint (Nat.toDigits 10 c) places).toList = whole ++ '.' :: fraction := by
  obtain ⟨padded, hpadded⟩ : ∃ padded, padded =
      List.replicate (places + 1 - (Nat.toDigits 10 c).length) '0' ++ Nat.toDigits 10 c :=
    ⟨_, rfl⟩
  have hlength : places < padded.length := by
    simp [hpadded]
    omega
  have hdigits : ∀ d ∈ padded, d.isDigit = true := by
    intro d hd
    rcases List.mem_append.mp (hpadded ▸ hd) with hd | hd
    · rw [List.eq_of_mem_replicate hd]
      rfl
    · exact (isDigits_toDigits c).isDigit d hd
  refine ⟨padded.take (padded.length - places), padded.drop (padded.length - places), ?_,
    ⟨by simp; omega, fun d hd => hdigits d (List.mem_of_mem_drop hd)⟩, ?_⟩
  · by_cases hlong : places < (Nat.toDigits 10 c).length
    · rw [hpadded, show places + 1 - (Nat.toDigits 10 c).length = 0 by omega,
        List.replicate_zero, List.nil_append]
      exact isWhole_take_toDigits hc (by omega)
    · -- no more digits than places: the whole part is the one zero in front
      obtain ⟨more, hmore⟩ : ∃ more, places + 1 - (Nat.toDigits 10 c).length = more + 1 :=
        ⟨places - (Nat.toDigits 10 c).length, by omega⟩
      have hone : padded.length - places = 1 := by
        simp [hpadded]
        omega
      rw [hone, hpadded, hmore]
      exact isWhole_zero
  · simp [Layout.withPoint, hpadded]

theorem isDecimal_decimal {d : Shortest} (h : d.coefficient ≠ 0) :
    IsDecimal (doubleLayout.decimal d).toList := by
  have hwhole := isWhole_toDigits d.coefficient
  unfold Layout.decimal
  simp only []
  split
  · split
    · have hpoint := IsDecimal.point (isWhole_append_zeros h d.exponent.toNat) isDigits_zero
      simpa [Layout.zeros, doubleLayout] using hpoint
    · obtain ⟨whole, fraction, hwhole, hfraction, htext⟩ := exists_withPoint h
        (show (-d.exponent).toNat ≠ 0 by omega)
      rw [htext]
      exact .point hwhole hfraction
  · rw [String.toList_append]
    split
    · rw [String.toList_ofList]
      exact .exponent hwhole _
    · have hlength := List.length_pos_of_ne_nil hwhole.ne_nil
      obtain ⟨whole, fraction, hwhole, hfraction, htext⟩ := exists_withPoint h
        (show (Nat.toDigits 10 d.coefficient).length - 1 ≠ 0 by omega)
      rw [htext]
      exact .pointAndExponent hwhole hfraction _

/-- A finite double is written as a number that no natural number looks like. -/
theorem isDecimal_render {x : Float} (h : x.isFinite = true) :
    ∃ (negative : Bool) (text : List Char), IsDecimal text ∧
      (doubleLayout.render x).toList = (if negative then ['-'] else []) ++ text := by
  obtain ⟨negative, m, q, hx⟩ := Number.exists_classify_of_isFinite h
  have hsign : (Layout.sign negative).toList = if negative then ['-'] else [] := by
    cases negative <;> rfl
  refine ⟨negative, ?_⟩
  simp only [← hsign]
  unfold Layout.render
  rw [hx]
  cases m with
  | zero =>
      exact ⟨['0', '.', '0'], .point isWhole_zero isDigits_zero, String.toList_append.trans rfl⟩
  | succ m =>
      exact ⟨_, isDecimal_decimal (Shortest.coefficient_ofBinary_ne_zero _ (Nat.succ_ne_zero m) q),
        String.toList_append⟩

/-- A word that is a number is not the one bare word, and all its characters belong to it. -/
theorem wordValue?_of_isNumber {word : List Char} (h : isNumber word = true) :
    wordValue? word = if word.all Char.isDigit then some (.natural (Number.ofDigits word))
      else (Number.readFloat? word).map .double := by
  have hnull : word ≠ "null".toList := by
    rintro rfl
    revert h
    decide
  rw [wordValue?, if_neg hnull, h]
  rfl

theorem isWordChar_of_isNumber {word : List Char} (h : isNumber word = true) :
    word ≠ [] ∧ ∀ c ∈ word, isWordChar c = true := by
  unfold isNumber at h
  cases hread : word.foldlM NumberPlace.step .start with
  | none => simp [hread] at h
  | some place =>
      refine ⟨?_, NumberPlace.forall_isWordChar hread⟩
      rintro rfl
      revert h
      decide

theorem isNumber_toDigits (n : Nat) : isNumber (Nat.toDigits 10 n) = true := by
  obtain ⟨next, hnext, hread⟩ :=
    NumberPlace.foldlM_step_whole (Or.inl rfl) (isWhole_toDigits n)
  rw [isNumber, hread]
  rcases hnext with rfl | rfl <;> rfl

theorem wordValue?_toDigits (n : Nat) : wordValue? (Nat.toDigits 10 n) = some (.natural n) := by
  have hdigits : (Nat.toDigits 10 n).all Char.isDigit = true :=
    List.all_eq_true.mpr (isDigits_toDigits n).isDigit
  have hvalue : Number.ofDigits (Nat.toDigits 10 n) = n := Nat.ofDigitChars_ten_toDigits
  rw [wordValue?_of_isNumber (isNumber_toDigits n), if_pos hdigits, hvalue]

theorem isNumber_render {x : Float} (h : x.isFinite = true) :
    isNumber (doubleLayout.render x).toList = true := by
  obtain ⟨negative, text, hdecimal, htext⟩ := isDecimal_render h
  rw [isNumber, htext]
  cases negative with
  | false =>
      obtain ⟨next, hend, hread⟩ := NumberPlace.foldlM_step_decimal (Or.inl rfl) hdecimal
      simpa [hread] using hend
  | true =>
      obtain ⟨next, hend, hread⟩ := NumberPlace.foldlM_step_decimal (Or.inr rfl) hdecimal
      simpa [hread, NumberPlace.step] using hend

/-- The text of a finite double is read as that double, if its decimal is. -/
theorem wordValue?_render {x : Float} (h : x.isFinite = true)
    (hread : Number.readFloat? (doubleLayout.render x).toList = some x) :
    wordValue? (doubleLayout.render x).toList = some (.double x) := by
  have hdigits : (doubleLayout.render x).toList.all Char.isDigit = false := by
    obtain ⟨negative, text, hdecimal, htext⟩ := isDecimal_render h
    rw [htext, List.all_append, hdecimal.all_isDigit, Bool.and_false]
  rw [wordValue?_of_isNumber (isNumber_render h), hdigits, hread]
  rfl

end Json

end DramSweep
