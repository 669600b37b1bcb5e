import DramSweep.Number.Reading
import DramSweep.Text.Blank
import Mathlib.Algebra.Group.Nat.Defs
import Mathlib.Data.List.Basic

/-!
Words that are numbers. No blank stands in a text that is read as a value, so such a text is one
word of a line. A text is refused as an index for one of three reasons: there is no digit in it,
something else than a digit stands in it, or the number does not fit; a numeral of a number that
fits is read back as that number.
-/

namespace DramSweep

namespace Text

/-- A text that blanks do not divide. -/
def IsUnbroken (text : List Char) : Prop :=
  ∀ c ∈ text, isBlank c = false

-- Decided along the text. There is also an instance for all characters that there are.
instance (text : List Char) : Decidable (IsUnbroken text) :=
  decidable_of_iff (text.all fun c => !isBlank c) (by simp [IsUnbroken])

theorem isUnbroken_cons {c : Char} {rest : List Char} :
    IsUnbroken (c :: rest) ↔ isBlank c = false ∧ IsUnbroken rest :=
  List.forall_mem_cons

theorem IsUnbroken.append {text more : List Char} (h : IsUnbroken text) (hmore : IsUnbroken more) :
    IsUnbroken (text ++ more) :=
  List.forall_mem_append.mpr ⟨h, hmore⟩

/-- A word in front of a blank is the first word. -/
theorem words_append_blank {word : List Char} (hne : word ≠ []) (hword : IsUnbroken word)
    {blank : Char} (hblank : isBlank blank = true) (rest : List Char) :
    words (word ++ blank :: rest) = word :: words rest := by
  rw [words, List.splitOnP_append_cons word rest hblank, List.splitOnP_eq_singleton hword]
  simp [words, hne]

theorem words_of_isUnbroken {word : List Char} (hne : word ≠ []) (hword : IsUnbroken word) :
    words word = [word] := by
  rw [words, List.splitOnP_eq_singleton hword]
  simp [hne]

theorem isBlank_of_isDigit {c : Char} (h : c.isDigit = true) : isBlank c = false := by
  obtain ⟨hlow, hhigh⟩ : 48 ≤ c.toNat ∧ c.toNat ≤ 57 := Char.isDigit_iff_toNat.mp h
  simp [isBlank, blankRanges]
  omega

theorem isUnbroken_of_digits {digits : List Char} (h : ∀ c ∈ digits, c.isDigit = true) :
    IsUnbroken digits :=
  fun c hc => isBlank_of_isDigit (h c hc)

/-- A blank is no letter, so it has no other case. -/
theorem toLower_of_isBlank {c : Char} (h : isBlank c = true) : c.toLower = c := by
  refine dif_neg fun ⟨hlow, hhigh⟩ => ?_
  have hletter : 65 ≤ c.toNat ∧ c.toNat ≤ 90 := ⟨hlow, hhigh⟩
  simp [isBlank, blankRanges] at h
  omega

/-- What spells a word in some mixture of cases is as little divided as the word. -/
theorem isUnbroken_of_toLower {text : List Char} (h : IsUnbroken (text.map Char.toLower)) :
    IsUnbroken text := by
  intro c hc
  rw [← Bool.not_eq_true]
  intro hblank
  have hlower := h c.toLower (List.mem_map_of_mem hc)
  rw [toLower_of_isBlank hblank, hblank] at hlower
  cases hlower

theorem isUnbroken_of_dropWhile {text : List Char}
    (h : IsUnbroken (text.dropWhile Char.isDigit)) : IsUnbroken text := by
  rw [← List.takeWhile_append_dropWhile (p := Char.isDigit) (l := text)]
  exact (isUnbroken_of_digits (List.all_eq_true.mp List.all_takeWhile)).append h

end Text

namespace Number

open Text (IsUnbroken isUnbroken_cons)

theorem isUnbroken_of_splitSign {text : List Char} (h : IsUnbroken (splitSign text).2) :
    IsUnbroken text := by
  unfold splitSign at h
  split at h
  next => exact isUnbroken_cons.mpr ⟨by decide, h⟩
  next => exact isUnbroken_cons.mpr ⟨by decide, h⟩
  next => exact h

theorem isUnbroken_of_readExponent? {text : List Char} {exponent : Int}
    (h : readExponent? text = some exponent) : IsUnbroken text := by
  unfold readExponent? at h
  split at h
  next => simp [IsUnbroken]
  next mark rest =>
    dsimp only at h
    split at h
    next hread =>
      obtain ⟨hmark, -, hdigits⟩ := hread
      have hrest : IsUnbroken rest := isUnbroken_of_splitSign
        (Text.isUnbroken_of_digits (List.all_eq_true.mp hdigits))
      rcases hmark with rfl | rfl
      · exact isUnbroken_cons.mpr ⟨by decide, hrest⟩
      · exact isUnbroken_cons.mpr ⟨by decide, hrest⟩
    next => cases h

theorem isUnbroken_of_readDecimal? {text : List Char} {decimal : Decimal}
    (h : readDecimal? text = some decimal) : IsUnbroken text := by
  unfold readDecimal? at h
  dsimp only at h
  refine Text.isUnbroken_of_dropWhile ?_
  split at h
  next rest hpoint =>
    split at h
    next => cases h
    next =>
      obtain ⟨exponent, hexponent, -⟩ := Option.map_eq_some_iff.mp h
      rw [hpoint]
      exact isUnbroken_cons.mpr
        ⟨by decide, Text.isUnbroken_of_dropWhile (isUnbroken_of_readExponent? hexponent)⟩
  next =>
    split at h
    next => cases h
    next =>
      obtain ⟨exponent, hexponent, -⟩ := Option.map_eq_some_iff.mp h
      exact isUnbroken_of_readExponent? hexponent

theorem isUnbroken_of_readMagnitude? {text : List Char} {magnitude : Magnitude}
    (h : readMagnitude? text = some magnitude) : IsUnbroken text := by
  unfold readMagnitude? at h
  dsimp only at h
  split at h
  next hword =>
    refine Text.isUnbroken_of_toLower ?_
    rw [hword]
    decide
  next =>
    split at h
    next hword =>
      refine Text.isUnbroken_of_toLower ?_
      rcases hword with hword | hword
      · rw [hword]
        decide
      · rw [hword]
        decide
    next =>
      obtain ⟨decimal, hdecimal, -⟩ := Option.map_eq_some_iff.mp h
      exact isUnbroken_of_readDecimal? hdecimal

/-- A text that is read as a value is one word. -/
theorem isUnbroken_of_readFloat? {text : List Char} {value : Float}
    (h : readFloat? text = some value) : text ≠ [] ∧ IsUnbroken text := by
  constructor
  · rintro rfl
    cases h
  · obtain ⟨magnitude, hmagnitude, -⟩ := Option.map_eq_some_iff.mp h
    exact isUnbroken_of_splitSign (isUnbroken_of_readMagnitude? hmagnitude)

/-- A text without the plus sign that may stand in front. -/
def unsigned : List Char → List Char
  | '+' :: rest => rest
  | text => text

/-- A text that denotes no index. -/
inductive IsMalformed : List Char → Prop where
  | empty : IsMalformed []
  | lonePlus : IsMalformed ['+']
  | foreign {part : List Char} {c : Char} (hmem : c ∈ unsigned part) (h : c.isDigit = false) :
      IsMalformed part
  | tooBig {part : List Char} (hdigits : ∀ c ∈ unsigned part, c.isDigit = true)
      (h : 2 ^ 64 ≤ ofDigits (unsigned part)) : IsMalformed part

theorem readIndex?_eq (part : List Char) : readIndex? part =
    if unsigned part ≠ [] ∧ (unsigned part).all Char.isDigit ∧ ofDigits (unsigned part) < indexBound
      then some (ofDigits (unsigned part)) else none :=
  rfl

theorem unsigned_eq_nil_iff (part : List Char) : unsigned part = [] ↔ part = [] ∨ part = ['+'] := by
  unfold unsigned
  split
  next => simp
  next hplus =>
    constructor
    · exact .inl
    · rintro (rfl | rfl)
      · rfl
      · exact absurd rfl (hplus [])

/-- Whatever denotes no index is refused, and nothing else. -/
theorem readIndex?_eq_none_iff (part : List Char) : readIndex? part = none ↔ IsMalformed part := by
  rw [readIndex?_eq]
  constructor
  · intro h
    by_cases hnone : unsigned part = []
    · rcases (unsigned_eq_nil_iff part).mp hnone with rfl | rfl
      · exact .empty
      · exact .lonePlus
    · by_cases hdigits : ∀ c ∈ unsigned part, c.isDigit = true
      · refine .tooBig hdigits (Nat.le_of_not_lt fun hfits => ?_)
        rw [if_pos ⟨hnone, List.all_eq_true.mpr hdigits, hfits⟩] at h
        cases h
      · obtain ⟨c, hmem, hc⟩ := by simpa using hdigits
        exact .foreign hmem hc
  · intro h
    refine if_neg fun ⟨hsome, hdigits, hfits⟩ => ?_
    rw [List.all_eq_true] at hdigits
    cases h with
    | empty => exact hsome rfl
    | lonePlus => exact hsome rfl
    | foreign hmem hc => simp [hdigits _ hmem] at hc
    | tooBig _ hbig => exact absurd hfits (Nat.not_lt.mpr hbig)

theorem isDigit_of_mem_toDigits {n : Nat} {c : Char} (h : c ∈ Nat.toDigits 10 n) :
    c.isDigit = true :=
  Nat.isDigit_of_mem_toDigits (by decide) (by decide) h

/-- The numeral of a number that fits is read as that number. -/
theorem readIndex?_toDigits {n : Nat} (h : n < 2 ^ 64) : readIndex? (Nat.toDigits 10 n) = some n := by
  have hdigits : ∀ c ∈ Nat.toDigits 10 n, c.isDigit = true := fun _ => isDigit_of_mem_toDigits
  have hvalue : ofDigits (Nat.toDigits 10 n) = n := Nat.ofDigitChars_ten_toDigits
  have hplain : unsigned (Nat.toDigits 10 n) = Nat.toDigits 10 n := by
    unfold unsigned
    split
    next rest hplus =>
      have hfirst := hdigits '+' (hplus ▸ List.mem_cons_self)
      exact absurd hfirst (by decide)
    next => rfl
  rw [readIndex?_eq, hplain, hvalue, if_pos ⟨Nat.toDigits_ne_nil, List.all_eq_true.mpr hdigits, h⟩]

end Number

end DramSweep
