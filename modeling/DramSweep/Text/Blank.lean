/-!
Blank characters and the words that they separate. The class is the Unicode property
`White_Space`, so a no-break space divides two words while a zero-width space does not.
`words` loses nothing but blanks: every word is non-empty and holds no blank.
-/

namespace DramSweep.Text

/-- The ranges of the property `White_Space`, in ascending order, ends included. -/
def blankRanges : List (Nat × Nat) :=
  [(0x09, 0x0D), (0x20, 0x20), (0x85, 0x85), (0xA0, 0xA0), (0x1680, 0x1680), (0x2000, 0x200A),
    (0x2028, 0x2029), (0x202F, 0x202F), (0x205F, 0x205F), (0x3000, 0x3000)]

def isBlank (c : Char) : Bool :=
  blankRanges.any fun (first, last) => first ≤ c.toNat && c.toNat ≤ last

/-- The maximal runs of characters that are not blank, from left to right. -/
def words (text : List Char) : List (List Char) :=
  (text.splitOnP isBlank).filter (· ≠ [])

theorem ne_nil_of_mem_words {text word : List Char} (h : word ∈ words text) : word ≠ [] := by
  simpa using (List.mem_filter.1 h).2

@[simp] theorem words_nil : words [] = [] := by
  simp [words]

theorem words_of_forall_blank {text : List Char} (h : ∀ c ∈ text, isBlank c = true) :
    words text = [] := by
  induction text with
  | nil => simp
  | cons c rest ih =>
    have hc : isBlank c = true := h c (by simp)
    have hr := ih fun d hd => h d (by simp [hd])
    simpa [words, List.splitOnP_cons_eq_if_modifyHead, hc] using hr

/-- A blank in front changes no word. -/
theorem words_cons_blank {c : Char} (hc : isBlank c = true) (rest : List Char) :
    words (c :: rest) = words rest := by
  simp [words, List.splitOnP_cons_eq_if_modifyHead, hc]

end DramSweep.Text
