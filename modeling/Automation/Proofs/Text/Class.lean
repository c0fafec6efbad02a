import Automation.Text.Class

/-!
# Character classes apart

White space and the characters of words have nothing in common, on ASCII and beyond.
-/

namespace Automation.Text

theorem inRanges_iff {ranges : Array (Nat × Nat)} {n : Nat} :
    inRanges ranges n = true ↔ ∃ range ∈ ranges, range.1 ≤ n ∧ n ≤ range.2 := by
  simp only [inRanges, Array.any_eq_true', Bool.and_eq_true, decide_eq_true_eq]

/-- No range of white space meets a range of letters and numerals. -/
theorem spaceRanges_apart : ∀ space ∈ spaceRanges.toList, ∀ word ∈ wordRanges.toList,
    space.2 < word.1 ∨ word.2 < space.1 := by
  decide +kernel

theorem toNat_of_isAlphanum {c : Char} (h : c.isAlphanum = true) :
    48 ≤ c.toNat ∧ c.toNat ≤ 57 ∨ 65 ≤ c.toNat ∧ c.toNat ≤ 90 ∨ 97 ≤ c.toNat ∧ c.toNat ≤ 122 := by
  change ((decide (c.val ≥ 'A'.val ∧ c.val ≤ 'Z'.val) ||
    (decide (c.val ≥ 'a'.val) && decide (c.val ≤ 'z'.val))) ||
    (decide (c.val ≥ '0'.val) && decide (c.val ≤ '9'.val))) = true at h
  simp only [Bool.or_eq_true, Bool.and_eq_true, decide_eq_true_eq, ge_iff_le,
    UInt32.le_iff_toNat_le] at h
  simp only [Char.toNat]
  grind

theorem toNat_of_isLatinLetter {c : Char} (h : isLatinLetter c = true) :
    65 ≤ c.toNat ∧ c.toNat ≤ 90 ∨ 97 ≤ c.toNat ∧ c.toNat ≤ 122 := by
  change (decide (c.val ≥ 'A'.val ∧ c.val ≤ 'Z'.val) ||
    (decide (c.val ≥ 'a'.val) && decide (c.val ≤ 'z'.val))) = true at h
  simp only [Bool.or_eq_true, Bool.and_eq_true, decide_eq_true_eq, ge_iff_le,
    UInt32.le_iff_toNat_le] at h
  simp only [Char.toNat]
  grind

/-- An ASCII letter is a letter. -/
theorem isWord_of_isLatinLetter {c : Char} (h : isLatinLetter c = true) : isWord c = true := by
  have hletter : c.isAlphanum = true := by
    simpa [Char.isAlphanum, isLatinLetter] using Or.inl h
  have hascii : c.toNat < 128 := by
    have := toNat_of_isAlphanum hletter
    omega
  simp [isWord, isAlphanumeric, hascii, hletter]

/-- White space is in no word. -/
theorem isWord_of_isSpace {c : Char} (h : isSpace c = true) : isWord c = false := by
  rw [Bool.eq_false_iff]
  intro hword
  simp only [isWord, isAlphanumeric, isSpace, Bool.or_eq_true, beq_iff_eq] at h hword
  by_cases hascii : c.toNat < 128
  · simp only [hascii, if_true] at h hword
    have hspace : c.toNat ≤ 32 := by
      simp only [Bool.or_eq_true, Bool.and_eq_true, beq_iff_eq, decide_eq_true_eq] at h
      omega
    rcases hword with rfl | hword
    · exact absurd hspace (by decide)
    · have := toNat_of_isAlphanum hword
      omega
  · simp only [hascii, if_false] at h hword
    rcases hword with rfl | hword
    · exact hascii (by decide)
    · obtain ⟨space, hspace, hlow, hhigh⟩ := inRanges_iff.1 h
      obtain ⟨word, hword, hlow', hhigh'⟩ := inRanges_iff.1 hword
      have := spaceRanges_apart space hspace.val word hword.val
      omega

/-- An ASCII letter is no digit. -/
theorem isDecimal_of_isLatinLetter {c : Char} (h : isLatinLetter c = true) : isDecimal c = false := by
  have hletter := toNat_of_isLatinLetter h
  have hascii : c.toNat < 128 := by omega
  have hdigit : ¬(48 ≤ c.toNat ∧ c.toNat ≤ 57) := by omega
  simp [isDecimal, decimalValue?, hascii, hdigit]

/-- No range of white space meets one of decimal digits. -/
theorem spaceRanges_apart_decimal : ∀ space ∈ spaceRanges.toList, ∀ range ∈ decimalRanges.toList,
    space.2 < range.1 ∨ range.2 < space.1 := by
  decide +kernel

/-- White space is no digit. -/
theorem isDecimal_of_isSpace {c : Char} (h : isSpace c = true) : isDecimal c = false := by
  rw [Bool.eq_false_iff]
  intro hdecimal
  simp only [isDecimal, decimalValue?, isSpace] at h hdecimal
  by_cases hascii : c.toNat < 128
  · simp only [hascii, if_true] at h hdecimal
    split at hdecimal
    · rename_i hdigit
      simp only [Bool.or_eq_true, Bool.and_eq_true, beq_iff_eq, decide_eq_true_eq] at h hdigit
      omega
    · cases hdecimal
  · simp only [hascii, if_false, Option.isSome_map] at h hdecimal
    obtain ⟨space, hspace, hlow, hhigh⟩ := inRanges_iff.1 h
    obtain ⟨range, hfind⟩ := Option.isSome_iff_exists.1 hdecimal
    have hin := Array.find?_some hfind
    have hrange := Array.mem_of_find?_eq_some hfind
    simp only [Bool.and_eq_true, decide_eq_true_eq] at hin
    have := spaceRanges_apart_decimal space hspace.val range hrange.val
    omega

end Automation.Text
