import Automation.Proofs.Text.Digits
import Automation.Time.WireReader

/-!
# Digits of a fixed number

A number that is written with zeros in front up to a width is read back from so many digits.
-/

namespace Automation

namespace Number

/-- The characters of a number that is written with zeros in front. -/
structure Padding (width n : Nat) (cs : List Char) : Prop where
  length : cs.length = width
  digits : ∀ c ∈ cs, Text.isLatinDigit c = true
  value : Text.natOfDigits? cs = some n

theorem padded_toList (width n : Nat) :
    (padded width n).toList
      = List.replicate (width - (Nat.toDigits 10 n).length) '0' ++ Nat.toDigits 10 n := by
  rw [padded, String.toList_ofList]

theorem padded_digits (width n : Nat) : ∀ c ∈ (padded width n).toList, Text.isLatinDigit c = true := by
  intro c hc
  rw [padded_toList] at hc
  rcases List.mem_append.mp hc with hzero | hdigit
  · rw [List.eq_of_mem_replicate hzero]
    rfl
  · exact Nat.isDigit_of_mem_toDigits (by decide) (by decide) hdigit

theorem padded_value (width n : Nat) : Text.natOfDigits? (padded width n).toList = some n := by
  rw [padded_toList, Text.natOfDigits?_zeros, Text.natOfDigits?_toDigits]

theorem padded_padding {width n : Nat} (hwidth : 0 < width) (h : n < 10 ^ width) :
    Padding width n (padded width n).toList := by
  have hlength := (Nat.length_toDigits_le_iff (b := 10) (n := n) (by decide) hwidth).mpr h
  refine ⟨?_, padded_digits width n, padded_value width n⟩
  rw [padded_toList, List.length_append, List.length_replicate]
  omega

end Number

namespace Time.Wire

open Number

variable {width n : Nat} {cs rest : List Char}

theorem digits_padding {fault : Fault} (h : Padding width n cs) :
    digits width fault (cs ++ rest) = .ok (n, rest) := by
  unfold digits
  have htake : (cs ++ rest).take width = cs := by rw [← h.length, List.take_left]
  have hdrop : (cs ++ rest).drop width = rest := by rw [← h.length, List.drop_left]
  simp only [htake, hdrop, h.value]
  rw [if_pos (by simpa [h.length] using h.digits)]
  rfl

theorem two?_padding {limit : Nat} (h : Padding 2 n cs) (hlimit : n < limit) :
    two? limit (cs ++ rest) = some (n, rest) := by
  unfold two?
  rw [digits_padding h]
  exact if_pos hlimit

end Time.Wire

end Automation
