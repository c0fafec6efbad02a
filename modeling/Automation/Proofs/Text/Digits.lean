import Automation.Number.Text
import Mathlib.Algebra.Group.Nat.Defs
import Mathlib.Data.List.Induction
import Mathlib.Data.List.TakeWhile

/-!
# Digits

The digits of a number are read as it (`natOfDigits?_toDigits`), and zeros in front of them or behind
them change its value as they should.
-/

namespace Automation.Text

theorem decimalValue?_digitChar {d : Nat} (h : d < 10) : decimalValue? d.digitChar = some d := by
  have hall : ∀ i : Fin 10, decimalValue? (Nat.digitChar i) = some i.val := by decide
  exact hall ⟨d, h⟩

theorem natOfDigits?_concat (cs : List Char) (c : Char) :
    natOfDigits? (cs ++ [c]) = (do
      let v ← natOfDigits? cs
      let d ← decimalValue? c
      return v * 10 + d) := by
  rw [natOfDigits?, natOfDigits?, List.foldl_append]
  rfl

/-- The digits of a number are read as it. -/
theorem natOfDigits?_toDigits (n : Nat) : natOfDigits? (Nat.toDigits 10 n) = some n := by
  induction n using Nat.strongRecOn with
  | ind n ih =>
    by_cases h : n < 10
    · rw [Nat.toDigits_of_lt_base h]
      change natOfDigits? ([] ++ [n.digitChar]) = _
      rw [natOfDigits?_concat, decimalValue?_digitChar h]
      simp [natOfDigits?]
    · rw [Nat.toDigits_of_base_le (by decide) (by omega), natOfDigits?_concat,
        ih (n / 10) (by omega), decimalValue?_digitChar (Nat.mod_lt n (by decide))]
      change some (n / 10 * 10 + n % 10) = some n
      rw [Nat.div_add_mod']

theorem natOfDigits?_zeros (count : Nat) (cs : List Char) :
    natOfDigits? (List.replicate count '0' ++ cs) = natOfDigits? cs := by
  induction count with
  | zero => rfl
  | succ count ih =>
    rw [List.replicate_succ, List.cons_append]
    exact ih

theorem natOfDigits?_snoc_zeros {cs : List Char} {n : Nat} (h : natOfDigits? cs = some n)
    (count : Nat) : natOfDigits? (cs ++ List.replicate count '0') = some (n * 10 ^ count) := by
  induction count with
  | zero => simpa using h
  | succ count ih =>
    rw [List.replicate_succ', ← List.append_assoc, natOfDigits?_concat, ih]
    change some (n * 10 ^ count * 10 + 0) = _
    rw [Nat.add_zero, Nat.mul_assoc, Nat.pow_succ]

theorem decimalValue?_latin {c : Char} (h : isLatinDigit c = true) :
    ∃ d < 10, decimalValue? c = some d := by
  have hc : 48 ≤ c.toNat ∧ c.toNat ≤ 57 := by
    simpa [isLatinDigit, Char.isDigit, UInt32.le_iff_toNat_le] using h
  refine ⟨c.toNat - 48, by omega, ?_⟩
  rw [decimalValue?]
  simp [hc]
  omega

theorem natOfDigits?_latin {cs : List Char} (h : ∀ c ∈ cs, isLatinDigit c = true) :
    ∃ n < 10 ^ cs.length, natOfDigits? cs = some n := by
  -- A number is read digit by digit from the left, so the last digit is taken off first.
  induction cs using List.reverseRecOn with
  | nil => exact ⟨0, by decide, rfl⟩
  | append_singleton cs c ih =>
    obtain ⟨n, hn, hcs⟩ := ih fun x hx => h x (List.mem_append_left _ hx)
    obtain ⟨d, hd, hc⟩ := decimalValue?_latin (h c (by simp))
    refine ⟨n * 10 + d, ?_, by rw [natOfDigits?_concat, hcs, hc]; rfl⟩
    rw [List.length_append, List.length_singleton, Nat.pow_succ]
    omega

/-! ## The text around a number -/

theorem stripBack_append (p : Char → Bool) (cs : List Char) :
    ∃ back, cs = stripBack p cs ++ back ∧ ∀ c ∈ back, p c = true := by
  refine ⟨(cs.reverse.takeWhile p).reverse, ?_, fun c hc => ?_⟩
  · rw [stripBack, ← List.reverse_append, List.takeWhile_append_dropWhile, List.reverse_reverse]
  · exact List.mem_takeWhile_imp (List.mem_reverse.mp hc)

theorem length_stripNumber_le (s : String) : (stripNumber s).length ≤ s.toList.length := by
  obtain ⟨back, hback, -⟩ := stripBack_append isNumberSpace (stripFront isNumberSpace s.toList)
  have hlength := congrArg List.length hback
  have hfront : (stripFront isNumberSpace s.toList).length ≤ s.toList.length :=
    List.length_dropWhile_le _ _
  rw [List.length_append] at hlength
  unfold stripNumber
  omega

theorem length_le_utf8ByteSize (cs : List Char) : cs.length ≤ (String.ofList cs).utf8ByteSize := by
  induction cs with
  | nil => exact Nat.zero_le _
  | cons c cs ih =>
    have hc := c.utf8Size_pos
    rw [String.ofList_cons, String.utf8ByteSize_append, String.utf8ByteSize_singleton,
      List.length_cons]
    omega

end Automation.Text

namespace Automation.Number

theorem takeSign_sublist (cs : List Char) : (takeSign cs).2.Sublist cs := by
  unfold takeSign
  split
  · exact List.sublist_cons_self _ _
  · exact List.sublist_cons_self _ _
  · exact List.Sublist.refl _

end Automation.Number
