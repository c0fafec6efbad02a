import Automation.Proofs.Action.Checked
import Automation.Proofs.Text.Class

/-!
# Phone numbers

A phone number goes out without the marks that people put between its digits, and a number that went
out goes out unchanged the next time (`Check.phone_normalized`). Digits of any script count as digits
behind the first one, so a number that is accepted is one of E.164 exactly if it is written in ASCII
digits.
-/

namespace Automation.Check

/-! ## The shape of a number -/

/-- A number of E.164: a plus and seven to fifteen ASCII digits, the first not zero. -/
def IsE164 (s : String) : Prop :=
  ∃ digits, s.toList = '+' :: digits ∧ (∀ c ∈ digits, Text.isLatinDigit c = true) ∧
    digits.head? ≠ some '0' ∧ 7 ≤ digits.length ∧ digits.length ≤ 15

/-- A number that is accepted: a plus, an ASCII digit that is not zero, and six to fourteen decimal
digits of any script. -/
def IsPhoneText (cs : List Char) : Prop :=
  ∃ first rest, cs = '+' :: first :: rest ∧ ('1' ≤ first ∧ first ≤ '9') ∧
    (∀ c ∈ rest, Text.isDecimal c = true) ∧ 6 ≤ rest.length ∧ rest.length ≤ 14

/-- The characters of a text that are no marks. -/
def unmarked (s : String) : List Char := s.toList.filter (!isPhoneMark ·)

variable {kind s v : String} {cs : List Char} {c : Char}

theorem isPhoneNumber_iff : isPhoneNumber cs = true ↔ IsPhoneText cs := by
  unfold isPhoneNumber IsPhoneText
  split
  · simp only [Bool.and_eq_true, decide_eq_true_eq, List.all_eq_true, and_assoc]
    constructor
    · exact fun h => ⟨_, _, rfl, h⟩
    · rintro ⟨_, _, ⟨⟩, h⟩
      exact h
  · rename_i hshape
    refine iff_of_false nofun ?_
    rintro ⟨first, rest, rfl, -⟩
    exact hshape first rest rfl

theorem phone_eq (kind s : String) :
    phone kind s = requireText kind "phone number" s >>= fun s =>
      if isPhoneNumber (unmarked s) then .ok (String.ofList (unmarked s))
      else .error (.permanent kind s!"Invalid phone number '{s}', expected E.164 format") := rfl

theorem phone_eq_ok :
    phone kind s = .ok v ↔ Sendable s ∧ IsPhoneText (unmarked s) ∧ v.toList = unmarked s := by
  simp only [phone_eq, Except.bind_eq_ok, requireText_eq_ok, and_assoc, exists_eq_left,
    ← isPhoneNumber_iff]
  refine and_congr_right fun _ => ?_
  split
  · rename_i hnumber
    rw [Except.ok.injEq, ← String.toList_inj, String.toList_ofList, eq_comm]
    exact (and_iff_right hnumber).symm
  · rename_i hnumber
    exact iff_of_false nofun fun h => hnumber h.1

/-- What is not accepted is refused for good. -/
theorem phone_decides (kind s : String) :
    (∃ v, phone kind s = .ok v) ∨ ∃ detail, phone kind s = .error (.permanent kind detail) := by
  simp only [phone_eq, requireText]
  split
  · split
    · exact .inr ⟨_, rfl⟩
    · dsimp only [bind, Except.bind]
      split
      · exact .inl ⟨_, rfl⟩
      · exact .inr ⟨_, rfl⟩
  · exact .inr ⟨_, rfl⟩

/-! ## Digits and marks -/

theorem isDecimal_of_isLatinDigit (h : Text.isLatinDigit c = true) : Text.isDecimal c = true := by
  obtain ⟨d, -, hd⟩ := Text.decimalValue?_latin h
  rw [Text.isDecimal, hd]
  rfl

/-- A digit is no mark. -/
theorem isPhoneMark_of_isDecimal (h : Text.isDecimal c = true) : isPhoneMark c = false := by
  rw [Bool.eq_false_iff]
  intro hmark
  simp only [isPhoneMark, Bool.or_eq_true, beq_iff_eq] at hmark
  rcases hmark with (((hspace | rfl) | rfl) | rfl) | rfl
  · rw [Text.isDecimal_of_isSpace hspace] at h
    cases h
  all_goals exact absurd h (by decide)

theorem isLatinDigit_of_bounds (h : '1' ≤ c ∧ c ≤ '9') : Text.isLatinDigit c = true ∧ c ≠ '0' := by
  have hc : 49 ≤ c.toNat ∧ c.toNat ≤ 57 := by
    simpa [Char.le_def, UInt32.le_iff_toNat_le] using h
  constructor
  · simp only [Text.isLatinDigit, Char.isDigit, Bool.and_eq_true, decide_eq_true_eq,
      UInt32.le_iff_toNat_le, ge_iff_le]
    exact ⟨by change 48 ≤ c.toNat; omega, hc.2⟩
  · rintro rfl
    exact absurd hc.1 (by decide)

theorem IsPhoneText.mem (h : IsPhoneText cs) (hc : c ∈ cs) : c = '+' ∨ Text.isDecimal c = true := by
  obtain ⟨first, rest, rfl, hfirst, hrest, -⟩ := h
  rcases List.mem_cons.mp hc with rfl | hc
  · exact .inl rfl
  · rcases List.mem_cons.mp hc with rfl | hc
    · exact .inr (isDecimal_of_isLatinDigit (isLatinDigit_of_bounds hfirst).1)
    · exact .inr (hrest c hc)

/-- A number is not blank and has no placeholder in it, and no marks. -/
theorem IsPhoneText.sendable (h : IsPhoneText v.toList) : Sendable v ∧ unmarked v = v.toList := by
  refine ⟨⟨?_, fun path text htext hpart => ?_⟩, ?_⟩
  · obtain ⟨first, rest, hv, -⟩ := h
    rw [Text.isBlank, hv]
    rfl
  · have hbrace : '\x7b' ∈ text := by
      obtain ⟨before, after, -, -, -, rfl⟩ := htext
      simp
    rcases h.mem (hpart.subset hbrace) with hplus | hdecimal
    · exact absurd hplus (by decide)
    · exact absurd hdecimal (by decide)
  · refine List.filter_eq_self.mpr fun c hc => ?_
    rcases h.mem hc with rfl | hdecimal
    · rfl
    · rw [isPhoneMark_of_isDecimal hdecimal]
      rfl

/-- A number that is accepted is one of E.164 if and only if all its digits are ASCII digits. -/
theorem IsPhoneText.isE164_iff (h : IsPhoneText v.toList) :
    IsE164 v ↔ ∀ c ∈ v.toList, Text.isDecimal c = true → Text.isLatinDigit c = true := by
  constructor
  · rintro ⟨digits, hv, hdigits, -⟩ c hc hdecimal
    rw [hv] at hc
    rcases List.mem_cons.mp hc with rfl | hc
    · exact absurd hdecimal (by decide)
    · exact hdigits c hc
  · intro hlatin
    obtain ⟨first, rest, hv, hfirst, hrest, hshort, hlong⟩ := h
    obtain ⟨hdigit, hzero⟩ := isLatinDigit_of_bounds hfirst
    rw [hv] at hlatin
    refine ⟨first :: rest, hv, fun c hc => ?_, fun h => hzero (Option.some.inj h),
      Nat.succ_le_succ hshort, Nat.succ_le_succ hlong⟩
    refine hlatin c (List.mem_cons_of_mem _ hc) ?_
    rcases List.mem_cons.mp hc with rfl | hc
    · exact isDecimal_of_isLatinDigit hdigit
    · exact hrest c hc

/-! ## Numbers that are sent -/

/-- Every text is accepted or refused for good. It is accepted exactly if it can be sent and what is
left of it without its marks is a plus and seven to fifteen digits, the first of them from one to nine;
what is left is what goes out. Taken again, that goes out as it is, and it is a number of E.164 exactly
if the text has no digits but ASCII digits. -/
theorem phone_normalized (kind s : String) :
    ((∃ v, phone kind s = .ok v) ∨ ∃ detail, phone kind s = .error (.permanent kind detail)) ∧
    ∀ v, (phone kind s = .ok v ↔ Sendable s ∧ IsPhoneText (unmarked s) ∧ v.toList = unmarked s) ∧
      (phone kind s = .ok v → phone kind v = .ok v ∧
        (IsE164 v ↔ ∀ c ∈ s.toList, Text.isDecimal c = true → Text.isLatinDigit c = true)) := by
  refine ⟨phone_decides kind s, fun v => ⟨phone_eq_ok, fun h => ?_⟩⟩
  obtain ⟨-, hnumber, hv⟩ := phone_eq_ok.mp h
  rw [← hv] at hnumber
  obtain ⟨hsendable, hunmarked⟩ := hnumber.sendable
  refine ⟨phone_eq_ok.mpr ⟨hsendable, hunmarked.symm ▸ hnumber, hunmarked.symm⟩, ?_⟩
  rw [hnumber.isE164_iff, hv]
  -- What is filtered out are marks, and none of them is a digit.
  refine forall_congr' fun c => ?_
  simp only [unmarked, List.mem_filter, Bool.not_eq_true']
  exact ⟨fun h hc hdecimal => h ⟨hc, isPhoneMark_of_isDecimal hdecimal⟩ hdecimal, fun h hc => h hc.1⟩

/-- A number with marks goes out as one of E.164. -/
theorem phone_unmarked : phone "send_sms" "+1 (415) 555-0100" = .ok "+14155550100" ∧
    phone "send_sms" "+14155550100" = .ok "+14155550100" ∧ IsE164 "+14155550100" := by
  have hsent : phone "send_sms" "+1 (415) 555-0100" = .ok "+14155550100" := by decide +kernel
  obtain ⟨hagain, hlatin⟩ :=
    ((phone_normalized "send_sms" "+1 (415) 555-0100").2 "+14155550100").2 hsent
  have hdigits : ("+1 (415) 555-0100".toList.all fun c =>
      !Text.isDecimal c || Text.isLatinDigit c) = true := by
    decide +kernel
  refine ⟨hsent, hagain, hlatin.mpr fun c hc hdecimal => ?_⟩
  have hlatinDigit := List.all_eq_true.mp hdigits c hc
  rwa [hdecimal, Bool.not_true, Bool.false_or] at hlatinDigit

/-- A number that ends in an Arabic digit is sent, though it is none of E.164. -/
theorem phone_other_script :
    phone "send_sms" "+1234567\u0663" = .ok "+1234567\u0663" ∧ ¬IsE164 "+1234567\u0663" := by
  refine ⟨by decide +kernel, ?_⟩
  rintro ⟨digits, hdigits, hlatin, -⟩
  obtain rfl : digits = ['1', '2', '3', '4', '5', '6', '7', '\u0663'] :=
    (List.cons.inj hdigits).2.symm
  exact absurd (hlatin '\u0663' (by decide)) (by decide)

end Automation.Check
