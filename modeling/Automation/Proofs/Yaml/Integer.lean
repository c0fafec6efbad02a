import Automation.Proofs.Schema.Reading
import Automation.Proofs.Text.Class
import Automation.Proofs.Text.Digits
import Automation.Proofs.Text.Forward
import Automation.Proofs.Text.Splitting
import Automation.Yaml.Scalar

/-!
# Integers of YAML

What has the form of an integer is read as one, unless a part of it has too many digits or nothing but
fillers stands behind the mark of its base (`readInteger_unkept`).
-/

namespace Automation.Yaml

variable {base : Nat} {c : Char} {cs digits : List Char} {s : String} {fault : Fault}

/-! ## Digits -/

theorem isDigit_iff : c.isDigit = true ↔ 48 ≤ c.toNat ∧ c.toNat ≤ 57 := by
  simp [Char.isDigit, UInt32.le_iff_toNat_le]

/-- A property of the first characters can be checked one by one. -/
theorem forall_ascii {p : Char → Prop} (h : ∀ n : Fin 128, p (Char.ofNat n)) (hc : c.toNat < 128) :
    p c := by
  have hp := h ⟨c.toNat, hc⟩
  rwa [Char.ofNat_toNat] at hp

/-- What stands in a number of a base: letters and digits. -/
structure IsRun (base : Nat) (digits : List Char) : Prop where
  latin : ∀ c ∈ digits, c.isAlphanum = true
  valued : ∀ c ∈ digits, (digitValue? base c).isSome = true

theorem isNumberSpace_of_isAlphanum (h : c.isAlphanum = true) : Text.isNumberSpace c = false := by
  have hrange := Text.toNat_of_isAlphanum h
  have hsmall : c.toNat < 128 := by omega
  simp [Text.isNumberSpace, Text.isSpace, hsmall]
  omega

theorem takeSign_of_isAlphanum (h : ∀ c ∈ cs, c.isAlphanum = true) :
    Number.takeSign cs = (false, cs) := by
  unfold Number.takeSign
  split
  · exact absurd (h '-' List.mem_cons_self) (by decide)
  · exact absurd (h '+' List.mem_cons_self) (by decide)
  · rfl

theorem decimalValue?_of_isDigit (h : c.isDigit = true) : Text.decimalValue? c = some (c.toNat - 48) := by
  obtain ⟨hlow, hhigh⟩ := isDigit_iff.mp h
  have hsmall : c.toNat < 128 := by omega
  simp [Text.decimalValue?, hsmall, hlow, hhigh]

theorem isSome_digitValue? (h : c.isDigit = true) (hbase : c.toNat - 48 < base) :
    (digitValue? base c).isSome = true := by
  simp [digitValue?, decimalValue?_of_isDigit h, hbase]

theorem isAlphanum_of_isDigit (h : c.isDigit = true) : c.isAlphanum = true := by
  simp [Char.isAlphanum, h]

theorem isRun_decimal (h : ∀ c ∈ digits, c.isDigit = true) : IsRun 10 digits where
  latin c hc := isAlphanum_of_isDigit (h c hc)
  valued c hc := isSome_digitValue? (h c hc) (by have := isDigit_iff.mp (h c hc); omega)

theorem isRun_binary (h : ∀ c ∈ digits, c = '0' ∨ c = '1') : IsRun 2 digits where
  latin c hc := by rcases h c hc with rfl | rfl <;> rfl
  valued c hc := by rcases h c hc with rfl | rfl <;> rfl

theorem isRun_octal (h : ∀ c ∈ digits, '0' ≤ c ∧ c ≤ '7') : IsRun 8 digits := by
  have hdigit {c : Char} (hc : '0' ≤ c ∧ c ≤ '7') : c.isDigit = true ∧ c.toNat - 48 < 8 := by
    simp only [Char.le_def, UInt32.le_iff_toNat_le] at hc
    change 48 ≤ c.toNat ∧ c.toNat ≤ 55 at hc
    rw [isDigit_iff]
    omega
  exact ⟨fun c hc => isAlphanum_of_isDigit (hdigit (h c hc)).1,
    fun c hc => isSome_digitValue? (hdigit (h c hc)).1 (hdigit (h c hc)).2⟩

theorem isRun_hex (h : ∀ c ∈ digits, isHexDigit c = true) : IsRun 16 digits := by
  have hsmall {c : Char} (hc : isHexDigit c = true) : c.toNat < 128 := by
    simp [isHexDigit, isDigit_iff, Char.le_def, UInt32.le_iff_toNat_le] at hc
    omega
  have hall : ∀ n : Fin 128, isHexDigit (Char.ofNat n) = true →
      (Char.ofNat n).isAlphanum = true ∧ (digitValue? 16 (Char.ofNat n)).isSome = true := by
    decide +kernel
  have hdigit (c : Char) (hc : c ∈ digits) :=
    forall_ascii (p := fun c => isHexDigit c = true → c.isAlphanum = true ∧
      (digitValue? 16 c).isSome = true) hall (hsmall (h c hc)) (h c hc)
  exact ⟨fun c hc => (hdigit c hc).1, fun c hc => (hdigit c hc).2⟩

/-- Digits of a base do not begin with the mark of it, whose letter is none of them. -/
theorem IsRun.dropBaseMark_eq (h : IsRun base digits) : dropBaseMark base digits = digits := by
  unfold dropBaseMark
  split
  · rename_i mark rest
    have hall : ∀ n : Fin 128, ∀ entry ∈ [(2, 'b'), (8, 'o'), (16, 'x')],
        (Char.ofNat n).toLower = entry.2 → digitValue? entry.1 (Char.ofNat n) = none := by
      decide +kernel
    have hmem : mark ∈ '0' :: mark :: rest := List.mem_cons_of_mem _ List.mem_cons_self
    have hsmall : mark.toNat < 128 := by
      have := Text.toNat_of_isAlphanum (h.latin mark hmem)
      omega
    refine if_neg fun hmark => ?_
    have hnone := forall_ascii (p := fun c => ∀ entry ∈ [(2, 'b'), (8, 'o'), (16, 'x')],
      c.toLower = entry.2 → digitValue? entry.1 c = none) hall hsmall
      (base, mark.toLower) (by simpa using hmark) rfl
    have hvalued := h.valued mark hmem
    rw [hnone] at hvalued
    cases hvalued
  · rfl

/-- Digits of a base are read, unless there are none or they are decimal and too many. -/
theorem readInt_run (hrun : IsRun base digits) :
    readInt base (String.ofList digits) =
      if base = 10 && Number.digitLimit < digits.length then .error (.longInteger digits.length)
      else if digits.isEmpty then .error (.noInteger base "")
      else .ok (natOfDigits base digits) := by
  have hstrip : Text.stripNumber (String.ofList digits) = digits :=
    Text.stripNumber_ofList fun c hc => isNumberSpace_of_isAlphanum (hrun.latin c hc)
  have htaken : (digits.takeWhile fun c => (digitValue? base c).isSome) = digits :=
    List.takeWhile_eq_self_iff.mpr hrun.valued
  unfold readInt
  rw [hstrip, takeSign_of_isAlphanum hrun.latin]
  dsimp only
  rw [hrun.dropBaseMark_eq, htaken]
  cases digits <;> simp

/-! ## Integers -/

/-- What is left of a number without the fillers. -/
def kept (cs : List Char) : List Char := cs.filter (· != '_')

theorem kept_cons (hc : c ≠ '_') : kept (c :: cs) = c :: kept cs :=
  List.filter_cons_of_pos (by simpa using hc)

theorem isSign_cases (cs : List Char) :
    (∃ sign, (sign = '-' ∨ sign = '+') ∧ cs = sign :: dropSign cs) ∨ dropSign cs = cs := by
  unfold dropSign
  split
  · exact .inl ⟨'-', .inl rfl, rfl⟩
  · exact .inl ⟨'+', .inr rfl, rfl⟩
  · exact .inr rfl

/-- The fillers may be left out before or after the sign. -/
theorem dropSign_kept (h : ∃ c rest, dropSign cs = c :: rest ∧ c ≠ '_' ∧ c ≠ '-' ∧ c ≠ '+') :
    dropSign (kept cs) = kept (dropSign cs) := by
  obtain ⟨c, rest, hdrop, hfill, hminus, hplus⟩ := h
  obtain ⟨sign, rfl | rfl, hcs⟩ | hcs := isSign_cases cs
  · rw [hcs, kept_cons (by decide)]
    rfl
  · rw [hcs, kept_cons (by decide)]
    rfl
  · rw [hcs] at hdrop ⊢
    rw [hdrop, kept_cons hfill]
    unfold dropSign
    split
    · rename_i heq
      exact absurd (List.cons.inj heq).1 hminus
    · rename_i heq
      exact absurd (List.cons.inj heq).1 hplus
    · rfl

theorem kept_ne_nil (h : ∃ c rest, cs = c :: rest ∧ c ≠ '_') : kept cs ≠ [] := by
  obtain ⟨c, rest, rfl, hfill⟩ := h
  rw [kept_cons hfill]
  exact List.cons_ne_nil _ _

/-- A result that is only put into place has the errors that it had before. -/
theorem error_of_bind_pure {ε α β : Type} {x : Except ε α} {f : α → β} {e : ε}
    (h : (do let a ← x; pure (f a)) = .error e) : x = .error e := by
  rcases Except.bind_eq_error.mp h with h | ⟨a, -, h⟩
  · exact h
  · cases h

/-- A digit is kept. -/
theorem mem_kept : c ∈ kept cs ↔ c ∈ cs ∧ c ≠ '_' := by simp [kept]

theorem kept_digits (h : ∀ c ∈ cs, isDigitOrFill c = true) : ∀ c ∈ kept cs, c.isDigit = true := by
  intro c hc
  obtain ⟨hc, hfill⟩ := mem_kept.mp hc
  simpa [isDigitOrFill, hfill] using h c hc

theorem ne_fill_of_isDigit (h : c.isDigit = true) : c ≠ '_' ∧ c ≠ '-' ∧ c ≠ '+' ∧ c ≠ ':' ∧ c ≠ '.' := by
  refine ⟨?_, ?_, ?_, ?_, ?_⟩ <;> (rintro rfl; revert h; decide)

/-- The digits of a part of an integer: there is one at least. -/
structure IsPart (part : List Char) : Prop where
  digits : ∀ c ∈ part, c.isDigit = true
  nonempty : part ≠ []

theorem isDigits_iff : isDigits cs = true ↔
    (∃ c rest, cs = c :: rest ∧ c.isDigit = true) ∧ ∀ c ∈ cs, isDigitOrFill c = true := by
  cases cs with
  | nil => simp [isDigits]
  | cons c rest => simp +contextual [isDigits, isDigitOrFill]

theorem isPart_of_isDigits (h : isDigits cs = true) : IsPart (kept cs) := by
  obtain ⟨⟨c, rest, hcs, hc⟩, hall⟩ := isDigits_iff.mp h
  exact ⟨kept_digits hall, kept_ne_nil ⟨c, rest, hcs, (ne_fill_of_isDigit hc).1⟩⟩

theorem isPart_of_isSixtieth (h : isSixtieth cs = true) : IsPart (kept cs) := by
  have hpart (hdigits : ∀ c ∈ cs, c.isDigit = true) (hne : cs ≠ []) : IsPart (kept cs) := by
    obtain ⟨c, rest, rfl⟩ := List.exists_cons_of_ne_nil hne
    exact ⟨kept_digits fun d hd => by simp [isDigitOrFill, hdigits d hd],
      kept_ne_nil ⟨c, rest, rfl, (ne_fill_of_isDigit (hdigits c List.mem_cons_self)).1⟩⟩
  unfold isSixtieth at h
  split at h
  · exact hpart (by simpa using h) (List.cons_ne_nil _ _)
  · rename_i c d
    simp only [Bool.and_eq_true, decide_eq_true_eq] at h
    have hc : c.isDigit = true := by
      have hlow := h.1.1
      have hhigh := h.1.2
      simp only [Char.le_def, UInt32.le_iff_toNat_le] at hlow hhigh
      change 48 ≤ c.toNat at hlow
      change c.toNat ≤ 53 at hhigh
      rw [isDigit_iff]
      omega
    exact hpart (by simp [hc, h.2]) (List.cons_ne_nil _ _)
  · cases h

/-- The parts of a number in sixtieths, or of one without. -/
theorem isPart_of_mem {part : List Char} (h : isDigits cs = true ∨ isSexagesimal cs = true)
    (hpart : part ∈ Text.splitOn ':' cs) : IsPart (kept part) := by
  rcases h with h | h
  · have hcolon : ':' ∉ cs := fun hmem => absurd ((isDigits_iff.mp h).2 ':' hmem) (by decide)
    rw [Text.splitOn_of_notMem hcolon, List.mem_singleton] at hpart
    exact hpart ▸ isPart_of_isDigits h
  · unfold isSexagesimal at h
    split at h
    · rename_i head next parts heq
      rw [Bool.and_eq_true, List.all_eq_true] at h
      rw [heq] at hpart
      rcases List.mem_cons.mp hpart with rfl | hpart
      · exact isPart_of_isDigits h.1
      · exact isPart_of_isSixtieth (h.2 part hpart)
    · cases h

/-- A number without a mark of a base begins with a digit. -/
theorem exists_cons_of_parts (h : isDigits cs = true ∨ isSexagesimal cs = true) :
    ∃ c rest, cs = c :: rest ∧ c.isDigit = true := by
  rcases h with h | h
  · exact (isDigits_iff.mp h).1
  · unfold isSexagesimal at h
    split at h
    · rename_i head next parts heq
      rw [Bool.and_eq_true] at h
      obtain ⟨⟨c, rest, rfl, hc⟩, -⟩ := isDigits_iff.mp h.1
      cases cs with
      | nil => cases heq
      | cons d cs =>
        obtain ⟨rfl, hsplit⟩ | ⟨-, piece, pieces, -, hsplit⟩ := Text.splitOn_cases ':' d cs
        · cases hsplit.symm.trans heq
        · cases hsplit.symm.trans heq
          exact ⟨c, cs, rfl, hc⟩
    · cases h

/-- A part has a value, unless its digits are too many. -/
theorem readInt_part {part : List Char} (h : IsPart part)
    (herror : readInt 10 (String.ofList part) = .error fault) :
    Number.digitLimit < part.length ∧ fault = .longInteger part.length := by
  rw [readInt_run (isRun_decimal h.digits)] at herror
  split at herror
  · rename_i hlong
    cases herror
    exact ⟨by simpa using hlong, rfl⟩
  · split at herror
    · rename_i hempty
      exact absurd (List.isEmpty_iff.mp hempty) h.nonempty
    · cases herror

/-- A run of a base other than ten has a value, unless it is empty. -/
theorem readInt_marked (hrun : IsRun base digits) (hbase : base ≠ 10)
    (herror : readInt base (String.ofList digits) = .error fault) :
    digits = [] ∧ fault = .noInteger base "" := by
  rw [readInt_run hrun] at herror
  split at herror
  · rename_i hlong
    simp [hbase] at hlong
  · split at herror
    · rename_i hempty
      cases herror
      exact ⟨List.isEmpty_iff.mp hempty, rfl⟩
    · cases herror

/-- The forms of integers. -/
inductive IntegerForm : List Char → Prop where
  | binary {fill : List Char} (h : ∀ c ∈ fill, c = '0' ∨ c = '1' ∨ c = '_') :
    IntegerForm ('0' :: 'b' :: fill)
  | hex {fill : List Char} (h : ∀ c ∈ fill, isHexDigit c = true ∨ c = '_') :
    IntegerForm ('0' :: 'x' :: fill)
  | octal {fill : List Char} (h : ∀ c ∈ fill, ('0' ≤ c ∧ c ≤ '7') ∨ c = '_') : IntegerForm ('0' :: fill)
  | parts {cs : List Char} (hzero : cs.head? ≠ some '0')
    (h : isDigits cs = true ∨ isSexagesimal cs = true) : IntegerForm cs

theorem integerForm_of_isInteger (h : isInteger cs = true) : IntegerForm (dropSign cs) := by
  unfold isInteger at h
  split at h
  · rename_i heq
    rw [heq]
    exact .octal nofun
  · rename_i heq
    rw [heq]
    simp only [Bool.and_eq_true, List.all_eq_true, Bool.or_eq_true, beq_iff_eq, or_assoc] at h
    exact .binary h.2
  · rename_i heq
    rw [heq]
    simp only [Bool.and_eq_true, List.all_eq_true, Bool.or_eq_true, beq_iff_eq] at h
    exact .hex h.2
  · rename_i heq
    rw [heq]
    exact .octal (by simpa using h)
  · rename_i hzero
    refine .parts (fun hhead => ?_) (by simpa using h)
    obtain ⟨rest, heq⟩ := List.head?_eq_some_iff.mp hhead
    exact hzero rest heq

/-- The digits of a base that is marked, but for fillers. -/
theorem IntegerForm.exists_cons (h : IntegerForm cs) :
    ∃ c rest, cs = c :: rest ∧ c ≠ '_' ∧ c ≠ '-' ∧ c ≠ '+' := by
  cases h with
  | binary h | hex h | octal h => exact ⟨'0', _, rfl, by decide, by decide, by decide⟩
  | parts hzero h =>
    obtain ⟨c, rest, rfl, hc⟩ := exists_cons_of_parts h
    obtain ⟨hfill, hminus, hplus, -⟩ := ne_fill_of_isDigit hc
    exact ⟨c, rest, rfl, hfill, hminus, hplus⟩

theorem eq_fill_of_kept (h : kept cs = []) : ∀ c ∈ cs, c = '_' := by
  simpa [kept] using h

/-- An integer has a value, unless it has nothing but fillers behind the mark of its base, or a part of it
too many digits. -/
theorem readInteger_unkept (hform : isInteger s.toList = true)
    (herror : readInteger s = .error fault) :
    (∃ base mark fill, dropSign s.toList = '0' :: mark :: fill ∧ (∀ c ∈ fill, c = '_') ∧
      fault = .noInteger base "") ∨
    ∃ count, Number.LongRun (kept s.toList) count ∧ fault = .longInteger count := by
  have hform := integerForm_of_isInteger hform
  obtain ⟨c, rest, hdrop, hfill, hsign⟩ := hform.exists_cons
  have hbody := dropSign_kept ⟨c, rest, hdrop, hfill, hsign⟩
  have hne : kept s.toList ≠ [] := by
    intro hnil
    rw [hnil, hdrop, kept_cons hfill] at hbody
    cases hbody
  unfold readInteger at herror
  dsimp only at herror
  rw [show s.toList.filter (· != '_') = kept s.toList from rfl, if_neg (by simpa using hne),
    hbody] at herror
  have hrun : ∀ part ∈ Text.splitOn ':' (kept (dropSign s.toList)), part <:+: kept s.toList := by
    intro part hpart
    have hdropped : kept (dropSign s.toList) <:+: kept s.toList := by
      obtain ⟨sign, -, hs⟩ | hs := isSign_cases s.toList
      · have hrest := (List.suffix_cons sign (dropSign s.toList)).isInfix.filter (· != '_')
        rwa [← hs] at hrest
      · rw [hs]
    exact (Text.isInfix_of_mem_splitOn hpart).trans hdropped
  clear hdrop hfill hsign
  generalize dropSign s.toList = body at *
  cases hform with
  | @binary fill h =>
    rw [kept_cons (by decide), kept_cons (by decide)] at herror
    have hrun : IsRun 2 (kept fill) := isRun_binary fun c hc => by
      obtain ⟨hc, hfill⟩ := mem_kept.mp hc
      rcases h c hc with hc | hc | hc
      · exact .inl hc
      · exact .inr hc
      · exact absurd hc hfill
    obtain ⟨hnil, hfault⟩ := readInt_marked hrun (by decide) (error_of_bind_pure herror)
    exact .inl ⟨2, 'b', fill, rfl, eq_fill_of_kept hnil, hfault⟩
  | @hex fill h =>
    rw [kept_cons (by decide), kept_cons (by decide)] at herror
    have hrun : IsRun 16 (kept fill) := isRun_hex fun c hc => by
      obtain ⟨hc, hfill⟩ := mem_kept.mp hc
      exact (h c hc).resolve_right hfill
    obtain ⟨hnil, hfault⟩ := readInt_marked hrun (by decide) (error_of_bind_pure herror)
    exact .inl ⟨16, 'x', fill, rfl, eq_fill_of_kept hnil, hfault⟩
  | @octal fill h =>
    rw [kept_cons (by decide)] at herror
    have hdigit : ∀ c ∈ kept fill, '0' ≤ c ∧ c ≤ '7' := fun c hc => by
      obtain ⟨hc, hfill⟩ := mem_kept.mp hc
      exact (h c hc).resolve_right hfill
    generalize kept fill = run at *
    cases run with
    | nil => cases herror
    | cons d rest =>
      have hd := hdigit d List.mem_cons_self
      have hrun : IsRun 8 ('0' :: d :: rest) :=
        isRun_octal (List.forall_mem_cons.mpr ⟨by decide, hdigit⟩)
      split at herror
      · rename_i heq
        cases heq
      · rename_i heq
        cases heq
      · rename_i heq
        cases heq
        exact absurd hd (by decide)
      · rename_i heq
        cases heq
        exact absurd hd (by decide)
      · rename_i heq
        cases heq
        exact absurd (readInt_marked hrun (by decide) (error_of_bind_pure herror)).1
          (List.cons_ne_nil _ _)
      · rename_i hzero
        exact absurd rfl (hzero _)
  | parts hzero h =>
    obtain ⟨c, rest, rfl, hc⟩ := exists_cons_of_parts h
    have hkept : kept (c :: rest) = c :: kept rest := kept_cons (ne_fill_of_isDigit hc).1
    have hnonzero : c ≠ '0' := fun heq => hzero (congrArg some heq)
    have hparts : ((Text.splitOn ':' (kept (c :: rest))).mapM fun part =>
        readInt 10 (String.ofList part)) = .error fault := by
      rw [hkept] at herror ⊢
      split at herror
      · rename_i heq
        cases heq
      · rename_i heq
        exact absurd (List.cons.inj heq).1 hnonzero
      · rename_i heq
        exact absurd (List.cons.inj heq).1 hnonzero
      · rename_i heq
        exact absurd (List.cons.inj heq).1 hnonzero
      · rename_i heq
        exact absurd (List.cons.inj heq).1 hnonzero
      · exact error_of_bind_pure herror
    obtain ⟨part, hmem, hpart⟩ := Except.exists_of_mapM_error hparts
    have hstands := hrun part hmem
    rw [kept, Text.splitOn_filter (by decide)] at hmem
    obtain ⟨written, hwritten, heq⟩ := List.mem_map.mp hmem
    have hdigits : IsPart part := heq ▸ isPart_of_mem h hwritten
    obtain ⟨hlong, hfault⟩ := readInt_part hdigits hpart
    exact .inr ⟨part.length, ⟨part, hstands, hdigits.digits, hlong, rfl⟩, hfault⟩

end Automation.Yaml
