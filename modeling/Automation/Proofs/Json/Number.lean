import Automation.Json.Reader
import Automation.Json.Writer
import Automation.Proofs.Number.Shortest
import Automation.Proofs.Time.Digits

/-!
# Numbers in JSON text

An integer of not too many digits and a finite float are read as they were written
(`readNumber?_int`, `readNumber?_float`), whatever stands behind them that does not go on with a number.
-/

namespace Automation

/-! ## Digits -/

namespace Number

/-- Digits without a needless zero in front. -/
structure Whole (cs : List Char) : Prop where
  digits : ∀ c ∈ cs, Text.isLatinDigit c = true
  nonempty : cs ≠ []
  leading : cs.head? = some '0' → cs = ['0']

theorem toDigits_digits (n : Nat) : ∀ c ∈ Nat.toDigits 10 n, Text.isLatinDigit c = true :=
  fun _ hc => Nat.isDigit_of_mem_toDigits (by decide) (by decide) hc

theorem toDigits_head {n : Nat} (hn : 0 < n) : (Nat.toDigits 10 n).head? ≠ some '0' := by
  induction n using Nat.strongRecOn with
  | ind n ih =>
    by_cases h : n < 10
    · rw [Nat.toDigits_of_lt_base h]
      have hall : ∀ i : Fin 10, 0 < i.val → [Nat.digitChar i].head? ≠ some '0' := by decide
      exact hall ⟨n, h⟩ hn
    · rw [Nat.toDigits_of_base_le (by decide) (by omega)]
      have hhead := ih (n / 10) (by omega) (by omega)
      have hne := Nat.toDigits_ne_nil (b := 10) (n := n / 10)
      rwa [List.head?_append_of_ne_nil _ hne]

theorem whole_zero : Whole ['0'] := ⟨List.forall_mem_singleton.mpr rfl, nofun, fun _ => rfl⟩

theorem toDigits_whole (n : Nat) : Whole (Nat.toDigits 10 n) where
  digits := toDigits_digits n
  nonempty := Nat.toDigits_ne_nil
  leading h := by
    rcases Nat.eq_zero_or_pos n with rfl | hn
    · rfl
    · exact absurd h (toDigits_head hn)

end Number

namespace Json

open Number

/-! ## The parts of a number -/

/-- What stands behind a number does not go on with it. -/
def Stops (rest : List Char) : Prop :=
  ∀ c ∈ rest.head?, Text.isLatinDigit c = false ∧ c ≠ '.' ∧ c ≠ 'e' ∧ c ≠ 'E'

variable {cs whole fraction rest : List Char}

theorem span_digits (hcs : ∀ c ∈ cs, Text.isLatinDigit c = true)
    (hrest : ∀ c ∈ rest.head?, Text.isLatinDigit c = false) :
    (cs ++ rest).span Text.isLatinDigit = (cs, rest) := by
  rw [List.span_eq_takeWhile_dropWhile, List.takeWhile_append_of_pos hcs,
    List.dropWhile_append_of_pos hcs]
  cases rest with
  | nil => simp
  | cons c rest =>
    have hc := hrest c rfl
    simp [hc]

theorem takeWhole_append (hwhole : Whole whole)
    (hrest : ∀ c ∈ rest.head?, Text.isLatinDigit c = false) :
    takeWhole (whole ++ rest) = (whole, rest) := by
  unfold takeWhole
  split
  · rename_i rest' heq
    obtain ⟨c, cs, rfl⟩ := List.exists_cons_of_ne_nil hwhole.nonempty
    obtain ⟨rfl, rfl⟩ := List.cons.inj heq
    obtain ⟨-, rfl⟩ := List.cons.inj (hwhole.leading rfl)
    rfl
  · exact span_digits hwhole.digits hrest

theorem takeFraction_point (hne : fraction ≠ [])
    (hdigits : ∀ c ∈ fraction, Text.isLatinDigit c = true)
    (hrest : ∀ c ∈ rest.head?, Text.isLatinDigit c = false) :
    takeFraction ('.' :: (fraction ++ rest)) = (fraction, rest) := by
  simp only [takeFraction, span_digits hdigits hrest]
  rw [if_neg (by simpa using hne)]

theorem takeFraction_none (hrest : ∀ c ∈ rest.head?, c ≠ '.') : takeFraction rest = ([], rest) := by
  unfold takeFraction
  split
  · exact absurd rfl (hrest '.' rfl)
  · rfl

theorem takePower_none (hrest : ∀ c ∈ rest.head?, c ≠ 'e' ∧ c ≠ 'E') :
    takePower rest = (none, rest) := by
  cases rest with
  | nil => rfl
  | cons c rest =>
    obtain ⟨he, hE⟩ := hrest c rfl
    simp [takePower, he, hE]

/-- An exponent as it is written. -/
def powerText (power : Int) : List Char :=
  'e' :: (if power < 0 then '-' else '+') :: (padded 2 power.natAbs).toList

theorem takePower_text (power : Int) (hrest : ∀ c ∈ rest.head?, Text.isLatinDigit c = false) :
    takePower (powerText power ++ rest) = (some power, rest) := by
  have hnumber : readNat? (padded 2 power.natAbs).toList = some power.natAbs := by
    have hvalue := padded_value 2 power.natAbs
    rw [readNat?, if_neg, hvalue]
    intro hempty
    rw [padded_toList, List.isEmpty_iff, List.append_eq_nil_iff] at hempty
    exact Nat.toDigits_ne_nil hempty.2
  have hspan := span_digits (padded_digits 2 power.natAbs) hrest
  by_cases hnegative : power < 0
  · have habs : -(power.natAbs : Int) = power := by omega
    simp only [powerText, if_pos hnegative, List.cons_append, takePower, takeSign, hspan, hnumber]
    exact congrArg (some ·, rest) habs
  · have habs : (power.natAbs : Int) = power := by omega
    simp only [powerText, if_neg hnegative, List.cons_append, takePower, takeSign, hspan, hnumber]
    exact congrArg (some ·, rest) habs

/-- A fraction as it is written, if there is one. -/
def pointed (fraction : List Char) : List Char := if fraction = [] then [] else '.' :: fraction

theorem takeFraction_pointed (hdigits : ∀ c ∈ fraction, Text.isLatinDigit c = true)
    (hrest : ∀ c ∈ rest.head?, Text.isLatinDigit c = false ∧ c ≠ '.') :
    takeFraction (pointed fraction ++ rest) = (fraction, rest) := by
  unfold pointed
  split
  · rename_i hempty
    subst hempty
    exact takeFraction_none fun c hc => (hrest c hc).2
  · rename_i hne
    exact takeFraction_point hne hdigits fun c hc => (hrest c hc).1

/-- The texts of a natural number times a power of ten that are told from integers. -/
inductive Writes : List Char → Nat → Int → Prop where
  | positional {whole fraction : List Char} {n : Nat} (hwhole : Whole whole) (hne : fraction ≠ [])
      (hdigits : ∀ c ∈ fraction, Text.isLatinDigit c = true)
      (hvalue : Text.natOfDigits? (whole ++ fraction) = some n) :
      Writes (whole ++ pointed fraction) n (0 - fraction.length)
  | scientific {whole fraction : List Char} {n : Nat} (power : Int) (hwhole : Whole whole)
      (hdigits : ∀ c ∈ fraction, Text.isLatinDigit c = true)
      (hvalue : Text.natOfDigits? (whole ++ fraction) = some n) :
      Writes (whole ++ (pointed fraction ++ powerText power)) n (power - fraction.length)

/-- A sign as it is written. -/
def signText (negative : Bool) : List Char := if negative then ['-'] else []

theorem takeMinus_append (negative : Bool) (hwhole : Whole whole) :
    takeMinus (signText negative ++ (whole ++ rest)) = (negative, whole ++ rest) := by
  cases negative with
  | true => rfl
  | false =>
    obtain ⟨c, cs, rfl⟩ := List.exists_cons_of_ne_nil hwhole.nonempty
    have hc := hwhole.digits c List.mem_cons_self
    unfold takeMinus
    split
    · rename_i heq
      obtain ⟨rfl, -⟩ := List.cons.inj heq
      cases hc
    · rfl

/-- A number is read part by part. -/
theorem readNumber?_parts (negative : Bool) {rest₁ rest₂ : List Char} {power : Option Int}
    (hwhole : Whole whole) (hrest : ∀ c ∈ rest₁.head?, Text.isLatinDigit c = false)
    (hfraction : takeFraction rest₁ = (fraction, rest₂)) (hpower : takePower rest₂ = (power, rest)) :
    readNumber? (signText negative ++ (whole ++ rest₁)) =
      if fraction.isEmpty && power.isNone then
        if digitLimit < whole.length then some (.error whole.length, rest)
        else
          let n : Int := (Text.natOfDigits? whole).getD 0
          some (.ok (.int (if negative then -n else n)), rest)
      else
        let digits := (Text.natOfDigits? (whole ++ fraction)).getD 0
        let x := floatOfDecimal negative digits (power.getD 0 - fraction.length)
        some (.ok (.float x), rest) := by
  unfold readNumber?
  simp only [takeMinus_append negative hwhole, takeWhole_append hwhole hrest, hfraction, hpower]
  rw [if_neg (by simpa using hwhole.nonempty)]

theorem readNumber?_writes (negative : Bool) {n : Nat} {power : Int} (h : Writes cs n power)
    (hrest : Stops rest) : readNumber? (signText negative ++ (cs ++ rest))
      = some (.ok (.float (floatOfDecimal negative n power)), rest) := by
  cases h with
  | @positional whole fraction n hwhole hne hdigits hvalue =>
    have hpoint : ∀ c ∈ (pointed fraction ++ rest).head?, Text.isLatinDigit c = false := by
      rw [pointed, if_neg hne]
      rintro c ⟨⟩
      rfl
    rw [List.append_assoc, readNumber?_parts negative hwhole hpoint
      (takeFraction_pointed hdigits fun c hc => ⟨(hrest c hc).1, (hrest c hc).2.1⟩)
      (takePower_none fun c hc => (hrest c hc).2.2)]
    rw [if_neg (by simpa using hne), hvalue]
    rfl
  | @scientific whole fraction n power hwhole hdigits hvalue =>
    have hpower : ∀ c ∈ (powerText power ++ rest).head?, Text.isLatinDigit c = false ∧ c ≠ '.' := by
      rintro c ⟨⟩
      decide
    have hpoint : ∀ c ∈ (pointed fraction ++ (powerText power ++ rest)).head?,
        Text.isLatinDigit c = false := by
      unfold pointed
      split
      · exact fun c hc => (hpower c hc).1
      · rintro c ⟨⟩
        rfl
    rw [List.append_assoc, List.append_assoc, readNumber?_parts negative hwhole hpoint
      (takeFraction_pointed hdigits hpower) (takePower_text power fun c hc => (hrest c hc).1)]
    rw [if_neg (by simp), hvalue]
    rfl

/-- A text writes a rational number. -/
def WritesValue (cs : List Char) (q : ℚ) : Prop :=
  ∃ n power, Writes cs n power ∧ (n : ℚ) * 10 ^ power = q

theorem WritesValue.positional {n : Nat} {q : ℚ} (hwhole : Whole whole) (hne : fraction ≠ [])
    (hdigits : ∀ c ∈ fraction, Text.isLatinDigit c = true)
    (hvalue : Text.natOfDigits? (whole ++ fraction) = some n)
    (hq : n * 10 ^ (0 - (fraction.length : Int)) = q) :
    WritesValue (whole ++ '.' :: fraction) q := by
  rw [show '.' :: fraction = pointed fraction from (if_neg hne).symm]
  exact ⟨n, _, .positional hwhole hne hdigits hvalue, hq⟩

/-! ## Floats -/

/-- The digits of a rational number, and where its point stands relative to the first of them. -/
structure Significant (cs : List Char) (n : Nat) (point : Int) (q : ℚ) : Prop where
  digits : ∀ c ∈ cs, Text.isLatinDigit c = true
  nonempty : cs ≠ []
  leading : cs.head? ≠ some '0'
  number : Text.natOfDigits? cs = some n
  value : n * 10 ^ (point - cs.length) = q

theorem exists_significant (d : Decimal) (hd : 0 < d.digits) :
    ∃ n, Significant (Text.stripBack (· == '0') (Nat.toDigits 10 d.digits)) n
      ((Nat.toDigits 10 d.digits).length + d.exponent) d.value := by
  obtain ⟨back, hsplit, hback⟩ := Text.stripBack_append (· == '0') (Nat.toDigits 10 d.digits)
  generalize Text.stripBack (· == '0') (Nat.toDigits 10 d.digits) = cs at *
  have hzeros : back = List.replicate back.length '0' :=
    List.eq_replicate_iff.mpr ⟨rfl, fun c hc => by simpa using hback c hc⟩
  have hhead := toDigits_head hd
  have hdigits := toDigits_digits d.digits
  have hnumber := Text.natOfDigits?_toDigits d.digits
  have hne : cs ≠ [] := by
    rintro rfl
    have hfull := Nat.toDigits_ne_nil (b := 10) (n := d.digits)
    rw [hsplit, List.nil_append] at hhead hfull
    rw [hzeros] at hhead
    cases hlength : back.length with
    | zero => exact hfull (List.eq_nil_of_length_eq_zero hlength)
    | succ k =>
      rw [hlength] at hhead
      exact hhead rfl
  have hcs : ∀ c ∈ cs, Text.isLatinDigit c = true := fun c hc =>
    hdigits c (hsplit ▸ List.mem_append_left back hc)
  obtain ⟨n, -, hn⟩ := Text.natOfDigits?_latin hcs
  refine ⟨n, hcs, hne, ?_, hn, ?_⟩
  · rwa [hsplit, List.head?_append_of_ne_nil _ hne] at hhead
  · rw [hsplit, hzeros, Text.natOfDigits?_snoc_zeros hn] at hnumber
    have hvalue := Option.some.inj hnumber
    rw [hsplit, Decimal.value, ← hvalue, List.length_append]
    push_cast
    rw [show (cs.length : Int) + back.length + d.exponent - cs.length = back.length + d.exponent by
      omega, zpow_add₀ (by norm_num), zpow_natCast, mul_assoc]

namespace Significant

variable {n k : Nat} {point : Int} {q : ℚ}

/-- Below one: zeros stand between the point and the digits. -/
theorem writes_below (h : Significant cs n point q) (hpoint : point ≤ 0) :
    WritesValue (['0'] ++ '.' :: (List.replicate (-point).toNat '0' ++ cs)) q := by
  refine .positional (n := n) whole_zero (by simp [h.nonempty]) ?_ ?_ ?_
  · intro c hc
    rcases List.mem_append.mp hc with hc | hc
    · rw [List.eq_of_mem_replicate hc]
      rfl
    · exact h.digits c hc
  · exact (Text.natOfDigits?_zeros ((-point).toNat + 1) cs).trans h.number
  · rw [← h.value, List.length_append, List.length_replicate]
    congr 2
    omega

/-- The point stands among the digits. -/
theorem writes_among (h : Significant cs n k q) (hk : 1 ≤ k) (hlong : k < cs.length) :
    WritesValue (cs.take k ++ '.' :: cs.drop k) q := by
  have htake : (cs.take k).length = k := List.length_take_of_le hlong.le
  refine .positional (n := n) ⟨fun c hc => h.digits c (List.mem_of_mem_take hc), ?_, ?_⟩
    (by simpa using hlong) (fun c hc => h.digits c (List.mem_of_mem_drop hc)) ?_ ?_
  · exact List.ne_nil_of_length_pos (by omega)
  · intro hzero
    rw [List.head?_take, if_neg (by omega)] at hzero
    exact absurd hzero h.leading
  · rw [List.take_append_drop]
    exact h.number
  · rw [← h.value, List.length_drop]
    congr 2
    omega

/-- All digits are in front of the point, perhaps with zeros behind them. -/
theorem writes_above (h : Significant cs n k q) (hshort : cs.length ≤ k) :
    WritesValue (cs ++ List.replicate (k - cs.length) '0' ++ ['.', '0']) q := by
  refine .positional (n := n * 10 ^ (k - cs.length + 1)) ⟨?_, ?_, ?_⟩ (List.cons_ne_nil '0' [])
    (List.forall_mem_singleton.mpr rfl) ?_ ?_
  · intro c hc
    rcases List.mem_append.mp hc with hc | hc
    · exact h.digits c hc
    · rw [List.eq_of_mem_replicate hc]
      rfl
  · simp [h.nonempty]
  · intro hzero
    rw [List.head?_append_of_ne_nil _ h.nonempty] at hzero
    exact absurd hzero h.leading
  · have hnumber := Text.natOfDigits?_snoc_zeros h.number (k - cs.length + 1)
    rwa [List.replicate_succ', ← List.append_assoc] at hnumber
  · rw [← h.value]
    push_cast
    rw [mul_assoc, ← zpow_natCast, ← zpow_add₀ (by norm_num)]
    congr 2
    simp only [List.length_singleton]
    omega

/-- With an exponent: one digit is in front of the point. -/
theorem writes_scientific (h : Significant cs n point q) :
    WritesValue (cs.take 1 ++ (pointed (cs.drop 1) ++ powerText (point - 1))) q := by
  have hlength := List.length_pos_of_ne_nil h.nonempty
  have htake : (cs.take 1).length = 1 := List.length_take_of_le hlength
  refine ⟨n, _, .scientific (point - 1) ⟨fun c hc => h.digits c (List.mem_of_mem_take hc), ?_, ?_⟩
    (fun c hc => h.digits c (List.mem_of_mem_drop hc)) ?_, ?_⟩
  · exact List.ne_nil_of_length_pos (by omega)
  · intro hzero
    rw [List.head?_take, if_neg (by omega)] at hzero
    exact absurd hzero h.leading
  · rw [List.take_append_drop]
    exact h.number
  · rw [← h.value, List.length_drop]
    congr 2
    omega

end Significant

/-- What is written of a decimal writes its value. -/
theorem writeDecimal_writes (style : FloatStyle) (hstyle : style.exponentDigits = 2) (d : Decimal)
    (hd : 0 < d.digits) : WritesValue (style.writeDecimal d).toList d.value := by
  obtain ⟨n, hn⟩ := exists_significant d hd
  unfold FloatStyle.writeDecimal
  generalize Text.stripBack (· == '0') (Nat.toDigits 10 d.digits) = cs at *
  generalize ((Nat.toDigits 10 d.digits).length : Int) + d.exponent = point at *
  dsimp only
  split
  · split
    · rename_i hpoint
      simp only [String.toList_append, String.toList_ofList]
      exact hn.writes_below hpoint
    · obtain ⟨k, rfl⟩ : ∃ k : Nat, point = k := ⟨point.toNat, by omega⟩
      simp only [Int.toNat_natCast, String.toList_append, String.toList_ofList]
      by_cases hlong : k < cs.length
      · have hwrites := hn.writes_among (by omega) hlong
        rw [List.length_take_of_le hlong.le, Nat.sub_self, if_neg (by simpa using hlong)]
        simpa using hwrites
      · rw [List.take_of_length_le (by omega), List.drop_of_length_le (by omega)]
        simp only [List.isEmpty_nil, if_true]
        rw [List.append_assoc _ _ "0".toList]
        exact hn.writes_above (by omega)
  · have hwrites := hn.writes_scientific
    have hpower : (if point - 1 < 0 then "-" else "+").toList
        = [if point - 1 < 0 then '-' else '+'] := by
      split <;> rfl
    have hpointed : (if (cs.drop 1).isEmpty = true then "" else "." ++ String.ofList (cs.drop 1)).toList
        = pointed (cs.drop 1) := by
      simp only [pointed, List.isEmpty_iff]
      split
      · rfl
      · simp
    simp only [String.toList_append, String.toList_ofList, hpower, hpointed, hstyle]
    simpa [powerText] using hwrites

/-- A finite float is read as it was written. -/
theorem readNumber?_float {x : Float} (hx : x.isFinite = true) (hrest : Stops rest) :
    readNumber? ((jsonStyle.write x).toList ++ rest) = some (.ok (.float x), rest) := by
  obtain ⟨f, hf⟩ := Number.Dyadic.exists_ofFloat? hx
  obtain ⟨hcanonical, hparts⟩ := Number.Dyadic.ofFloat?_spec hf
  have hsign : (if f.negative then "-" else "").toList = signText f.negative := by
    unfold signText
    split <;> rfl
  unfold FloatStyle.write
  rw [hf]
  dsimp only
  split
  · rename_i hzero
    have hexponent : f.exponent = -1074 := by rcases hcanonical.range with h | h <;> omega
    have hwrites : Writes "0.0".toList 0 (0 - 1) :=
      .positional whole_zero (List.cons_ne_nil '0' []) (List.forall_mem_singleton.mpr rfl) rfl
    rw [String.toList_append, hsign, List.append_assoc, readNumber?_writes f.negative hwrites hrest,
      hparts, hzero, hexponent]
    rfl
  · rename_i hne
    have hpos : 0 < f.mantissa := Nat.pos_of_ne_zero hne
    have hreads := Number.Dyadic.shortest_reads hcanonical hpos
    obtain ⟨n, power, hwrites, hvalue⟩ := writeDecimal_writes jsonStyle rfl f.shortest
      (Number.Dyadic.shortest_digits_pos hcanonical hpos)
    rw [String.toList_append, hsign, List.append_assoc, readNumber?_writes f.negative hwrites hrest,
      floatOfDecimal_reads hcanonical hpos (hvalue ▸ hreads), ← hparts]

theorem writeInt_toList (n : Int) :
    (writeInt n).toList = signText (decide (n < 0)) ++ Nat.toDigits 10 n.natAbs := by
  cases n with
  | ofNat m => exact Nat.toList_repr
  | negSucc m =>
    have hnegative : Int.negSucc m < 0 := Int.negSucc_lt_zero m
    rw [decide_eq_true hnegative]
    change ("-" ++ Nat.repr (m + 1)).toList = _
    rw [String.toList_append, Nat.toList_repr]
    rfl

/-- An integer of not too many digits is read as it was written. -/
theorem readNumber?_int {n : Int} (hn : (Nat.toDigits 10 n.natAbs).length ≤ digitLimit)
    (hrest : Stops rest) :
    readNumber? ((writeInt n).toList ++ rest) = some (.ok (.int n), rest) := by
  have hparts := readNumber?_parts (decide (n < 0)) (toDigits_whole n.natAbs)
    (fun c hc => (hrest c hc).1) (takeFraction_none fun c hc => (hrest c hc).2.1)
    (takePower_none fun c hc => (hrest c hc).2.2)
  rw [writeInt_toList, List.append_assoc, hparts, if_pos (by rfl), if_neg (by omega),
    Text.natOfDigits?_toDigits]
  simp only [decide_eq_true_eq, Option.getD_some]
  congr 4
  split <;> omega

end Json

end Automation
