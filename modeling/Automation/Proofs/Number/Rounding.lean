import Automation.Number.Text
import Mathlib

/-!
# Rounding to the nearest float

Around every finite float there is an interval of numbers that are nearer to it than to any other
float. A quotient in this interval is rounded to the float (`floatOfRatio_reads`), and so is a
decimal (`floatOfDecimal_reads`).
-/

namespace Automation.Number

/-! ## Powers as fractions -/

variable {base : Nat}

theorem powerRatio_pos (hbase : 0 < base) (exponent : Int) :
    0 < (powerRatio base exponent).1 ∧ 0 < (powerRatio base exponent).2 := by
  unfold powerRatio
  split
  · exact ⟨Nat.pow_pos hbase, Nat.one_pos⟩
  · exact ⟨Nat.one_pos, Nat.pow_pos hbase⟩

theorem powerRatio_eq (base : Nat) (exponent : Int) :
    ((powerRatio base exponent).1 : ℚ) / (powerRatio base exponent).2 = (base : ℚ) ^ exponent := by
  unfold powerRatio
  split
  · rename_i h
    obtain ⟨n, rfl⟩ := Int.eq_ofNat_of_zero_le h
    simp
  · rename_i h
    obtain ⟨n, hn⟩ := Int.eq_ofNat_of_zero_le (a := -exponent) (by omega)
    obtain rfl : exponent = -n := by omega
    simp

theorem powerRatio_le {n d : Nat} (hbase : 0 < base) (hd : 0 < d) (exponent : Int) :
    d * (powerRatio base exponent).1 ≤ n * (powerRatio base exponent).2 ↔
      (base : ℚ) ^ exponent ≤ n / d := by
  obtain ⟨-, hpd⟩ := powerRatio_pos hbase exponent
  rw [← powerRatio_eq, div_le_div_iff₀ (by exact_mod_cast hpd) (by exact_mod_cast hd), mul_comm d]
  exact_mod_cast Iff.rfl

/-! ## Rounding to natural numbers -/

/-- A quotient is rounded to a number if it is within a half of it, and at a half if the number is
even. -/
theorem roundHalfEven_eq {n d m : Nat} (hd : 0 < d) (hlow : 2 * (m * d) ≤ 2 * n + d)
    (hhigh : 2 * n ≤ 2 * (m * d) + d)
    (htie : 2 * (m * d) = 2 * n + d ∨ 2 * n = 2 * (m * d) + d → m % 2 = 0) :
    roundHalfEven n d = m := by
  have hn := Nat.div_add_mod n d
  have hr := Nat.mod_lt n hd
  unfold roundHalfEven
  generalize n / d = q at *
  generalize n % d = r at *
  have hqd : d * q = q * d := Nat.mul_comm d q
  have hm : m = q ∨ m = q + 1 := by
    have hge : q ≤ m := by
      by_contra h
      have : (m + 1) * d ≤ q * d := Nat.mul_le_mul_right d (by omega)
      rw [Nat.succ_mul m d] at this
      omega
    have hle : m ≤ q + 1 := by
      by_contra h
      have : (q + 2) * d ≤ m * d := Nat.mul_le_mul_right d (by omega)
      rw [Nat.add_mul] at this
      omega
    omega
  rcases hm with rfl | rfl
  · rw [if_neg]
    simp only [Bool.or_eq_true, Bool.and_eq_true, decide_eq_true_eq, beq_iff_eq]
    omega
  · rw [Nat.succ_mul q d] at hlow hhigh htie
    rw [if_pos]
    simp only [Bool.or_eq_true, Bool.and_eq_true, decide_eq_true_eq, beq_iff_eq]
    omega

/-! ## Powers of two -/

/-- The binade of a quotient is the power of two below it. -/
theorem binade_spec {n d : Nat} (hn : 0 < n) (hd : 0 < d) :
    (2 : ℚ) ^ binade n d ≤ n / d ∧ (n : ℚ) / d < 2 ^ (binade n d + 1) := by
  have hdpos : (0 : ℚ) < d := by exact_mod_cast hd
  have hnlow : (2 : ℚ) ^ (n.log2 : Int) ≤ n := by
    rw [zpow_natCast]
    exact_mod_cast Nat.log2_self_le (by omega)
  have hnhigh : (n : ℚ) < 2 ^ ((n.log2 : Int) + 1) := by
    rw [← Nat.cast_succ, zpow_natCast]
    exact_mod_cast Nat.lt_log2_self
  have hdlow : (2 : ℚ) ^ (d.log2 : Int) ≤ d := by
    rw [zpow_natCast]
    exact_mod_cast Nat.log2_self_le (by omega)
  have hdhigh : (d : ℚ) < 2 ^ ((d.log2 : Int) + 1) := by
    rw [← Nat.cast_succ, zpow_natCast]
    exact_mod_cast Nat.lt_log2_self
  unfold binade
  generalize (n.log2 : Int) = a at *
  generalize (d.log2 : Int) = b at *
  have hreaches := powerRatio_le (n := n) (by decide : 0 < 2) hd (a - b)
  rw [Nat.cast_ofNat] at hreaches
  dsimp only
  have htwo : (2 : ℚ) ≠ 0 := by norm_num
  split <;> rename_i hreach <;> rw [hreaches] at hreach
  · refine ⟨hreach, ?_⟩
    rw [div_lt_iff₀ hdpos]
    calc (n : ℚ) < 2 ^ (a + 1) := hnhigh
      _ = 2 ^ (a - b + 1) * 2 ^ b := by rw [← zpow_add₀ htwo]; congr 1; omega
      _ ≤ 2 ^ (a - b + 1) * d := by gcongr
  · refine ⟨?_, by rwa [show a - b - 1 + 1 = a - b by omega, ← not_le]⟩
    rw [le_div_iff₀ hdpos]
    calc (2 : ℚ) ^ (a - b - 1) * d ≤ 2 ^ (a - b - 1) * 2 ^ (b + 1) := by gcongr
      _ = 2 ^ a := by rw [← zpow_add₀ htwo]; congr 1; omega
      _ ≤ n := hnlow

theorem binade_lt {n d : Nat} {k : Int} (hn : 0 < n) (hd : 0 < d) (h : (n : ℚ) / d < 2 ^ k) :
    binade n d < k :=
  (zpow_lt_zpow_iff_right₀ (by norm_num)).mp ((binade_spec hn hd).1.trans_lt h)

theorem le_binade {n d : Nat} {k : Int} (hn : 0 < n) (hd : 0 < d) (h : (2 : ℚ) ^ k ≤ n / d) :
    k ≤ binade n d :=
  Int.lt_add_one_iff.mp
    ((zpow_lt_zpow_iff_right₀ (by norm_num)).mp (h.trans_lt (binade_spec hn hd).2))

/-! ## Floats and what is read as them -/

namespace Dyadic

/-- What the bits of a float say. -/
structure Canonical (x : Dyadic) : Prop where
  range : 2 ^ 52 ≤ x.mantissa ∧ x.mantissa < 2 ^ 53 ∧ -1074 ≤ x.exponent ∧ x.exponent ≤ 971 ∨
    x.mantissa < 2 ^ 52 ∧ x.exponent = -1074
  gap : x.lowerGapHalved = true ↔ x.mantissa = 2 ^ 52 ∧ -1074 < x.exponent

/-- The number without its sign. -/
def magnitude (x : Dyadic) : ℚ := x.mantissa * 2 ^ x.exponent

/-- A number is in the interval around a float; the ends belong to it if the float is even. -/
structure Reads (x : Dyadic) (q : ℚ) : Prop where
  low : x.quarters.1 * (2 ^ x.exponent / 4) ≤ q
  high : q ≤ x.quarters.2.2 * (2 ^ x.exponent / 4)
  even : q = x.quarters.1 * (2 ^ x.exponent / 4) ∨ q = x.quarters.2.2 * (2 ^ x.exponent / 4) →
    x.mantissa % 2 = 0

variable {x : Dyadic} {q : ℚ}

theorem quarters_high (x : Dyadic) : (x.quarters.2.2 : ℚ) = 4 * x.mantissa + 2 := by
  simp [quarters]

theorem quarters_low (hx : 0 < x.mantissa) :
    (x.quarters.1 : ℚ) = 4 * x.mantissa - if x.lowerGapHalved then 1 else 2 := by
  unfold quarters
  split <;> rw [Nat.cast_sub (by omega)] <;> simp

end Dyadic

/-! ## The parts of a float -/

theorem ofBits_ofNat (x : Float) : Float.ofBits (UInt64.ofNat x.toBits.toNat) = x := by
  rw [UInt64.ofNat_toNat, Float.ofBits_toBits]

/-- A finite float is put together from its parts. -/
theorem Dyadic.ofFloat?_spec {f : Float} {x : Dyadic} (h : Dyadic.ofFloat? f = some x) :
    x.Canonical ∧ f = floatOfParts x.negative x.mantissa x.exponent := by
  have hbits := f.toBits.toNat_lt
  have hf := ofBits_ofNat f
  unfold Dyadic.ofFloat? at h
  unfold floatOfParts
  generalize f.toBits.toNat = bits at *
  have h52 : Nat.pow 2 52 = 4503599627370496 := rfl
  have h63 : Nat.pow 2 63 = 9223372036854775808 := rfl
  simp only [h52, h63] at h ⊢
  have hsign : (if bits / 9223372036854775808 == 1 then 9223372036854775808 else 0)
      = bits / 9223372036854775808 * 9223372036854775808 := by
    have hle : bits / 9223372036854775808 < 2 := by omega
    interval_cases bits / 9223372036854775808 <;> rfl
  have hparts {n : Nat} (hn : n = bits) : f = Float.ofBits (UInt64.ofNat n) := hn ▸ hf.symm
  split at h
  · cases h
  · split at h
    · obtain rfl := Option.some.inj h
      refine ⟨⟨.inr ⟨?_, rfl⟩, iff_of_false nofun ?_⟩, ?_⟩
      · dsimp only
        omega
      · dsimp only
        omega
      · refine hparts ?_
        rw [hsign]
        dsimp only
        omega
    · obtain rfl := Option.some.inj h
      refine ⟨⟨.inl ?_, ?_⟩, ?_⟩
      · dsimp only
        omega
      · simp only [Bool.and_eq_true, beq_iff_eq, decide_eq_true_eq]
        omega
      · refine hparts ?_
        rw [hsign]
        dsimp only
        omega

/-- A finite float has parts. -/
theorem Dyadic.exists_ofFloat? {f : Float} (h : f.isFinite = true) :
    ∃ x, Dyadic.ofFloat? f = some x := by
  have hfinite : (Float.Model.UnpackedFloat.unpack .binary64 f.toBits.toBitVec).isFinite = true := h
  have hexponent : f.toBits.toNat / Nat.pow 2 52 % 2048 ≠ 2047 := by
    intro hones
    have hvec : @Float.Model.UnpackedFloat.unpackExponent .binary64 f.toBits.toBitVec = -1#11 := by
      apply BitVec.eq_of_toNat_eq
      rw [Float.Model.UnpackedFloat.unpackExponent_def, BitVec.extractLsb'_toNat,
        Nat.shiftRight_eq_div_pow]
      exact hones
    unfold Float.Model.UnpackedFloat.unpack at hfinite
    simp only [hvec, if_true] at hfinite
    split at hfinite <;> cases hfinite
  unfold Dyadic.ofFloat?
  simp only [if_neg hexponent]
  split <;> exact ⟨_, rfl⟩

theorem floatOfRatio_eq {negative : Bool} {n d m : Nat} {power : Int} (hn : 0 < n) (hd : 0 < d)
    (hpower : max (binade n d - 52) (-1074) = power) (hle : power ≤ 971)
    (hlow : (m - 1 / 2) * (2 : ℚ) ^ power ≤ n / d) (hhigh : (n : ℚ) / d ≤ (m + 1 / 2) * 2 ^ power)
    (heven : (n : ℚ) / d = (m - 1 / 2) * 2 ^ power ∨ (n : ℚ) / d = (m + 1 / 2) * 2 ^ power →
      m % 2 = 0) :
    floatOfRatio negative n d = floatOfParts negative m power := by
  unfold floatOfRatio
  rw [if_neg (by simp; omega)]
  simp only [hpower]
  rw [if_neg (by omega)]
  congr 1
  obtain ⟨hpn, hpd⟩ := powerRatio_pos (by decide : 0 < 2) power
  have hratio := powerRatio_eq 2 power
  rw [Nat.cast_ofNat] at hratio
  rw [← hratio] at hlow hhigh heven
  generalize (powerRatio 2 power).1 = pn at *
  generalize (powerRatio 2 power).2 = pd at *
  have hdpos : (0 : ℚ) < d := by exact_mod_cast hd
  have hpdpos : (0 : ℚ) < pd := by exact_mod_cast hpd
  -- Both sides of every comparison are multiplied by the denominators.
  have hle (c : ℚ) : c * (pn / pd) ≤ n / d ↔ c * pn * d ≤ n * pd := by
    rw [← mul_div_assoc, div_le_div_iff₀ hpdpos hdpos]
  have hge (c : ℚ) : (n : ℚ) / d ≤ c * (pn / pd) ↔ n * pd ≤ c * pn * d := by
    rw [← mul_div_assoc, div_le_div_iff₀ hdpos hpdpos]
  have heq (c : ℚ) : (n : ℚ) / d = c * (pn / pd) ↔ n * pd = c * pn * d := by
    rw [← mul_div_assoc, div_eq_div_iff hdpos.ne' hpdpos.ne']
  rw [hle] at hlow
  rw [hge] at hhigh
  rw [heq, heq] at heven
  refine roundHalfEven_eq (Nat.mul_pos hd hpn) ?_ ?_ fun h => heven ?_
  · have : 2 * ((m : ℚ) * (d * pn)) ≤ 2 * (n * pd) + d * pn := by linarith
    exact_mod_cast this
  · have : 2 * ((n : ℚ) * pd) ≤ 2 * (m * (d * pn)) + d * pn := by linarith
    exact_mod_cast this
  · refine h.imp (fun h => ?_) fun h => ?_
    · have : 2 * ((m : ℚ) * (d * pn)) = 2 * (n * pd) + d * pn := by exact_mod_cast h
      linarith
    · have : 2 * ((n : ℚ) * pd) = 2 * (m * (d * pn)) + d * pn := by exact_mod_cast h
      linarith

/-- The mantissa that is carried to one bit more. -/
theorem floatOfParts_carry (negative : Bool) {power : Int} (h : -1074 < power) :
    floatOfParts negative (2 ^ 53) (power - 1) = floatOfParts negative (2 ^ 52) power := by
  obtain ⟨k, hk⟩ : ∃ k : Nat, (power - 1 + 1074).toNat = k ∧ (power + 1074).toNat = k + 1 :=
    ⟨_, rfl, by omega⟩
  unfold floatOfParts
  rw [hk.1, hk.2]
  have hcarry : 2 ^ 53 = Nat.pow 2 52 + 2 ^ 52 := rfl
  simp only [hcarry, Nat.succ_mul k, Nat.add_assoc]

/-- A quotient in the interval around a float is rounded to the float. -/
theorem floatOfRatio_reads {x : Dyadic} {negative : Bool} {n d : Nat} (hx : x.Canonical)
    (hpos : 0 < x.mantissa) (hd : 0 < d) (h : x.Reads (n / d)) :
    floatOfRatio negative n d = floatOfParts negative x.mantissa x.exponent := by
  obtain ⟨hlow, hhigh, heven⟩ := h
  rw [x.quarters_high] at hhigh heven
  rw [Dyadic.quarters_low hpos] at hlow heven
  have hunit : (0 : ℚ) < 2 ^ x.exponent := by positivity
  have htwo : (2 : ℚ) ≠ 0 := by norm_num
  have hm : (1 : ℚ) ≤ x.mantissa := by exact_mod_cast hpos
  have hquotient : (0 : ℚ) < n / d := by
    refine lt_of_lt_of_le (mul_pos ?_ (by positivity)) hlow
    split <;> linarith
  have hn : 0 < n := by
    by_contra h
    obtain rfl : n = 0 := by omega
    simp at hquotient
  by_cases hgap : x.lowerGapHalved = true ∧ (n : ℚ) / d < x.mantissa * 2 ^ x.exponent
  · -- Below a power of two the floats are closer, and the quotient is rounded up to the power.
    obtain ⟨hgap, hbelow⟩ := hgap
    obtain ⟨hm52, he⟩ := hx.gap.mp hgap
    rw [if_pos hgap] at hlow
    have hcast : (x.mantissa : ℚ) = 2 ^ 52 := by exact_mod_cast hm52
    rw [hcast] at hlow hbelow
    have hhalf : (2 : ℚ) ^ x.exponent = 2 * 2 ^ (x.exponent - 1) := by
      rw [← zpow_one_add₀ htwo]
      congr 1
      omega
    have hbinade : binade n d = x.exponent + 51 := by
      have hlt := binade_lt hn hd (k := x.exponent + 52) (by
        rwa [add_comm, zpow_add₀ htwo])
      have hle := le_binade hn hd (k := x.exponent + 51) (by
        rw [add_comm, zpow_add₀ htwo]
        norm_num at hlow ⊢
        linarith)
      omega
    rw [hm52, ← floatOfParts_carry negative he]
    rw [hhalf] at hlow hbelow
    have hunit' : (0 : ℚ) < 2 ^ (x.exponent - 1) := by positivity
    refine floatOfRatio_eq hn hd (by omega) ?_ ?_ ?_ fun _ => by decide
    · rcases hx.range with h | h <;> omega
    · norm_num at hlow ⊢
      linarith
    · norm_num at hbelow ⊢
      linarith
  · -- Elsewhere the quotient is rounded on the grid of the float.
    have hnotlow : x.lowerGapHalved = true → x.mantissa * (2 : ℚ) ^ x.exponent ≤ n / d :=
      fun h => not_lt.mp fun hlt => hgap ⟨h, hlt⟩
    have hlow' : ((x.mantissa : ℚ) - 1 / 2) * 2 ^ x.exponent ≤ n / d := by
      split at hlow <;> linarith
    have heven' : (n : ℚ) / d = (x.mantissa - 1 / 2) * 2 ^ x.exponent ∨
        (n : ℚ) / d = (x.mantissa + 1 / 2) * 2 ^ x.exponent → x.mantissa % 2 = 0 := by
      rintro (heq | heq)
      · refine heven (.inl ?_)
        split
        · rename_i hhalved
          have := hnotlow hhalved
          linarith
        · linarith
      · exact heven (.inr (by linarith))
    have hmlt : (x.mantissa : ℚ) + 1 ≤ 2 ^ 53 := by
      have : x.mantissa + 1 ≤ 2 ^ 53 := by rcases hx.range with h | h <;> omega
      exact_mod_cast this
    have hupper : binade n d < x.exponent + 53 := by
      refine binade_lt hn hd (hhigh.trans_lt ?_)
      rw [add_comm, zpow_add₀ htwo]
      norm_num at hmlt ⊢
      nlinarith
    have hlower : -1074 < x.exponent → x.exponent + 52 ≤ binade n d := by
      intro he
      have hnormal : 2 ^ 52 ≤ x.mantissa := by rcases hx.range with h | h <;> omega
      refine le_binade hn hd ?_
      rw [add_comm, zpow_add₀ htwo]
      by_cases hhalved : x.lowerGapHalved = true
      · refine le_trans ?_ (hnotlow hhalved)
        gcongr
        exact_mod_cast hnormal
      · -- The least mantissa of a binade has its lower gap halved, so this is a greater one.
        have hne : x.mantissa ≠ 2 ^ 52 := fun h => hhalved (hx.gap.mpr ⟨h, he⟩)
        have hgreater : (2 : ℚ) ^ 52 + 1 ≤ x.mantissa := by
          have : 2 ^ 52 + 1 ≤ x.mantissa := by omega
          exact_mod_cast this
        refine le_trans ?_ hlow'
        gcongr
        rw [zpow_ofNat]
        linarith
    refine floatOfRatio_eq hn hd ?_ ?_ hlow' (by linarith) heven'
    · rcases hx.range with h | h <;> omega
    · rcases hx.range with h | h <;> omega

/-! ## Decimals -/

/-- The count of its digits tells the size of a number. -/
theorem digitCount_spec {n : Nat} (hn : 0 < n) :
    (10 : ℚ) ^ ((digitCount n : Int) - 1) ≤ n ∧ (n : ℚ) < 10 ^ (digitCount n : Int) := by
  unfold digitCount
  rw [if_neg (by omega)]
  have hle {k : Nat} := Nat.length_toDigits_le_iff (b := 10) (n := n) (k := k) (by decide)
  have hlength := Nat.length_toDigits_pos (b := 10) (n := n)
  generalize (Nat.toDigits 10 n).length = count at *
  obtain ⟨k, rfl⟩ : ∃ k, count = k + 1 := ⟨count - 1, by omega⟩
  refine ⟨?_, ?_⟩
  · have hpow : 10 ^ k ≤ n := by
      by_contra hlt
      rcases Nat.eq_zero_or_pos k with rfl | hk
      · omega
      · have := (hle hk).mpr (by omega)
        omega
    rw [Nat.cast_succ, add_sub_cancel_right, zpow_natCast]
    exact_mod_cast hpow
  · rw [zpow_natCast]
    exact_mod_cast (hle hlength).mp le_rfl

/-- The numbers around floats are within reach. -/
theorem Dyadic.Reads.bounds {x : Dyadic} {q : ℚ} (hx : x.Canonical) (hpos : 0 < x.mantissa)
    (h : x.Reads q) : (10 : ℚ) ^ (-400 : Int) < q ∧ q < 10 ^ (400 : Int) := by
  obtain ⟨hlow, hhigh, -⟩ := h
  rw [x.quarters_high] at hhigh
  rw [quarters_low hpos] at hlow
  have hm : (1 : ℚ) ≤ x.mantissa := by exact_mod_cast hpos
  have hmlt : (x.mantissa : ℚ) + 1 ≤ 2 ^ 53 := by
    have : x.mantissa + 1 ≤ 2 ^ 53 := by rcases hx.range with h | h <;> omega
    exact_mod_cast this
  have hleast : (2 : ℚ) ^ (-1074 : Int) ≤ 2 ^ x.exponent :=
    zpow_le_zpow_right₀ (by norm_num) (by rcases hx.range with h | h <;> omega)
  have hgreatest : (2 : ℚ) ^ x.exponent ≤ 2 ^ (971 : Int) :=
    zpow_le_zpow_right₀ (by norm_num) (by rcases hx.range with h | h <;> omega)
  have hten : (2 : ℚ) ^ (1200 : Int) < 10 ^ (400 : Int) := by
    rw [show (1200 : Int) = 3 * 400 from rfl, zpow_mul]
    exact zpow_lt_zpow_left₀ (by norm_num) (by norm_num) (by norm_num)
  constructor
  · calc (10 : ℚ) ^ (-400 : Int) < 2 ^ (-1200 : Int) := by
          rw [zpow_neg, zpow_neg]
          exact inv_strictAnti₀ (by positivity) hten
      _ ≤ 2 ^ (-1 + -1074 : Int) := zpow_le_zpow_right₀ (by norm_num) (by norm_num)
      _ = 2 * (2 ^ (-1074 : Int) / 4) := by
        rw [zpow_add₀ (by norm_num)]
        ring
      _ ≤ 2 * (2 ^ x.exponent / 4) := by gcongr
      _ ≤ (4 * x.mantissa - if x.lowerGapHalved then 1 else 2) * (2 ^ x.exponent / 4) := by
        gcongr
        split <;> linarith
      _ ≤ q := hlow
  · calc q ≤ (4 * x.mantissa + 2) * (2 ^ x.exponent / 4) := hhigh
      _ ≤ 2 ^ 55 * (2 ^ (971 : Int) / 4) := by
        gcongr
        linarith
      _ = 2 ^ (53 + 971 : Int) := by
        rw [zpow_add₀ (by norm_num)]
        ring
      _ ≤ 2 ^ (1200 : Int) := zpow_le_zpow_right₀ (by norm_num) (by norm_num)
      _ < 10 ^ (400 : Int) := hten

/-- A decimal in the interval around a float is read as the float. -/
theorem floatOfDecimal_reads {x : Dyadic} {negative : Bool} {digits : Nat} {power : Int}
    (hx : x.Canonical) (hpos : 0 < x.mantissa) (h : x.Reads (digits * 10 ^ power)) :
    floatOfDecimal negative digits power = floatOfParts negative x.mantissa x.exponent := by
  obtain ⟨hlow, hhigh⟩ := h.bounds hx hpos
  have hdigits : 0 < digits := by
    by_contra hzero
    obtain rfl : digits = 0 := by omega
    rw [Nat.cast_zero, zero_mul] at hlow
    exact absurd hlow (not_lt.mpr (by positivity))
  obtain ⟨hcountlow, hcounthigh⟩ := digitCount_spec hdigits
  have hten : (10 : ℚ) ≠ 0 := by norm_num
  have hpower : (0 : ℚ) < 10 ^ power := by positivity
  have hsmall : ¬(digitCount digits : Int) + power < -400 := by
    intro hsize
    have : (10 : ℚ) ^ ((digitCount digits : Int) + power) < 10 ^ (-400 : Int) :=
      zpow_lt_zpow_right₀ (by norm_num) hsize
    rw [zpow_add₀ hten] at this
    have := mul_lt_mul_of_pos_right hcounthigh hpower
    linarith
  have hgreat : ¬400 < (digitCount digits : Int) + power := by
    intro hsize
    have : (10 : ℚ) ^ (400 : Int) ≤ 10 ^ ((digitCount digits : Int) - 1 + power) :=
      zpow_le_zpow_right₀ (by norm_num) (by omega)
    rw [zpow_add₀ hten] at this
    have := mul_le_mul_of_nonneg_right hcountlow hpower.le
    linarith
  unfold floatOfDecimal
  rw [if_neg (by simp only [Bool.or_eq_true, decide_eq_true_eq]; omega), if_neg hgreat]
  have hratio := powerRatio_eq 10 power
  obtain ⟨-, hpd⟩ := powerRatio_pos (by decide : 0 < 10) power
  generalize powerRatio 10 power = p at hratio hpd
  refine floatOfRatio_reads hx hpos hpd ?_
  rw [Nat.cast_mul, mul_div_assoc, hratio]
  exact h

end Automation.Number
