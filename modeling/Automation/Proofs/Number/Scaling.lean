import Automation.Proofs.Number.Unpacked
import Automation.Proofs.Run.ExactTime

/-!
# Doubling and comparing floats

Floats are compared as the numbers that they are, and doubling them any number of times is exact as
long as there is a float for what it comes to (`Number.lt_iff_extended`,
`Number.extended_mul_two_pow`).
-/

namespace Automation.Number

open Float.Model Float.Model.UnpackedFloat

/-! ## Values -/

namespace Dyadic

variable {x y : Dyadic}

theorem value_eq (d : Dyadic) :
    d.value = if d.negative then -d.magnitude else d.magnitude := by
  have hratio := powerRatio_eq 2 d.exponent
  rw [Nat.cast_ofNat] at hratio
  unfold value magnitude
  dsimp only
  rw [← hratio]
  split <;> push_cast <;> ring

theorem magnitude_nonneg (x : Dyadic) : 0 ≤ x.magnitude := by
  unfold magnitude
  positivity

theorem magnitude_pos (h : 0 < x.mantissa) : 0 < x.magnitude := by
  unfold magnitude
  positivity

theorem abs_value (x : Dyadic) : |x.value| = x.magnitude := by
  have hnonneg := x.magnitude_nonneg
  rw [value_eq]
  split
  · rw [abs_neg, abs_of_nonneg hnonneg]
  · rw [abs_of_nonneg hnonneg]

/-- A finite float is zero, positive or negative. -/
theorem sign_cases (x : Dyadic) :
    (∃ s, x.unpacked = .zero s ∧ x.value = 0) ∨
      (∃ h, x.unpacked = .finite .positive x.mantissa x.exponent h ∧ x.value = x.magnitude) ∨
        ∃ h, x.unpacked = .finite .negative x.mantissa x.exponent h ∧ x.value = -x.magnitude := by
  rw [value_eq]
  unfold unpacked
  by_cases hm : 0 < x.mantissa
  · rw [dif_pos hm]
    cases x.negative with
    | false => exact .inr (.inl ⟨hm, rfl, rfl⟩)
    | true => exact .inr (.inr ⟨hm, rfl, rfl⟩)
  · rw [dif_neg hm, magnitude, Nat.eq_zero_of_not_pos hm]
    exact .inl ⟨_, rfl, by simp⟩

theorem Canonical.magnitude_lt (hx : x.Canonical) : x.magnitude < 2 ^ 1024 := by
  have hm : (x.mantissa : ℚ) < 2 ^ 53 := by
    exact_mod_cast (show x.mantissa < 2 ^ 53 by have := hx.range; omega)
  have he : x.exponent ≤ ((971 : Nat) : Int) := by have := hx.range; omega
  unfold magnitude
  calc (x.mantissa : ℚ) * 2 ^ x.exponent < 2 ^ 53 * 2 ^ x.exponent := by gcongr
    _ ≤ 2 ^ 53 * 2 ^ ((971 : Nat) : Int) := by gcongr; decide
    _ = 2 ^ 1024 := by rw [zpow_natCast, ← pow_add]

end Dyadic

/-! ## Exact products -/

theorem log2_mul_two_pow {m : Nat} (hm : 0 < m) (n : Nat) : (m * 2 ^ n).log2 = m.log2 + n := by
  induction n with
  | zero => rw [Nat.pow_zero, Nat.mul_one, Nat.add_zero]
  | succ n ih =>
    have hdouble : m * 2 ^ (n + 1) = 2 * (m * 2 ^ n) := by ring
    rw [hdouble, Nat.log2_two_mul (Nat.mul_pos hm (Nat.two_pow_pos n)).ne', ih]
    rfl

theorem totalExponent_mul_two_pow {m : Nat} (hm : 0 < m) (n : Nat) (e : Int) :
    totalExponent (m * 2 ^ n) e = totalExponent m (e + n) := by
  unfold totalExponent
  rw [log2_mul_two_pow hm]
  omega

theorem shiftRight_exact (m n : Nat) :
    ExtendedMantissa.mk (m * 2 ^ n) false false >>> n = ExtendedMantissa.mk m false false := by
  induction n generalizing m with
  | zero => rw [Nat.pow_zero, Nat.mul_one]; rfl
  | succ n ih =>
    have hdouble : m * 2 ^ (n + 1) = 2 * m * 2 ^ n := by ring
    change ExtendedMantissa.shiftRightOne (ExtendedMantissa.mk (m * 2 ^ (n + 1)) false false >>> n)
      = _
    rw [hdouble, ih, ExtendedMantissa.shiftRightOne]
    simp

theorem shiftToTargetExponent_exact {m n : Nat} {e : Int}
    (hn : (Format.binary64.targetExponent (totalExponent (m * 2 ^ n) e) - e).toNat = n) :
    shiftToTargetExponent .binary64 (m * 2 ^ n) e .exact = (⟨m, false, false⟩, e + n) := by
  unfold shiftToTargetExponent shiftToExponent
  dsimp only [ExtendedMantissa.ofMantissaAndAccuracy]
  rw [hn, shiftRight_exact]

/-- A number whose last bits are zeros is not changed by rounding, if these are the bits that go. -/
theorem round_exact (s : Sign) {m n : Nat} {e : Int} (hm : 0 < m)
    (hn : (Format.binary64.targetExponent (totalExponent (m * 2 ^ n) e) - e).toNat = n) :
    roundWithAccuracy .binary64 s (m * 2 ^ n) e .exact = .finite s m (e + n) hm := by
  have hagain : shiftToTargetExponent .binary64 m (e + n) .exact = (⟨m, false, false⟩, e + n) := by
    rw [totalExponent_mul_two_pow hm] at hn
    have hshift := shiftToTargetExponent_exact (m := m) (n := 0) (e := e + n)
      (by rw [Nat.pow_zero, Nat.mul_one]; omega)
    simpa using hshift
  unfold roundWithAccuracy
  rw [shiftToTargetExponent_exact hn]
  change (let (finalExtendedMantissa, finalExponent) :=
      shiftToTargetExponent .binary64 m (e + n) .exact
    let finalMantissa := finalExtendedMantissa.mantissa
    if h : finalMantissa = 0 then UnpackedFloat.zero s
    else .finite s finalMantissa finalExponent (Nat.pos_of_ne_zero h)) = _
  rw [hagain]
  exact dif_neg hm.ne'

theorem targetExponent_eq (total : Int) :
    Format.binary64.targetExponent total = max (total - 53) (-1074) := rfl

/-- A natural number is rounded from a mantissa that is long enough. -/
theorem ofScientific_nat {n : Nat} (hn : n ≠ 0) : UnpackedFloat.ofScientific .binary64 n 0
    = roundWithAccuracy .binary64 .positive (n * 2 ^ 53) (-53) .exact := by
  have hbits : (2 : Int) ^ Format.binary64.exponentBits = 2048 := rfl
  unfold UnpackedFloat.ofScientific
  rw [dif_neg hn, hbits, if_neg (by decide), if_neg (by omega), if_pos (by decide)]
  change roundWithAccuracy .binary64 .positive (n <<< 53 * 1) (-53) .exact = _
  rw [Nat.mul_one, Nat.shiftLeft_eq]

theorem ofNat_eq {n : Nat} (hn : 2 ^ 53 ≤ n) : Float.ofNat n = .ofModel (.pack
    (roundWithAccuracy .binary64 .positive (n * 2 ^ 53) (-53) .exact)) := by
  rw [← ofScientific_nat (by omega)]
  change Float.ofScientific n false 0 = _
  unfold Float.ofScientific
  rw [dif_neg (by omega)]
  rfl

/-- Powers of two are floats. -/
theorem ofFloat?_two_pow {k : Nat} (hk : k ≤ 1023) :
    Dyadic.ofFloat? (.ofNat (Nat.pow 2 k)) = some ⟨false, 2 ^ 52, k - 52, true⟩ := by
  -- The small ones are looked at one by one, for they are shorter than a mantissa.
  have hsmall : ∀ k : Fin 53, Dyadic.ofFloat? (.ofNat (Nat.pow 2 k)) =
      some ⟨false, 2 ^ 52, (k : Nat) - 52, true⟩ := by decide +kernel
  by_cases hlarge : k < 53
  · exact hsmall ⟨k, hlarge⟩
  · have hcanonical : Dyadic.Canonical ⟨false, 2 ^ 52, k - 52, true⟩ := by
      refine ⟨.inl ⟨Nat.le_refl _, show 2 ^ 52 < 2 ^ 53 by decide, ?_, ?_⟩,
        iff_of_true rfl ⟨rfl, ?_⟩⟩ <;> dsimp only <;> omega
    have hmantissa : Nat.pow 2 k * 2 ^ 53 = 2 ^ 52 * 2 ^ (k + 1) := by
      change 2 ^ k * 2 ^ 53 = _
      rw [← Nat.pow_add, ← Nat.pow_add]
      congr 1
      omega
    have hround : roundWithAccuracy .binary64 .positive (2 ^ 52 * 2 ^ (k + 1)) (-53) .exact
        = .finite .positive (2 ^ 52) (-53 + (k + 1 : Nat)) (Nat.two_pow_pos 52) := by
      refine round_exact _ _ ?_
      have hlog : (2 ^ 52 : Nat).log2 = 52 := by decide
      rw [totalExponent_mul_two_pow (Nat.two_pow_pos 52), targetExponent_eq, totalExponent, hlog]
      omega
    have hexponent : -53 + ((k + 1 : Nat) : Int) = k - 52 := by omega
    have hle : 2 ^ 53 ≤ Nat.pow 2 k := Nat.pow_le_pow_right (by decide) (by omega)
    rw [← ofFloat?_pack hcanonical, ofNat_eq hle, hmantissa, hround, finite_congr rfl hexponent]
    rfl

/-- The product of a mantissa and a power of two is rounded without loss. The bits that go are those
that were put behind the mantissa. -/
theorem round_scaled {m k : Nat} {e : Int} (hm : 0 < m)
    (hrange : 2 ^ 52 ≤ m ∧ m < 2 ^ 53 ∧ -1074 ≤ e ∨ m < 2 ^ 52 ∧ e = -1074) :
    ∃ (m' : Nat) (e' : Int) (h : 0 < m'), (m' : ℚ) * 2 ^ e' = m * 2 ^ e * 2 ^ k ∧
      (2 ^ 52 ≤ m' ∧ m' < 2 ^ 53 ∧ -1074 ≤ e' ∨ m' < 2 ^ 52 ∧ e' = -1074) ∧
      ∀ s, roundWithAccuracy .binary64 s (m * 2 ^ 52) (e + (k - 52)) .exact
        = .finite s m' e' h := by
  have hlog : m.log2 ≤ 52 := by
    have := (Nat.log2_lt (k := 53) hm.ne').mpr (by omega)
    omega
  have hlow := Nat.log2_self_le hm.ne'
  have hhigh := Nat.lt_log2_self (n := m)
  have he : -1074 ≤ e := by omega
  -- So many bits go as leave 53 of them, or more if the least exponent asks for it.
  obtain ⟨n, hn⟩ : ∃ n, n = max m.log2 (-1074 - (e + (k - 52))).toNat := ⟨_, rfl⟩
  have hn52 : n ≤ 52 := by omega
  have hmantissa : m * 2 ^ 52 = m * 2 ^ (52 - n) * 2 ^ n := by
    rw [Nat.mul_assoc, ← Nat.pow_add, Nat.sub_add_cancel hn52]
  have hpos : 0 < m * 2 ^ (52 - n) := Nat.mul_pos hm (Nat.two_pow_pos _)
  refine ⟨m * 2 ^ (52 - n), e + (k - 52) + n, hpos, ?_, ?_, fun s => ?_⟩
  · have hexponents : ((52 - n : Nat) : Int) + (e + (k - 52) + n) = e + k := by omega
    have htwo : (2 : ℚ) ≠ 0 := by decide
    rw [Nat.cast_mul, Nat.cast_pow, Nat.cast_ofNat, mul_assoc, ← zpow_natCast, ← zpow_add₀ htwo,
      hexponents, zpow_add₀ htwo, zpow_natCast, mul_assoc]
  · by_cases hfull : n = m.log2
    · refine .inl ⟨?_, ?_, by omega⟩
      · calc 2 ^ 52 = 2 ^ n * 2 ^ (52 - n) := by rw [← Nat.pow_add, Nat.add_sub_cancel' hn52]
          _ ≤ m * 2 ^ (52 - n) := Nat.mul_le_mul_right _ (hfull ▸ hlow)
      · calc m * 2 ^ (52 - n) < 2 ^ (n + 1) * 2 ^ (52 - n) :=
              Nat.mul_lt_mul_of_pos_right (hfull ▸ hhigh) (Nat.two_pow_pos _)
          _ = 2 ^ 53 := by rw [← Nat.pow_add]; congr 1; omega
    · refine .inr ⟨?_, by omega⟩
      calc m * 2 ^ (52 - n) < 2 ^ (m.log2 + 1) * 2 ^ (52 - n) :=
            Nat.mul_lt_mul_of_pos_right hhigh (Nat.two_pow_pos _)
        _ = 2 ^ (m.log2 + 1 + (52 - n)) := by rw [← Nat.pow_add]
        _ ≤ 2 ^ 52 := Nat.pow_le_pow_right (by decide) (by omega)
  · rw [hmantissa]
    refine round_exact s hpos ?_
    rw [← hmantissa, totalExponent_mul_two_pow hm, targetExponent_eq, totalExponent]
    omega

section
variable {x : Float} {d : Dyadic} {k : Nat}

theorem mul_two_pow_eq (hx : Dyadic.ofFloat? x = some d) (hk : k ≤ 1023) :
    x * .ofNat (Nat.pow 2 k) = .ofModel (.pack (UnpackedFloat.mul .binary64 d.unpacked
      (.finite .positive (2 ^ 52) (k - 52) (Nat.two_pow_pos 52)))) := by
  have htwo := unpack_eq (ofFloat?_two_pow hk)
  rw [← unpack_eq hx]
  change Float.ofModel (.pack (UnpackedFloat.mul .binary64 x.toModel.unpack _)) = _
  rw [htwo]
  rfl

/-- Doubling is exact as long as there is a float for what it comes to. -/
theorem mul_two_pow (hx : Dyadic.ofFloat? x = some d) (hk : k ≤ 1023) :
    (∃ product, Dyadic.ofFloat? (x * .ofNat (Nat.pow 2 k)) = some product ∧
        product.value = d.value * 2 ^ k) ∨
      x * .ofNat (Nat.pow 2 k) = infinite d.negative ∧ 2 ^ 1024 ≤ d.magnitude * 2 ^ k := by
  obtain ⟨hrange, -⟩ := (Dyadic.ofFloat?_spec hx).1
  rw [mul_two_pow_eq hx hk]
  by_cases hm : 0 < d.mantissa
  · obtain ⟨m, e, hpos, hvalue, hcanonical, hround⟩ :=
      round_scaled (k := k) hm (e := d.exponent) (by omega)
    have hproduct : UnpackedFloat.mul .binary64 d.unpacked
        (.finite .positive (2 ^ 52) (k - 52) (Nat.two_pow_pos 52))
        = .finite (signOf d.negative) m e hpos := by
      have hsign : signOf d.negative * .positive = signOf d.negative := by
        cases d.negative <;> rfl
      unfold Dyadic.unpacked
      rw [dif_pos hm, UnpackedFloat.mul, hsign, hround]
    rw [hproduct]
    -- Beyond the largest exponent the product is packed as an infinity.
    by_cases he : e ≤ 971
    · have hunpacked : Dyadic.unpacked ⟨d.negative, m, e, m == 2 ^ 52 && -1074 < e⟩
          = .finite (signOf d.negative) m e hpos := dif_pos hpos
      refine .inl ⟨_, hunpacked ▸ ofFloat?_pack ⟨by dsimp only; omega, by simp⟩, ?_⟩
      rw [Dyadic.value_eq, Dyadic.value_eq]
      unfold Dyadic.magnitude
      dsimp only
      rw [hvalue]
      split <;> ring
    · refine .inr ⟨pack_overflow d.negative hpos (by omega), ?_⟩
      unfold Dyadic.magnitude
      rw [← hvalue]
      have hm52 : (2 ^ 52 : ℚ) ≤ m := by exact_mod_cast (show 2 ^ 52 ≤ m by omega)
      calc (2 : ℚ) ^ 1024 = 2 ^ 52 * 2 ^ ((972 : Nat) : Int) := by rw [zpow_natCast, ← pow_add]
        _ ≤ (m : ℚ) * 2 ^ e := mul_le_mul hm52 (zpow_le_zpow_right₀ (by decide) (by omega))
          (by positivity) (by positivity)
  · obtain ⟨negative, m, e, halved⟩ := d
    obtain rfl : m = 0 := by simpa using hm
    have hproduct : UnpackedFloat.mul .binary64 (Dyadic.unpacked ⟨negative, 0, e, halved⟩)
        (.finite .positive (2 ^ 52) (k - 52) (Nat.two_pow_pos 52))
        = Dyadic.unpacked ⟨negative, 0, -1074, false⟩ := by
      cases negative <;> rfl
    rw [hproduct]
    refine .inl ⟨_, ofFloat?_pack ⟨.inr ⟨Nat.two_pow_pos 52, rfl⟩, by simp⟩, ?_⟩
    simp [Dyadic.value_eq, Dyadic.magnitude]

end

/-! ## Comparing -/

section
variable {x y : Dyadic}

theorem Dyadic.Canonical.magnitude_lt_of_exponent (hx : x.Canonical) (hy : y.Canonical)
    (h : x.exponent < y.exponent) : x.magnitude < y.magnitude := by
  have htwo : (2 : ℚ) ≠ 0 := by decide
  have hxm : (x.mantissa : ℚ) < 2 ^ (53 : Nat) := by
    exact_mod_cast (show x.mantissa < 2 ^ 53 by have := hx.range; omega)
  have hym : (2 : ℚ) ^ (52 : Nat) ≤ y.mantissa := by
    exact_mod_cast (show 2 ^ 52 ≤ y.mantissa by have := hx.range; have := hy.range; omega)
  have hexponent : 53 + x.exponent ≤ 52 + y.exponent := by omega
  unfold magnitude
  calc (x.mantissa : ℚ) * 2 ^ x.exponent < 2 ^ (53 : Nat) * 2 ^ x.exponent := by gcongr
    _ = 2 ^ (53 + x.exponent) := by rw [zpow_add₀ htwo]; rfl
    _ ≤ 2 ^ (52 + y.exponent) := by gcongr; decide
    _ = 2 ^ (52 : Nat) * 2 ^ y.exponent := by rw [zpow_add₀ htwo]; rfl
    _ ≤ y.mantissa * 2 ^ y.exponent := by gcongr

/-- The larger exponent is that of the larger number. Among equal ones the mantissas count. -/
theorem Dyadic.Canonical.compare_parts (hx : x.Canonical) (hy : y.Canonical) :
    (compare x.exponent y.exponent).then (compare x.mantissa y.mantissa)
      = compare x.magnitude y.magnitude := by
  rcases lt_trichotomy x.exponent y.exponent with h | h | h
  · rw [compare_lt_iff_lt.mpr h, compare_lt_iff_lt.mpr (hx.magnitude_lt_of_exponent hy h)]
    rfl
  · have hpos : (0 : ℚ) < 2 ^ y.exponent := by positivity
    have hmonotone : StrictMono fun m : Nat => (m : ℚ) * 2 ^ y.exponent :=
      fun m n h => mul_lt_mul_of_pos_right (Nat.cast_lt.mpr h) hpos
    unfold magnitude
    rw [h, compare_eq_iff_eq.mpr rfl, ← cmp_eq_compare, ← cmp_eq_compare]
    exact (hmonotone.cmp_map_eq x.mantissa y.mantissa).symm
  · rw [compare_gt_iff_gt.mpr h, compare_gt_iff_gt.mpr (hy.magnitude_lt_of_exponent hx h)]
    rfl

theorem compare_neg (p q : ℚ) : compare (-p) (-q) = (compare p q).swap := by
  rw [← Std.OrientedOrd.eq_swap, ← cmp_eq_compare, ← cmp_eq_compare]
  exact StrictAnti.cmp_map_eq (f := fun p : ℚ => -p) (fun _ _ => neg_lt_neg) p q

/-- Floats are compared as the numbers that they are. -/
theorem Dyadic.Canonical.compare_unpacked (hx : x.Canonical) (hy : y.Canonical) :
    UnpackedFloat.compare x.unpacked y.unpacked = some (compare x.value y.value) := by
  have hlt {p q : ℚ} (h : p < q) : some .lt = some (compare p q) :=
    congrArg some (compare_lt_iff_lt.mpr h).symm
  have hgt {p q : ℚ} (h : q < p) : some .gt = some (compare p q) :=
    congrArg some (compare_gt_iff_gt.mpr h).symm
  -- The parts decide only between numbers of one sign.
  have hparts := hx.compare_parts hy
  rcases x.sign_cases with ⟨s, hxu, hxv⟩ | ⟨hxm, hxu, hxv⟩ | ⟨hxm, hxu, hxv⟩ <;>
    rcases y.sign_cases with ⟨s', hyu, hyv⟩ | ⟨hym, hyu, hyv⟩ | ⟨hym, hyu, hyv⟩ <;>
    rw [hxu, hyu, hxv, hyv]
  · rfl
  · exact hlt (magnitude_pos hym)
  · exact hgt (neg_neg_of_pos (magnitude_pos hym))
  · exact hgt (magnitude_pos hxm)
  · exact congrArg some hparts
  · exact hgt ((neg_neg_of_pos (magnitude_pos hym)).trans (magnitude_pos hxm))
  · exact hlt (neg_neg_of_pos (magnitude_pos hxm))
  · exact hlt ((neg_neg_of_pos (magnitude_pos hxm)).trans (magnitude_pos hym))
  · rw [compare_neg, ← hparts]
    rfl

theorem lt_iff_compare {a b : Float} :
    a < b ↔ UnpackedFloat.compare a.toModel.unpack b.toModel.unpack = some .lt := by
  change decide ((UnpackedFloat.compare a.toModel.unpack b.toModel.unpack == some .lt) = true)
    = true ↔ _
  rw [decide_eq_true_iff, beq_iff_eq]

theorem lt_iff_value {a b : Float} (ha : Dyadic.ofFloat? a = some x)
    (hb : Dyadic.ofFloat? b = some y) : a < b ↔ x.value < y.value := by
  have hcompare := (Dyadic.ofFloat?_spec ha).1.compare_unpacked (Dyadic.ofFloat?_spec hb).1
  rw [lt_iff_compare, unpack_eq ha, unpack_eq hb, hcompare, Option.some_inj, compare_lt_iff_lt]

end

/-! ## Floats as extended numbers -/

/-- The number that a float is, the infinities among the numbers. What is not a number has none. -/
noncomputable def extended (x : Float) : Option EReal :=
  match Dyadic.ofFloat? x with
  | some d => some ((d.value : ℝ) : EReal)
  | none => if x = infinite false then some ⊤ else if x = infinite true then some ⊥ else none

/-- The lesser of two floats, the first if none is. -/
def least (x y : Float) : Float := if y < x then y else x

/-- The greater of two floats, the first if none is. -/
def greatest (x y : Float) : Float := if x < y then y else x

/-- What a number becomes that is too large for a float. -/
noncomputable def inRange (q : EReal) : EReal :=
  if 2 ^ 1024 ≤ q then ⊤ else if q ≤ -2 ^ 1024 then ⊥ else q

section
variable {x y : Float} {p q : EReal}

theorem extended_finite {d : Dyadic} (h : Dyadic.ofFloat? x = some d) :
    extended x = some ((d.value : ℝ) : EReal) := by
  rw [extended, h]

theorem extended_infinite (negative : Bool) :
    extended (infinite negative) = some (if negative then ⊥ else ⊤) := by
  have hnone : Dyadic.ofFloat? (infinite negative) = none := by cases negative <;> decide
  rw [extended, hnone]
  cases negative with
  | false => exact if_pos rfl
  | true => exact (if_neg (by decide)).trans (if_pos rfl)

theorem extended_cases (h : extended x = some p) :
    (∃ d, Dyadic.ofFloat? x = some d ∧ p = (d.value : ℝ)) ∨
      (x = infinite false ∧ p = ⊤) ∨ (x = infinite true ∧ p = ⊥) := by
  unfold extended at h
  split at h
  · rename_i d hd
    exact .inl ⟨d, hd, (Option.some.inj h).symm⟩
  · split_ifs at h with htop hbot
    · exact .inr (.inl ⟨htop, (Option.some.inj h).symm⟩)
    · exact .inr (.inr ⟨hbot, (Option.some.inj h).symm⟩)

theorem Dyadic.compare_infinite (d : Dyadic) (negative : Bool) :
    UnpackedFloat.compare d.unpacked (.infinity (signOf negative))
        = some (if negative then .gt else .lt) ∧
      UnpackedFloat.compare (.infinity (signOf negative)) d.unpacked
        = some (if negative then .lt else .gt) := by
  rcases d.sign_cases with ⟨s, hu, -⟩ | ⟨h, hu, -⟩ | ⟨h, hu, -⟩ <;> rw [hu] <;>
    cases negative <;> exact ⟨rfl, rfl⟩

/-- Floats are compared as the extended numbers that they are. -/
theorem lt_iff_extended (hx : extended x = some p) (hy : extended y = some q) :
    x < y ↔ p < q := by
  rw [lt_iff_compare]
  rcases extended_cases hx with ⟨d, hd, rfl⟩ | ⟨rfl, rfl⟩ | ⟨rfl, rfl⟩ <;>
    rcases extended_cases hy with ⟨d', hd', rfl⟩ | ⟨rfl, rfl⟩ | ⟨rfl, rfl⟩
  · rw [← lt_iff_compare, lt_iff_value hd hd', EReal.coe_lt_coe_iff, Rat.cast_lt]
  · rw [unpack_eq hd, unpack_infinite, (d.compare_infinite false).1]
    exact iff_of_true rfl (EReal.coe_lt_top _)
  · rw [unpack_eq hd, unpack_infinite, (d.compare_infinite true).1]
    exact iff_of_false nofun not_lt_bot
  · rw [unpack_eq hd', unpack_infinite, (d'.compare_infinite false).2]
    exact iff_of_false nofun not_top_lt
  · exact iff_of_false (by decide) not_top_lt
  · exact iff_of_false (by decide) not_top_lt
  · rw [unpack_eq hd', unpack_infinite, (d'.compare_infinite true).2]
    exact iff_of_true rfl (EReal.bot_lt_coe _)
  · exact iff_of_true (by decide) bot_lt_top
  · exact iff_of_false (by decide) not_lt_bot

theorem extended_least (hx : extended x = some p) (hy : extended y = some q) :
    extended (least x y) = some (min p q) := by
  unfold least
  split <;> rename_i h <;> rw [lt_iff_extended hy hx] at h
  · rw [hy, min_eq_right h.le]
  · rw [hx, min_eq_left (not_lt.mp h)]

theorem extended_greatest (hx : extended x = some p) (hy : extended y = some q) :
    extended (greatest x y) = some (max p q) := by
  unfold greatest
  split <;> rename_i h <;> rw [lt_iff_extended hx hy] at h
  · rw [hy, max_eq_right h.le]
  · rw [hx, max_eq_left (not_lt.mp h)]

theorem extended_zero : extended 0 = some 0 := by
  have hzero : Dyadic.ofFloat? 0 = some ⟨false, 0, -1074, false⟩ := by decide
  rw [extended_finite hzero, Dyadic.value_eq]
  simp [Dyadic.magnitude]

theorem two_pow_extended (k : Nat) : (2 : EReal) ^ k = (((2 ^ k : ℚ) : ℝ) : EReal) := by
  rw [Rat.cast_pow, EReal.coe_pow]
  rfl

theorem two_pow_le_extended {v : ℚ} {k : Nat} : (2 : EReal) ^ k ≤ (v : ℝ) ↔ 2 ^ k ≤ v := by
  rw [two_pow_extended, EReal.coe_le_coe_iff, Rat.cast_le]

theorem extended_le_neg_two_pow {v : ℚ} {k : Nat} :
    ((v : ℝ) : EReal) ≤ -2 ^ k ↔ v ≤ -2 ^ k := by
  rw [two_pow_extended, ← EReal.coe_neg, ← Rat.cast_neg, EReal.coe_le_coe_iff, Rat.cast_le]

theorem two_pow_pos_extended (k : Nat) : (0 : EReal) < 2 ^ k := by
  rw [two_pow_extended, EReal.coe_pos]
  positivity

theorem inRange_mono : Monotone inRange := by
  intro p q h
  unfold inRange
  generalize (2 : EReal) ^ 1024 = bound
  by_cases hp : bound ≤ p
  · rw [if_pos hp, if_pos (hp.trans h)]
  · rw [if_neg hp]
    split
    · exact bot_le
    · rename_i hlow
      split
      · exact le_top
      · split
        · rename_i hq
          exact absurd (h.trans hq) hlow
        · exact h

theorem inRange_bot : inRange ⊥ = ⊥ := by
  have hbound := two_pow_pos_extended 1024
  unfold inRange
  generalize (2 : EReal) ^ 1024 = bound at *
  rw [if_neg (not_le_of_gt (bot_le.trans_lt hbound)), if_pos bot_le]

theorem inRange_of_lt (h : 0 ≤ p) (hp : p < 2 ^ 1024) : inRange p = p := by
  have hbound := two_pow_pos_extended 1024
  unfold inRange
  generalize (2 : EReal) ^ 1024 = bound at *
  have hneg : -bound < 0 := EReal.neg_lt_zero.mpr hbound
  rw [if_neg hp.not_ge, if_neg (hneg.trans_le h).not_ge]

theorem inRange_coe (v : ℚ) : inRange (v : ℝ) =
    if 2 ^ 1024 ≤ v then ⊤ else if v ≤ -2 ^ 1024 then ⊥ else ((v : ℝ) : EReal) := by
  simp only [inRange, two_pow_le_extended, extended_le_neg_two_pow]

theorem Dyadic.Canonical.inRange_value {d : Dyadic} (hd : d.Canonical) :
    inRange (d.value : ℝ) = (d.value : ℝ) := by
  obtain ⟨hlow, hhigh⟩ := abs_lt.mp (d.abs_value.trans_lt hd.magnitude_lt)
  rw [inRange_coe, if_neg hhigh.not_ge, if_neg hlow.not_ge]

/-- Doubling is exact in the range of floats, and infinite beyond it. -/
theorem extended_mul_two_pow {k : Nat} (hx : extended x = some p) (hk : k ≤ 1023) :
    extended (x * .ofNat (Nat.pow 2 k)) = some (inRange (p * 2 ^ k)) := by
  have hinfinite (negative : Bool) :
      infinite negative * .ofNat (Nat.pow 2 k) = infinite negative := by
    change Float.ofModel (.pack (UnpackedFloat.mul .binary64 (infinite negative).toModel.unpack _))
      = _
    rw [unpack_infinite, unpack_eq (ofFloat?_two_pow hk)]
    cases negative <;> rfl
  rcases extended_cases hx with ⟨d, hd, rfl⟩ | ⟨rfl, rfl⟩ | ⟨rfl, rfl⟩
  · have hproduct : ((d.value : ℝ) : EReal) * 2 ^ k = ((d.value * 2 ^ k : ℚ) : ℝ) := by
      rw [two_pow_extended, ← EReal.coe_mul, ← Rat.cast_mul]
    rw [hproduct]
    rcases mul_two_pow hd hk with ⟨product, hfinite, hvalue⟩ | ⟨hinf, hlarge⟩
    · rw [extended_finite hfinite, ← hvalue, (Dyadic.ofFloat?_spec hfinite).1.inRange_value]
    · have hbound : (0 : ℚ) < 2 ^ 1024 := pow_pos two_pos _
      rw [hinf, extended_infinite, inRange_coe, Dyadic.value_eq]
      cases d.negative with
      | false => exact congrArg some (if_pos hlarge).symm
      | true =>
        have hnegative : -d.magnitude * 2 ^ k ≤ -2 ^ 1024 := by
          rw [neg_mul]
          exact neg_le_neg hlarge
        have hlow : -d.magnitude * 2 ^ k < 2 ^ 1024 :=
          hnegative.trans_lt ((neg_neg_of_pos hbound).trans hbound)
        exact congrArg some ((if_neg hlow.not_ge).trans (if_pos hnegative)).symm
  · rw [hinfinite, extended_infinite, EReal.top_mul_of_pos (two_pow_pos_extended k)]
    exact congrArg some (if_pos le_top).symm
  · rw [hinfinite, extended_infinite, EReal.bot_mul_of_pos (two_pow_pos_extended k), inRange_bot]
    rfl

/-- What floats are is in their range. -/
theorem inRange_extended (hx : extended x = some p) : inRange p = p := by
  rcases extended_cases hx with ⟨d, hd, rfl⟩ | ⟨rfl, rfl⟩ | ⟨rfl, rfl⟩
  · exact (Dyadic.ofFloat?_spec hd).1.inRange_value
  · exact if_pos le_top
  · exact inRange_bot

theorem extended_lt (hx : extended x = some p) (hp : p ≠ ⊤) : p < 2 ^ 1024 := by
  by_contra hle
  have htop : inRange p = ⊤ := if_pos (not_lt.mp hle)
  exact hp ((inRange_extended hx).symm.trans htop)

end

end Automation.Number
