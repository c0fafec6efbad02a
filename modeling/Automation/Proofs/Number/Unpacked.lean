import Automation.Proofs.Number.Rounding

/-!
# The parts of floats

The arithmetic of floats takes them apart into a sign, a mantissa and an exponent, and puts the
result together. The parts are those that are read from the bits (`Number.unpack_eq`), and what is
put together from the parts of a float is read as this float (`Number.ofFloat?_pack`).
-/

namespace Automation.Number

open Float.Model Float.Model.UnpackedFloat

/-! ## Taking floats apart -/

def signOf (negative : Bool) : Sign := if negative then .negative else .positive

/-- A finite float as the arithmetic sees it. -/
def Dyadic.unpacked (d : Dyadic) : UnpackedFloat :=
  if h : 0 < d.mantissa then .finite (signOf d.negative) d.mantissa d.exponent h
  else .zero (signOf d.negative)

theorem unpack_infinite (negative : Bool) :
    (infinite negative).toModel.unpack = .infinity (signOf negative) := by
  cases negative <;> rfl

theorem finite_congr {s : Sign} {m m' : Nat} {e e' : Int} {h : 0 < m} (hm : m = m') (he : e = e') :
    UnpackedFloat.finite s m e h = .finite s m' e' (hm ▸ h) := by
  subst hm he
  rfl

theorem unpackExponent_toNat (x : Float) : (@unpackExponent .binary64 x.toBits.toBitVec).toNat
    = x.toBits.toNat / Nat.pow 2 52 % 2048 := by
  rw [unpackExponent_def, BitVec.extractLsb'_toNat, Nat.shiftRight_eq_div_pow]
  rfl

theorem unpackMantissa_toNat (x : Float) : (@unpackMantissa .binary64 x.toBits.toBitVec).toNat
    = x.toBits.toNat % Nat.pow 2 52 := by
  rw [unpackMantissa_def, BitVec.extractLsb'_toNat, Nat.shiftRight_zero]
  rfl

theorem unpackSign_eq (x : Float) : Sign.ofBitVec (@unpackSign .binary64 x.toBits.toBitVec)
    = signOf (x.toBits.toNat / Nat.pow 2 63 == 1) := by
  have hlt := x.toBits.toNat_lt
  have hnat : (@unpackSign .binary64 x.toBits.toBitVec).toNat = x.toBits.toNat / Nat.pow 2 63 := by
    rw [unpackSign_def, BitVec.extractLsb'_toNat, Nat.shiftRight_eq_div_pow]
    change x.toBits.toNat / 2 ^ 63 % 2 = x.toBits.toNat / 2 ^ 63
    omega
  rw [← hnat]
  obtain hv | hv := BitVec.eq_zero_or_eq_one (@unpackSign .binary64 x.toBits.toBitVec) <;>
    rw [hv] <;> rfl

/-- The parts that a finite float is taken apart into are those that its bits say. -/
theorem unpack_eq {x : Float} {d : Dyadic} (h : Dyadic.ofFloat? x = some d) :
    x.toModel.unpack = d.unpacked := by
  have hE := unpackExponent_toNat x
  have hM := unpackMantissa_toNat x
  change UnpackedFloat.unpack .binary64 x.toBits.toBitVec = _
  unfold UnpackedFloat.unpack
  dsimp only
  rw [unpackSign_eq]
  unfold Dyadic.ofFloat? at h
  dsimp only at h
  rw [← hE, ← hM] at h
  set exponent := @unpackExponent .binary64 x.toBits.toBitVec
  set mantissa := @unpackMantissa .binary64 x.toBits.toBitVec
  -- An exponent of ones is that of no finite float, and one of zeros has no bit in front.
  split at h
  · cases h
  · rename_i hones
    rw [if_neg fun hvec => hones (congrArg BitVec.toNat hvec)]
    split at h <;> rename_i hzero
    · obtain rfl := Option.some.inj h
      rw [if_pos (BitVec.eq_of_toNat_eq hzero)]
      unfold Dyadic.unpacked
      by_cases hmantissa : mantissa = 0#52
      · rw [dif_pos hmantissa, dif_neg (by simp [hmantissa])]
      · have hpos : 0 < mantissa.toNat :=
          Nat.pos_of_ne_zero fun h => hmantissa (BitVec.eq_of_toNat_eq h)
        rw [dif_neg hmantissa, dif_pos hpos]
        refine finite_congr rfl ?_
        rw [hzero]
        rfl
    · obtain rfl := Option.some.inj h
      rw [if_neg fun hvec => hzero (congrArg BitVec.toNat hvec)]
      unfold Dyadic.unpacked
      rw [dif_pos (by dsimp only; exact Nat.add_pos_left (by decide) _)]
      refine finite_congr ?_ ?_
      · rw [BitVec.toNat_append, ← Nat.shiftLeft_add_eq_or_of_lt mantissa.isLt]
        rfl
      · rfl

/-! ## Putting floats together -/

theorem packComponents_toNat (s : Sign) (exponent : BitVec 11) (mantissa : BitVec 52) :
    (packComponents .binary64 s exponent mantissa).toNat
      = s.toBitVec.toNat * 2 ^ 63 + exponent.toNat * 2 ^ 52 + mantissa.toNat := by
  have hnat : (packComponents .binary64 s exponent mantissa).toNat =
      ((s.toBitVec.toNat <<< 11) + exponent.toNat) <<< 52 + mantissa.toNat := by
    rw [Nat.shiftLeft_add_eq_or_of_lt exponent.isLt, Nat.shiftLeft_add_eq_or_of_lt mantissa.isLt]
    rw [packComponents, BitVec.toNat_append, BitVec.toNat_append]
  rw [hnat, Nat.shiftLeft_eq, Nat.shiftLeft_eq]
  omega

theorem signOf_toNat (negative : Bool) :
    (signOf negative).toBitVec.toNat = if negative then 1 else 0 := by
  cases negative <;> rfl

/-- The number of a float's bits says what is read from it. -/
theorem ofFloat?_of_toNat {x : Float} {negative : Bool} {biased fraction : Nat}
    (hx : x.toBits.toNat = (if negative then 1 else 0) * 2 ^ 63 + biased * 2 ^ 52 + fraction)
    (hbiased : biased < 2047) (hfraction : fraction < 2 ^ 52) :
    Dyadic.ofFloat? x = some (if biased = 0 then ⟨negative, fraction, -1074, false⟩
      else ⟨negative, 2 ^ 52 + fraction, (biased : Int) - 1075, fraction == 0 && 1 < biased⟩) := by
  unfold Dyadic.ofFloat?
  dsimp only
  have hsign : (x.toBits.toNat / Nat.pow 2 63 == 1) = negative := by
    rw [hx]
    change (_ / 2 ^ 63 == 1) = negative
    cases negative
    · simp only [Bool.false_eq_true, if_false, beq_eq_false_iff_ne]
      omega
    · simp only [if_true, beq_iff_eq]
      omega
  have hexponent : x.toBits.toNat / Nat.pow 2 52 % 2048 = biased := by
    rw [hx]
    change _ / 2 ^ 52 % 2048 = biased
    cases negative <;> simp only [Bool.false_eq_true, if_false, if_true] <;> omega
  have hmantissa : x.toBits.toNat % Nat.pow 2 52 = fraction := by
    rw [hx]
    change _ % 2 ^ 52 = fraction
    cases negative <;> simp only [Bool.false_eq_true, if_false, if_true] <;> omega
  rw [hsign, hexponent, hmantissa, if_neg (by omega)]
  split <;> rfl

theorem log2_eq {m : Nat} (hlow : 2 ^ 52 ≤ m) (hhigh : m < 2 ^ 53) : m.log2 = 52 :=
  (Nat.log2_eq_iff (by omega)).mpr ⟨hlow, hhigh⟩

/-- The parts of a normal float, put together. -/
theorem pack_normal (negative : Bool) {m : Nat} {e : Int} (h : 0 < m) (hlow : 2 ^ 52 ≤ m)
    (hhigh : m < 2 ^ 53) (he : -1074 ≤ e) (he' : e ≤ 971) :
    (UnpackedFloat.pack .binary64 (.finite (signOf negative) m e h)).toNat
      = (if negative then 1 else 0) * 2 ^ 63 + (e + 1075).toNat * 2 ^ 52 + (m - 2 ^ 52) := by
  have hbiased : (e + (Format.binary64.exponentBias : Nat) + (52 : Nat)).toNat
      = (e + 1075).toNat := by
    change (e + 1023 + 52).toNat = _
    omega
  have hbits : m.log2 + 1 = Format.binary64.mantissaBits := by
    rw [log2_eq hlow hhigh]
    rfl
  unfold UnpackedFloat.pack
  dsimp only
  rw [hbiased, if_neg (by omega), if_pos hbits, packComponents_toNat, signOf_toNat,
    BitVec.toNat_ofNat, BitVec.toNat_ofNat]
  omega

/-- The parts of a float that is too small to be normal, put together. -/
theorem pack_subnormal (negative : Bool) {m : Nat} (h : 0 < m) (hhigh : m < 2 ^ 52) :
    (UnpackedFloat.pack .binary64 (.finite (signOf negative) m (-1074) h)).toNat
      = (if negative then 1 else 0) * 2 ^ 63 + m := by
  have hbits : ¬m.log2 + 1 = Format.binary64.mantissaBits := by
    change ¬m.log2 + 1 = 53
    have := (Nat.log2_lt h.ne').mpr hhigh
    omega
  unfold UnpackedFloat.pack
  dsimp only
  rw [if_neg (by decide), if_neg hbits, packComponents_toNat, signOf_toNat, BitVec.toNat_ofNat]
  change _ + 0 * 2 ^ 52 + m % 2 ^ 52 = _
  omega

/-- What is put together from the parts of a float is read as this float. -/
theorem ofFloat?_pack {d : Dyadic} (hd : d.Canonical) :
    Dyadic.ofFloat? (.ofModel (.pack d.unpacked)) = some d := by
  have hbits : (Float.ofModel (.pack d.unpacked)).toBits.toNat =
      (UnpackedFloat.pack .binary64 d.unpacked).toNat := rfl
  obtain ⟨negative, m, e, halved⟩ := d
  obtain ⟨hrange, hgap⟩ := hd
  dsimp only at hrange hgap
  rcases hrange with ⟨hlow, hhigh, he, he'⟩ | ⟨hhigh, rfl⟩
  · have hm : 0 < m := by omega
    have hunpacked : Dyadic.unpacked ⟨negative, m, e, halved⟩ = .finite (signOf negative) m e hm :=
      dif_pos hm
    rw [hunpacked, pack_normal negative hm hlow hhigh he he'] at hbits
    rw [hunpacked, ofFloat?_of_toNat hbits (by omega) (by omega), if_neg (by omega)]
    have hhalved : (m - 2 ^ 52 == 0 && decide (1 < (e + 1075).toNat)) = halved := by
      rw [Bool.eq_iff_iff, hgap]
      simp only [Bool.and_eq_true, beq_iff_eq, decide_eq_true_eq]
      omega
    have hexponent : ((e + 1075).toNat : Int) - 1075 = e := by omega
    rw [hhalved, hexponent, Nat.add_sub_cancel' hlow]
  · have hhalved : halved = false := by
      rw [Bool.eq_false_iff, Ne, hgap]
      omega
    subst hhalved
    by_cases hm : 0 < m
    · have hunpacked : Dyadic.unpacked ⟨negative, m, -1074, false⟩
          = .finite (signOf negative) m (-1074) hm := dif_pos hm
      have hzero : (if negative = true then 1 else 0) * 2 ^ 63 + m
          = (if negative = true then 1 else 0) * 2 ^ 63 + 0 * 2 ^ 52 + m := by
        rw [Nat.zero_mul, Nat.add_zero]
      rw [hunpacked, pack_subnormal negative hm hhigh, hzero] at hbits
      rw [hunpacked, ofFloat?_of_toNat hbits (by decide) hhigh, if_pos rfl]
    · obtain rfl : m = 0 := by omega
      cases negative <;> rfl

/-- An exponent that is too large makes a float infinite. -/
theorem pack_overflow (negative : Bool) {m : Nat} {e : Int} (h : 0 < m) (he : 971 < e) :
    Float.ofModel (.pack (.finite (signOf negative) m e h)) = infinite negative := by
  have hpacked : UnpackedFloat.pack .binary64 (.finite (signOf negative) m e h)
      = packedInfinity .binary64 (signOf negative) := by
    have hbiased : (e + (Format.binary64.exponentBias : Nat) + (52 : Nat)).toNat
        = (e + 1075).toNat := by
      change (e + 1023 + 52).toNat = _
      omega
    unfold UnpackedFloat.pack
    dsimp only
    rw [hbiased, if_pos (by omega)]
  have hinfinite : Float.ofModel (.pack (.infinity (signOf negative))) = infinite negative := by
    cases negative <;> rfl
  rw [← hinfinite, ← Float.toBits_inj]
  exact congrArg UInt64.ofBitVec hpacked

end Automation.Number
