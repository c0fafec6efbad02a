import Automation.Proofs.Number.Rounding

/-!
# Shortest decimals read back

The decimal that is written for a float is in the interval around it (`Dyadic.shortest_reads`): on the
grid of seventeen digits, which is tried last, there is always one.
-/

namespace Automation.Number

/-! ## The count of leading zeros -/

theorem leadingZeros_spec {n d fuel : Nat} (h : d ≤ n * 10 ^ fuel) :
    d ≤ n * 10 ^ (leadingZeros n d fuel + 1) := by
  induction fuel generalizing n with
  | zero =>
    rw [leadingZeros]
    omega
  | succ fuel ih =>
    rw [leadingZeros]
    split
    · omega
    · rw [Nat.add_comm 1, Nat.pow_succ', ← Nat.mul_assoc]
      rw [Nat.pow_succ', ← Nat.mul_assoc] at h
      exact ih h

/-- The number that a decimal writes. -/
def Decimal.value (d : Decimal) : ℚ := d.digits * 10 ^ d.exponent

namespace Dyadic

variable {x : Dyadic}

/-! ## The magnitude of a float -/

theorem magnitude_eq (x : Dyadic) : x.magnitude
    = (x.mantissa * (powerRatio 2 x.exponent).1 : Nat) / ((powerRatio 2 x.exponent).2 : ℚ) := by
  have hratio := powerRatio_eq 2 x.exponent
  rw [magnitude, Nat.cast_mul, mul_div_assoc, hratio]
  rfl

theorem reads_iff {q : ℚ} : x.Reads q ↔ x.quarters.1 * (2 ^ x.exponent / 4) ≤ q ∧
    q ≤ x.quarters.2.2 * (2 ^ x.exponent / 4) ∧
    (q = x.quarters.1 * (2 ^ x.exponent / 4) ∨ q = x.quarters.2.2 * (2 ^ x.exponent / 4) →
      x.mantissa % 2 = 0) :=
  ⟨fun h => ⟨h.low, h.high, h.even⟩, fun ⟨hlow, hhigh, heven⟩ => ⟨hlow, hhigh, heven⟩⟩

/-- Every float is in the interval around it, and not at its ends. -/
theorem magnitude_inside (hpos : 0 < x.mantissa) :
    x.quarters.1 * (2 ^ x.exponent / 4) < x.magnitude ∧
      x.magnitude < x.quarters.2.2 * (2 ^ x.exponent / 4) := by
  have hunit : (0 : ℚ) < 2 ^ x.exponent := by positivity
  rw [quarters_low hpos, quarters_high, magnitude]
  constructor
  · split <;> linarith
  · linarith

theorem reads_magnitude (hpos : 0 < x.mantissa) : x.Reads x.magnitude := by
  obtain ⟨hlow, hhigh⟩ := magnitude_inside hpos
  refine ⟨hlow.le, hhigh.le, ?_⟩
  rintro (h | h)
  · exact absurd h hlow.ne'
  · exact absurd h hhigh.ne

/-- The decimal point is not put too far to the right. -/
theorem pointPosition_spec (hx : x.Canonical) (hpos : 0 < x.mantissa) :
    (10 : ℚ) ^ (x.pointPosition - 1) ≤ x.magnitude := by
  obtain ⟨hlow, -⟩ := (reads_magnitude hpos).bounds hx hpos
  rw [magnitude_eq] at hlow ⊢
  unfold pointPosition
  obtain ⟨-, hden⟩ := powerRatio_pos (by decide : 0 < 2) x.exponent
  generalize powerRatio 2 x.exponent = p at *
  obtain ⟨num, den⟩ := p
  dsimp only at *
  generalize x.mantissa * num = n at *
  have hdenpos : (0 : ℚ) < den := by exact_mod_cast hden
  split
  · rename_i hwhole
    exact (digitCount_spec hwhole).1.trans Nat.cast_div_le
  · have hreach : den ≤ n * 10 ^ 400 := by
      rw [zpow_neg, zpow_ofNat, lt_div_iff₀ hdenpos, inv_mul_lt_iff₀ (by positivity)] at hlow
      have := hlow.le
      rw [mul_comm] at this
      exact_mod_cast this
    have hzeros := leadingZeros_spec hreach
    generalize leadingZeros n den 400 = k at *
    rw [show -(k : Int) - 1 = -(k + 1 : Nat) by omega, zpow_neg, zpow_natCast, le_div_iff₀ hdenpos,
      inv_mul_le_iff₀ (by positivity), mul_comm]
    exact_mod_cast hzeros

/-! ## Decimals in the interval -/

theorem covers_iff {d : Decimal} : x.covers d = true ↔ x.Reads d.value := by
  have hquarter : (2 : ℚ) ^ x.exponent / 4 = 2 ^ (x.exponent - 2) := by
    rw [zpow_sub₀ (by norm_num)]
    norm_num
  have htwo := powerRatio_eq 2 (x.exponent - 2)
  have hten := powerRatio_eq 10 d.exponent
  obtain ⟨-, hpd⟩ := powerRatio_pos (by decide : 0 < 2) (x.exponent - 2)
  obtain ⟨-, hud⟩ := powerRatio_pos (by decide : 0 < 10) d.exponent
  unfold covers
  rw [reads_iff, hquarter, Decimal.value]
  generalize powerRatio 2 (x.exponent - 2) = p at *
  generalize powerRatio 10 d.exponent = u at *
  generalize x.quarters = ends
  obtain ⟨pn, pd⟩ := p
  obtain ⟨un, ud⟩ := u
  obtain ⟨low, -, high⟩ := ends
  rw [Nat.cast_ofNat] at htwo hten
  rw [← htwo, ← hten]
  have hpdpos : (0 : ℚ) < pd := by exact_mod_cast hpd
  have hudpos : (0 : ℚ) < ud := by exact_mod_cast hud
  -- Both sides of every comparison are multiplied by the denominators.
  have hle (a c : Nat) : (a : ℚ) * (pn / pd) ≤ c * (un / ud) ↔ a * pn * ud ≤ c * un * pd := by
    rw [← mul_div_assoc, ← mul_div_assoc, div_le_div_iff₀ hpdpos hudpos]
    exact_mod_cast Iff.rfl
  have hge (a c : Nat) : (c : ℚ) * (un / ud) ≤ a * (pn / pd) ↔ c * un * pd ≤ a * pn * ud := by
    rw [← mul_div_assoc, ← mul_div_assoc, div_le_div_iff₀ hudpos hpdpos]
    exact_mod_cast Iff.rfl
  have heq (a c : Nat) : (c : ℚ) * (un / ud) = a * (pn / pd) ↔ c * un * pd = a * pn * ud := by
    rw [le_antisymm_iff, hle, hge, le_antisymm_iff]
  dsimp only
  rw [hle, hge, heq, heq]
  split <;> rename_i heven <;>
    simp only [heven, Bool.and_eq_true, decide_eq_true_eq, implies_true, and_true, imp_false]
  all_goals omega

theorem onGrid?_reads {point : Int} {count : Nat} {d : Decimal} (h : x.onGrid? point count = some d) :
    x.Reads d.value := by
  unfold onGrid? at h
  dsimp only at h
  split at h
  · rename_i hbelow habove
    obtain rfl := Option.some.inj h
    refine covers_iff.mp ?_
    unfold roundHalfEven
    dsimp only
    split
    · exact habove
    · exact hbelow
  · rename_i hbelow _
    obtain rfl := Option.some.inj h
    exact covers_iff.mp hbelow
  · rename_i _ habove
    obtain rfl := Option.some.inj h
    exact covers_iff.mp habove
  · cases h

theorem le_low_of_not_reads {q : ℚ} (hpos : 0 < x.mantissa) (hq : q ≤ x.magnitude)
    (h : ¬x.Reads q) : q ≤ x.quarters.1 * (2 ^ x.exponent / 4) := by
  by_contra hlow
  rw [not_le] at hlow
  have hhigh := hq.trans_lt (magnitude_inside hpos).2
  exact h ⟨hlow.le, hhigh.le, fun hends => hends.elim (absurd · hlow.ne') (absurd · hhigh.ne)⟩

theorem high_le_of_not_reads {q : ℚ} (hpos : 0 < x.mantissa) (hq : x.magnitude ≤ q)
    (h : ¬x.Reads q) : x.quarters.2.2 * (2 ^ x.exponent / 4) ≤ q := by
  by_contra hhigh
  rw [not_le] at hhigh
  have hlow := (magnitude_inside hpos).1.trans_le hq
  exact h ⟨hlow.le, hhigh.le, fun hends => hends.elim (absurd · hlow.ne') (absurd · hhigh.ne)⟩

/-- The interval around a float is wider than the last of its seventeen digits. -/
theorem seventeenth_lt (hx : x.Canonical) (hpos : 0 < x.mantissa) :
    x.quarters.1 * ((2 : ℚ) ^ x.exponent / 4) + 10 ^ (x.pointPosition - 17)
      < x.quarters.2.2 * (2 ^ x.exponent / 4) := by
  have hunit : (0 : ℚ) < 2 ^ x.exponent := by positivity
  have hpoint := pointPosition_spec hx hpos
  rw [show x.pointPosition - 1 = x.pointPosition - 17 + 16 by omega, zpow_add₀ (by norm_num),
    magnitude] at hpoint
  rw [quarters_low hpos, quarters_high]
  split
  · rename_i hgap
    have hm : (x.mantissa : ℚ) = 2 ^ 52 := by exact_mod_cast (hx.gap.mp hgap).1
    rw [hm] at hpoint
    norm_num at hpoint
    linarith
  · have hmlt : (x.mantissa : ℚ) + 1 ≤ 2 ^ 53 := by
      have : x.mantissa + 1 ≤ 2 ^ 53 := by rcases hx.range with h | h <;> omega
      exact_mod_cast this
    norm_num at hpoint hmlt
    nlinarith

/-- Of the two neighbours on a grid that is finer than the interval is wide, one is in it. -/
theorem onGrid?_isSome {point : Int} {count : Nat} (hpos : 0 < x.mantissa)
    (hfine : x.quarters.1 * ((2 : ℚ) ^ x.exponent / 4) + 10 ^ (point - count)
      < x.quarters.2.2 * (2 ^ x.exponent / 4)) : (x.onGrid? point count).isSome = true := by
  have hten := powerRatio_eq 10 (point - count)
  have hmagnitude := magnitude_eq x
  obtain ⟨-, hpd⟩ := powerRatio_pos (by decide : 0 < 2) x.exponent
  obtain ⟨hun, hud⟩ := powerRatio_pos (by decide : 0 < 10) (point - count)
  unfold onGrid?
  generalize powerRatio 2 x.exponent = p at *
  generalize powerRatio 10 (point - count) = u at *
  obtain ⟨pn, pd⟩ := p
  obtain ⟨un, ud⟩ := u
  rw [Nat.cast_ofNat] at hten
  dsimp only at *
  have hgrid : x.magnitude / 10 ^ (point - count) = (x.mantissa * pn * ud : Nat) / (un * pd : Nat) := by
    rw [hmagnitude, ← hten]
    push_cast
    have hpdpos : (pd : ℚ) ≠ 0 := by exact_mod_cast hpd.ne'
    have hudpos : (ud : ℚ) ≠ 0 := by exact_mod_cast hud.ne'
    have hunpos : (un : ℚ) ≠ 0 := by exact_mod_cast hun.ne'
    field_simp
  have hstep : (0 : ℚ) < 10 ^ (point - count) := by positivity
  generalize x.mantissa * pn * ud = exact at *
  generalize un * pd = unit at *
  have hbelow : (Decimal.mk (exact / unit) (point - count)).value ≤ x.magnitude := by
    rw [Decimal.value, ← le_div_iff₀ hstep, hgrid]
    exact Nat.cast_div_le
  have habove : x.magnitude ≤ (Decimal.mk (exact / unit + 1) (point - count)).value := by
    rw [Decimal.value, ← div_le_iff₀ hstep, hgrid, ← Nat.floor_div_eq_div (K := ℚ)]
    push_cast
    exact (Nat.lt_floor_add_one ((exact : ℚ) / unit)).le
  split
  · rfl
  · rfl
  · rfl
  · rename_i hnotbelow hnotabove
    rw [Bool.eq_false_iff, ne_eq, covers_iff] at hnotbelow hnotabove
    have hlow := le_low_of_not_reads hpos hbelow hnotbelow
    have hhigh := high_le_of_not_reads hpos habove hnotabove
    rw [Decimal.value] at hlow hhigh
    push_cast at hlow hhigh
    linarith

/-- The shortest decimal of a float is in the interval around it. -/
theorem shortest_reads (hx : x.Canonical) (hpos : 0 < x.mantissa) : x.Reads x.shortest.value := by
  unfold shortest
  cases hfound : (List.range 17).findSome? fun n => x.onGrid? x.pointPosition (n + 1) with
  | some d =>
    obtain ⟨n, -, hd⟩ := List.exists_of_findSome?_eq_some hfound
    simp only [hfound, Option.getD_some]
    exact onGrid?_reads hd
  | none =>
    have hnone := List.findSome?_eq_none_iff.mp hfound 16 (by decide)
    have hsome := onGrid?_isSome hpos (seventeenth_lt hx hpos)
    rw [hnone] at hsome
    cases hsome

theorem shortest_digits_pos (hx : x.Canonical) (hpos : 0 < x.mantissa) : 0 < x.shortest.digits := by
  by_contra hzero
  obtain ⟨hlow, -⟩ := (shortest_reads hx hpos).bounds hx hpos
  rw [Decimal.value, Nat.eq_zero_of_not_pos hzero, Nat.cast_zero, zero_mul] at hlow
  exact absurd hlow (not_lt.mpr (by positivity))

end Dyadic

end Automation.Number
