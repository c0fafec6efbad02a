import Mathlib.Data.List.TakeWhile
import Automation.Proofs.Schema.Reading
import Automation.Proofs.Schema.RoundTrip
import Automation.Proofs.Text.Digits
import Automation.Proofs.Time.Wire

/-!
# What the reader of stamps checks

Whatever is read as a point in time is a stamp of the calendar whose offset counts whole minutes, so
it reads back when it is written.
-/

namespace Automation

namespace Time.Wire

/-! ## Parts -/

theorem digits_lt {count n : Nat} {fault : Fault} {cs rest : List Char}
    (h : digits count fault cs = .ok (n, rest)) : n < 10 ^ count := by
  unfold digits at h
  dsimp only at h
  split at h <;> rename_i hc
  · simp only [Bool.and_eq_true, decide_eq_true_eq, List.all_eq_true] at hc
    obtain ⟨m, hm, hvalue⟩ := Text.natOfDigits?_latin hc.2
    rw [hc.1] at hm
    simp only [hvalue, Option.getD_some, Except.ok.injEq, Prod.mk.injEq] at h
    omega
  · cases h

theorem two?_lt {limit n : Nat} {cs rest : List Char} (h : two? limit cs = some (n, rest)) :
    n < limit := by
  unfold two? at h
  split at h
  · split at h
    · cases h
      assumption
    · cases h
  · cases h

theorem datePart_valid {cs rest : List Char} {d : Date} (h : datePart cs = .ok (d, rest)) :
    d.Valid := by
  unfold datePart at h
  split at h
  · cases h
  · obtain ⟨⟨year, rest₁⟩, hyear, h⟩ := Except.bind_eq_ok.mp h
    obtain ⟨rest₂, -, h⟩ := Except.bind_eq_ok.mp h
    obtain ⟨⟨month, rest₃⟩, -, h⟩ := Except.bind_eq_ok.mp h
    obtain ⟨rest₄, -, h⟩ := Except.bind_eq_ok.mp h
    obtain ⟨⟨date, rest₅⟩, -, h⟩ := Except.bind_eq_ok.mp h
    have hlt := digits_lt hyear
    dsimp only at h
    split at h
    · cases h
    · split at h
      · cases h
      · split at h
        · cases h
        · rename_i hmonth hyear1 hday
          cases h
          simp only [Bool.or_eq_true, decide_eq_true_eq, not_or, Nat.not_lt] at hmonth hday
          simp only [Date.Valid]
          omega

/-- The offset that is read counts whole minutes. -/
theorem offset?_storable {cs : List Char} {offset : Option Int} (h : offset? cs = some offset) :
    ∀ o ∈ offset, o.natAbs < 86400000000 ∧ o.natAbs % 60000000 = 0 := by
  unfold offset? at h
  split at h
  · cases h
    rintro o ⟨⟩
  · split at h
    · split at h
      · cases h
        rintro o ⟨⟩
        decide
      · cases h
    · split at h
      · simp only [Option.bind_eq_bind, Option.bind_eq_some_iff] at h
        obtain ⟨⟨hours, rest₁⟩, -, ⟨minutes, rest₂⟩, -, h⟩ := h
        dsimp only at h
        split at h
        · cases h
        · rename_i hsize
          simp only [Bool.or_eq_true, decide_eq_true_eq, not_or] at hsize
          cases h
          simp only [day, hour, minute, second] at hsize ⊢
          rintro o ⟨⟩
          split <;> omega
      · cases h

theorem fraction?_lt {cs rest : List Char} {micros : Nat} (h : fraction? cs = some (micros, rest)) :
    micros < 1000000 := by
  unfold fraction? at h
  split at h
  · split at h
    · rename_i mark after _
      dsimp only at h
      split at h
      · cases h
      · obtain ⟨n, hn, hfst⟩ := Option.map_eq_some_iff.mp h
        generalize hsix : (after.takeWhile Text.isLatinDigit).take 6 = six at hn hfst
        have hdigits : ∀ c ∈ six, Text.isLatinDigit c = true := by
          intro c hc
          rw [← hsix] at hc
          exact List.mem_takeWhile_imp (List.mem_of_mem_take hc)
        have hlength : six.length ≤ 6 := by
          rw [← hsix]
          exact List.length_take_le 6 _
        obtain ⟨m, hm, hvalue⟩ := Text.natOfDigits?_latin hdigits
        rw [hvalue] at hn
        cases hn
        cases hfst
        -- Six digits count at most, and fewer are filled up with zeros.
        have hpow : 10 ^ six.length * 10 ^ (6 - six.length) = 1000000 := by
          rw [← Nat.pow_add, Nat.add_sub_cancel' hlength]
        rw [← hpow]
        exact Nat.mul_lt_mul_of_pos_right hm (Nat.pow_pos (by decide))
    · cases h
      decide
  · cases h
    decide

/-- A time of day and the offset behind it. -/
theorem time_of_parts {cs : List Char} {hours minutes seconds micros : Nat} {time : Int}
    {offset : Option Int} (hhours : hours < 24) (hminutes : minutes < 60) (hseconds : seconds < 60)
    (hmicros : micros < 1000000)
    (h : ((offset? cs).bind fun offset =>
      some ((hours : Int) * hour + minutes * minute + seconds * second + micros, offset))
        = some (time, offset)) :
    0 ≤ time ∧ time < 86400000000 ∧
      ∀ o ∈ offset, o.natAbs < 86400000000 ∧ o.natAbs % 60000000 = 0 := by
  obtain ⟨offset', hoffset, heq⟩ := Option.bind_eq_some_iff.mp h
  cases heq
  simp only [hour, minute, second]
  exact ⟨by omega, by omega, offset?_storable hoffset⟩

theorem clock?_bounds {cs : List Char} {time : Int} {offset : Option Int}
    (h : clock? cs = some (time, offset)) : 0 ≤ time ∧ time < 86400000000 ∧
      ∀ o ∈ offset, o.natAbs < 86400000000 ∧ o.natAbs % 60000000 = 0 := by
  unfold clock? at h
  simp only [Option.bind_eq_bind] at h
  obtain ⟨⟨hours, rest₁⟩, hhours, h⟩ := Option.bind_eq_some_iff.mp h
  dsimp only at h
  split at h
  · obtain ⟨⟨minutes, rest₂⟩, hminutes, h⟩ := Option.bind_eq_some_iff.mp h
    dsimp only at h
    split at h
    · obtain ⟨⟨seconds, rest₃⟩, hseconds, h⟩ := Option.bind_eq_some_iff.mp h
      obtain ⟨⟨micros, rest₄⟩, hmicros, h⟩ := Option.bind_eq_some_iff.mp h
      exact time_of_parts (two?_lt hhours) (two?_lt hminutes) (two?_lt hseconds)
        (fraction?_lt hmicros) h
    · exact time_of_parts (two?_lt hhours) (two?_lt hminutes) (show 0 < 60 by decide)
        (show 0 < 1000000 by decide) h
  · cases h

/-! ## Stamps -/

theorem storable_of_parts {d : Date} {time : Int} {offset : Option Int} (hd : d.Valid)
    (htime : 0 ≤ time ∧ time < 86400000000 ∧
      ∀ o ∈ offset, o.natAbs < 86400000000 ∧ o.natAbs % 60000000 = 0) :
    (⟨((d.ordinal : Int) - 1) * day + time, offset⟩ : Stamp).Storable := by
  obtain ⟨hfirst, hlast⟩ := Date.ordinal_bounds hd
  obtain ⟨hpos, hlt, hoffset⟩ := htime
  unfold lastOrdinal at hlast
  refine ⟨?_, hoffset⟩
  simp only [Stamp.InCalendar, Stamp.wallLimit, lastOrdinal, day, hour, minute, second]
  omega

/-- A moment that the calendar has, at UTC. -/
theorem ofInstant_storable {span : Int} {t : Stamp}
    (h : (if (Stamp.ofInstant span).wall < 0 then .error .beforeRange
      else if Stamp.wallLimit ≤ (Stamp.ofInstant span).wall then .error .afterRange
      else .ok (Stamp.ofInstant span) : Except CountFault Stamp) = .ok t) : t.Storable := by
  split at h <;> rename_i hfirst
  · cases h
  · split at h <;> rename_i hlast
    · cases h
    · cases h
      refine ⟨⟨Int.not_lt.mp hfirst, Int.not_le.mp hlast⟩, ?_⟩
      rintro o ⟨⟩
      decide

theorem ofNumber_storable {x : Float} {t : Stamp} (h : ofNumber x = .ok t) : t.Storable := by
  unfold ofNumber at h
  split at h
  · cases h
  · split at h
    · exact ofInstant_storable h
    · split at h <;> cases h

/-- Whatever is read is a stamp of the calendar. -/
theorem read_storable {s : String} {t : Stamp} (h : read s = .ok t) : t.Storable := by
  unfold read at h
  dsimp only [Option.bind_eq_bind] at h
  -- A date with a time of day is tried first, then a number, and then a date alone.
  split at h
  · rename_i t' hfull
    cases h
    obtain ⟨⟨date, rest⟩, hdate, hclock⟩ := Option.bind_eq_some_iff.mp hfull
    dsimp only at hclock
    split at hclock
    · split at hclock
      · obtain ⟨⟨time, offset⟩, htime, heq⟩ := Option.bind_eq_some_iff.mp hclock
        cases heq
        exact storable_of_parts (datePart_valid (Except.toOption_eq_some.mp hdate)) (clock?_bounds htime)
      · cases hclock
    · cases hclock
  · split at h
    · rename_i t' hcount
      cases h
      obtain ⟨x, -, hx⟩ := Option.bind_eq_some_iff.mp hcount
      exact ofNumber_storable (Except.toOption_eq_some.mp hx)
    · obtain ⟨⟨date, rest⟩, hdate, hrest⟩ := Except.bind_eq_ok.mp h
      dsimp only at hrest
      split at hrest
      · cases hrest
        have hmidnight : (⟨((date.ordinal : Int) - 1) * day + 0, none⟩ : Stamp).Storable :=
          storable_of_parts (datePart_valid hdate) ⟨by decide, by decide, by rintro o ⟨⟩⟩
        rw [Int.add_zero] at hmidnight
        exact hmidnight
      · cases hrest

end Time.Wire

/-! ## The codec of stamps -/

namespace Schema.Codec

theorem Restores.time {layout : Layout} {t : Time.Stamp} (h : t.Storable) :
    time.Restores layout t := by
  have hshape : Source.shape (Value.text t.wire) = .text t.wire := rfl
  refine ⟨?_, nofun⟩
  unfold Codec.time
  simp only [hshape, Time.Wire.read_wire h]

theorem ofCount_eq_ok {x : Except Time.Wire.CountFault Time.Stamp} {t : Time.Stamp}
    (h : time.ofCount x = .ok t) : x = .ok t := by
  cases x with
  | error fault => cases h
  | ok t' => exact congrArg Except.ok (Checked.ok.inj h)

theorem Ensures.time : time.Ensures Time.Stamp.Storable := by
  refine ⟨fun x t h => ?_⟩
  unfold Codec.time at h
  dsimp only at h
  split at h
  · split at h
    · rename_i hread
      cases h
      exact Time.Wire.read_storable hread
    · cases h
  · exact Time.Wire.ofInstant_storable (ofCount_eq_ok h)
  · exact Time.Wire.ofNumber_storable (ofCount_eq_ok h)
  · cases h

end Schema.Codec

end Automation
