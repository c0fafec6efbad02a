import Automation.Proofs.Yaml.Number
import Automation.Yaml.Data

/-!
# What plain scalars promise

The form of a plain scalar says what it is, and then its value is read. A scalar has a value, but for the
few that are listed as `Unkept`: times that are none, integers and numbers beyond the limits, and marks
that only mean something as keys (`plain_unkept`).
-/

namespace Automation.Yaml

variable {s : String} {fault : Fault}

/-! ## Times -/

theorem WrittenTime.date_eq_ok_iff {t : WrittenTime} {d : Time.Date} :
    t.date = .ok d ↔ d = ⟨t.year, t.month, t.day⟩ ∧ d.Valid := by
  unfold date
  dsimp only
  split
  · rename_i hyear
    refine iff_of_false nofun ?_
    rintro ⟨rfl, hfirst, -⟩
    exact absurd hyear (Nat.ne_of_gt hfirst)
  split
  · rename_i hmonth
    refine iff_of_false nofun ?_
    rintro ⟨rfl, -, -, hlow, hhigh, -⟩
    simp at hmonth hlow hhigh
    omega
  split
  · rename_i hvalid
    exact ⟨by rintro ⟨⟩; exact ⟨rfl, hvalid⟩, by rintro ⟨rfl, -⟩; rfl⟩
  · rename_i hvalid
    exact iff_of_false nofun (by rintro ⟨rfl, h⟩; exact hvalid h)

/-- A time of the day, with an offset of less than a day if it has one. -/
structure WrittenClock.Valid (clock : WrittenClock) : Prop where
  hour : clock.hour < 24
  minute : clock.minute < 60
  second : clock.second < 60
  offset : ∀ seconds, clock.offset = some seconds → seconds.natAbs < 86400

/-- A date of the calendar, with a valid clock if it has one. -/
def WrittenTime.Valid (t : WrittenTime) : Prop :=
  Time.Date.Valid ⟨t.year, t.month, t.day⟩ ∧ ∀ clock, t.clock = some clock → clock.Valid

/-- A written time stands for a moment exactly if it is valid. -/
theorem WrittenTime.moment_eq_ok_iff {t : WrittenTime} : (∃ m, t.moment = .ok m) ↔ t.Valid := by
  unfold moment Valid
  cases hclock : t.clock with
  | none =>
    simp only [Except.map_eq_ok, date_eq_ok_iff, reduceCtorEq, false_implies, implies_true, and_true]
    exact ⟨fun ⟨_, _, ⟨rfl, h⟩, _⟩ => h, fun h => ⟨_, _, ⟨rfl, h⟩, rfl⟩⟩
  | some clock =>
    obtain ⟨hour, minute, second, micros, offset⟩ := clock
    have hrest : (∃ m, (do
        let d ← t.date
        if 23 < hour then .error .hour
        if 59 < minute then .error .minute
        if 59 < second then .error .second
        return Moment.stamp (Time.Stamp.ofParts d hour minute second micros
          (offset.map (· * Time.second)))) = .ok m) ↔
        Time.Date.Valid ⟨t.year, t.month, t.day⟩ ∧ hour < 24 ∧ minute < 60 ∧ second < 60 := by
      simp only [Except.exists_ok_bind, Except.exists_ok_check, date_eq_ok_iff, not_lt]
      constructor
      · rintro ⟨_, ⟨rfl, hvalid⟩, hhour, hminute, hsecond, -⟩
        exact ⟨hvalid, Nat.lt_succ_of_le hhour, Nat.lt_succ_of_le hminute, Nat.lt_succ_of_le hsecond⟩
      · rintro ⟨hvalid, hhour, hminute, hsecond⟩
        exact ⟨_, ⟨rfl, hvalid⟩, Nat.le_of_lt_succ hhour, Nat.le_of_lt_succ hminute,
          Nat.le_of_lt_succ hsecond, _, rfl⟩
    have hclocks : (∀ clock, some (⟨hour, minute, second, micros, offset⟩ : WrittenClock) = some clock →
        clock.Valid) ↔ WrittenClock.Valid ⟨hour, minute, second, micros, offset⟩ := by simp
    rw [hclocks]
    cases offset with
    | none =>
      refine hrest.trans (and_congr_right fun _ => ⟨?_, ?_⟩)
      · exact fun ⟨hhour, hminute, hsecond⟩ => ⟨hhour, hminute, hsecond, nofun⟩
      · exact fun h => ⟨h.hour, h.minute, h.second⟩
    | some seconds =>
      refine Except.exists_ok_check.trans ((and_congr_right fun _ => hrest).trans ⟨?_, ?_⟩)
      · rintro ⟨hseconds, hvalid, hhour, hminute, hsecond⟩
        exact ⟨hvalid, hhour, hminute, hsecond, by simpa using hseconds⟩
      · rintro ⟨hvalid, h⟩
        exact ⟨Nat.not_le_of_lt (h.offset seconds rfl), hvalid, h.hour, h.minute, h.second⟩

/-! ## What is not kept -/

/-- Why a scalar has no value though its form promises one. -/
inductive Unkept (s : String) : Fault → Prop where
  /-- A mark that only means something as a key. -/
  | mark (h : s = "<<" ∨ s = "=") : Unkept s .malformed
  /-- Nothing but fillers behind the mark of a base. -/
  | fillers {base : Nat} {mark : Char} {fill : List Char} (h : dropSign s.toList = '0' :: mark :: fill)
    (hfill : ∀ c ∈ fill, c = '_') : Unkept s (.noInteger base "")
  /-- An integer of too many digits. -/
  | digits {count : Nat} (h : Number.LongRun (kept s.toList) count) : Unkept s (.longInteger count)
  /-- A number of too many sixtieths. -/
  | sixtieths (h : 174 ≤ s.toList.count ':') : Unkept s .hugeNumber
  /-- A time that is none. -/
  | time {t : WrittenTime} {fault : DateFault} (h : writtenTime? s.toList = some t)
    (hnone : ¬t.Valid) (hfault : t.moment = .error fault) : Unkept s (.date fault)

theorem readFlag_word (h : (flagWords.any fun (word, _) => (spellings word).contains s) = true) :
    ∃ b, readFlag s = .ok b := by
  have hall : ∀ entry ∈ flagWords, ∀ word ∈ spellings entry.1,
      (readFlag word).toOption.isSome = true := by decide +kernel
  obtain ⟨⟨word, b⟩, hmem, hword⟩ := List.any_eq_true.mp h
  obtain ⟨found, hfound⟩ := Option.isSome_iff_exists.mp (hall _ hmem s (List.contains_iff_mem.mp hword))
  exact ⟨found, Except.toOption_eq_some.mp hfound⟩

/-- A scalar that has the form of a value has one, but for those that cannot be kept. -/
theorem plain_unkept (h : Data.ofScalar (Tag.ofPlain s) s = .error fault) : Unkept s fault := by
  unfold Tag.ofPlain at h
  dsimp only at h
  split at h
  · rename_i hflag
    obtain ⟨b, hb⟩ := readFlag_word hflag
    rw [Data.ofScalar, hb] at h
    cases h
  split at h
  · rename_i hnumber
    obtain ⟨rfl, hlarge⟩ := readNumber_unkept hnumber (Except.map_eq_error.mp h)
    exact .sixtieths hlarge
  split at h
  · rename_i hinteger
    rcases readInteger_unkept hinteger (Except.map_eq_error.mp h) with
      ⟨base, mark, fill, hdrop, hfill, rfl⟩ | ⟨count, hrun, rfl⟩
    · exact .fillers hdrop hfill
    · exact .digits hrun
  split at h
  · rename_i hmerge
    cases h
    exact .mark (.inl hmerge)
  split at h
  · cases h
  split at h
  · rename_i htime
    unfold isTime at htime
    split at htime
    · rename_i t ht
      have hread := Except.map_eq_error.mp h
      rw [readTime, ht] at hread
      obtain ⟨dateFault, hmoment, rfl⟩ := Except.mapError_eq_error.mp hread
      refine .time ht (fun hvalid => ?_) hmoment
      obtain ⟨m, hm⟩ := WrittenTime.moment_eq_ok_iff.mpr hvalid
      cases hmoment.symm.trans hm
    · cases htime
  split at h
  · rename_i hdefault
    cases h
    exact .mark (.inr hdefault)
  · cases h

end Automation.Yaml
