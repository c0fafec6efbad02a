import Automation.Proofs.Schema.Reading
import Automation.Proofs.Time.Calendar
import Automation.Schedule.Fire

/-!
# The search for a firing time

An expression matches a minute on the wall if each of its fields has an entry that names its part of
the minute, and that is what the search asks of it (`Expression.admits_iff`). The search looks at days,
hours and minutes from the start on, then at the days of the month that are left, and then month by
month. It stops where it begins exactly if the expression matches there
(`Expression.next?_eq_self_iff`).
-/

namespace Automation.Cron

/-! ## What entries name -/

/-- An entry names a value of a field whose greatest value is given. -/
def Entry.Names (field : Field) (most value : Nat) : Entry → Prop
  | .every step => ∃ k, value = field.least + k * step.getD 1
  | .range first last step => (∃ k, value = first + k * step.getD 1) ∧ ∀ bound ∈ last, value ≤ bound
  | .named first last => first ≤ value ∧ value ≤ last.getD first
  | .lastDay => value = most

/-- A range begins within its field. -/
def Entry.Fits (field : Field) : Entry → Prop
  | .range first _ _ => field.least ≤ first
  | _ => True

variable {field : Field} {entry : Entry} {most value start : Nat}

theorem onStep_iff {step : Option Nat} (h : start ≤ value) :
    onStep start value step = true ↔ ∃ k, value = start + k * step.getD 1 := by
  cases step with
  | none => exact iff_of_true rfl ⟨value - start, by simp; omega⟩
  | some step =>
    rw [onStep, beq_iff_eq, Option.getD_some, ← Nat.dvd_iff_mod_eq_zero]
    constructor
    · rintro ⟨k, hk⟩
      exact ⟨k, by rw [Nat.mul_comm] at hk; omega⟩
    · rintro ⟨k, rfl⟩
      exact ⟨k, by rw [Nat.add_sub_cancel_left, Nat.mul_comm]⟩

/-- An entry admits what it names. -/
theorem Entry.admits_iff (hfits : entry.Fits field) (hleast : field.least ≤ value)
    (hmost : value ≤ most) : entry.admits field.least most value = true ↔ entry.Names field most value := by
  unfold admits Names
  cases entry with
  | every step => exact onStep_iff hleast
  | range first last step =>
    have hfirst : max field.least first = first := Nat.max_eq_right hfits
    have hlast : value ≤ (last.map (min most)).getD most ↔ ∀ bound ∈ last, value ≤ bound := by
      cases last with
      | none => simpa using hmost
      | some last =>
        change value ≤ min most last ↔ _
        rw [Nat.le_min, and_iff_right hmost]
        exact ⟨by rintro h _ ⟨⟩; exact h, fun h => h last rfl⟩
    dsimp only
    rw [hfirst, Bool.and_eq_true, Bool.and_eq_true, decide_eq_true_eq, decide_eq_true_eq, hlast]
    constructor
    · rintro ⟨⟨hle, hbound⟩, hstep⟩
      exact ⟨(onStep_iff hle).mp hstep, hbound⟩
    · rintro ⟨⟨k, hk⟩, hbound⟩
      have hle : first ≤ value := by omega
      exact ⟨⟨hle, hbound⟩, (onStep_iff hle).mpr ⟨k, hk⟩⟩
  | named first last => simp
  | lastDay => exact beq_iff_eq

/-! ## What entries are read -/

theorem checkRange_least {text : String} {first : Nat} {last step : Option Nat}
    (h : checkRange text field first last step = .ok ()) : field.least ≤ first := by
  unfold checkRange at h
  obtain ⟨-, -, h⟩ := Except.bind_eq_ok.mp h
  dsimp only at h
  refine Nat.le_of_not_lt fun hlow => ?_
  rw [if_pos hlow] at h
  cases h

/-- An entry is read only if it begins within its field. -/
theorem readEntry_fits {cs : List Char} (h : readEntry field cs = .ok entry) : entry.Fits field := by
  unfold readEntry at h
  dsimp only at h
  split at h
  · obtain ⟨step, -, h⟩ := Except.bind_eq_ok.mp h
    obtain ⟨_, -, h⟩ := Except.bind_eq_ok.mp h
    cases h
    trivial
  · split at h
    · obtain ⟨step, -, h⟩ := Except.bind_eq_ok.mp h
      obtain ⟨first, -, h⟩ := Except.bind_eq_ok.mp h
      obtain ⟨last, -, h⟩ := Except.bind_eq_ok.mp h
      obtain ⟨_, -, h⟩ := Except.bind_eq_ok.mp h
      obtain ⟨⟨⟩, hrange, h⟩ := Except.bind_eq_ok.mp h
      cases h
      exact checkRange_least hrange
    · split at h
      · obtain ⟨first, -, h⟩ := Except.bind_eq_ok.mp h
        split at h
        · obtain ⟨last, -, h⟩ := Except.bind_eq_ok.mp h
          obtain ⟨_, -, h⟩ := Except.bind_eq_ok.mp h
          cases h
          trivial
        · cases h
          trivial
      · split at h
        · cases h
          trivial
        · cases h

theorem readEntries_fits {word : String} {entries : List Entry}
    (h : readEntries field word = .ok entries) : ∀ entry ∈ entries, entry.Fits field := by
  intro entry hentry
  obtain ⟨cs, -, hread⟩ := Except.exists_of_mem_mapM h hentry
  exact readEntry_fits hread

/-- The entries of all fields begin within them. -/
structure Expression.Fits (e : Expression) : Prop where
  minute : ∀ entry ∈ e.minute, entry.Fits .minute
  hour : ∀ entry ∈ e.hour, entry.Fits .hour
  day : ∀ entry ∈ e.day, entry.Fits .day
  month : ∀ entry ∈ e.month, entry.Fits .month
  weekday : ∀ entry ∈ e.weekday, entry.Fits .weekday

theorem Words.read_fits {words : Words} {e : Expression} (h : words.read = .ok e) : e.Fits := by
  obtain ⟨month, hmonth, h⟩ := Except.bind_eq_ok.mp h
  obtain ⟨day, hday, h⟩ := Except.bind_eq_ok.mp h
  obtain ⟨weekday, hweekday, h⟩ := Except.bind_eq_ok.mp h
  obtain ⟨hour, hhour, h⟩ := Except.bind_eq_ok.mp h
  obtain ⟨minute, hminute, h⟩ := Except.bind_eq_ok.mp h
  cases h
  exact ⟨readEntries_fits hminute, readEntries_fits hhour, readEntries_fits hday,
    readEntries_fits hmonth, readEntries_fits hweekday⟩

/-! ## What expressions match -/

/-- A minute on the wall of a day that the calendar has. -/
structure WallMinute.Valid (w : WallMinute) : Prop where
  date : w.date.Valid
  hour : w.hour ≤ 23
  minute : w.minute ≤ 59

namespace Expression

variable {e : Expression} {w found : WallMinute}

/-- Every field of an expression names its part of a minute on the wall. -/
structure Matches (e : Expression) (w : WallMinute) : Prop where
  minute : ∃ entry ∈ e.minute, entry.Names .minute 59 w.minute
  hour : ∃ entry ∈ e.hour, entry.Names .hour 23 w.hour
  day : ∃ entry ∈ e.day, entry.Names .day (Time.daysInMonth w.date.year w.date.month) w.date.day
  month : ∃ entry ∈ e.month, entry.Names .month 12 w.date.month
  weekday : ∃ entry ∈ e.weekday, entry.Names .weekday 6 w.date.weekday

theorem admitted_iff {entries : List Entry} (hfits : ∀ entry ∈ entries, entry.Fits field)
    (hleast : field.least ≤ value) (hmost : value ≤ most) :
    admitted field entries most value = true ↔ ∃ entry ∈ entries, entry.Names field most value := by
  rw [admitted, List.any_eq_true]
  refine exists_congr fun entry => and_congr_right fun hentry => ?_
  exact Entry.admits_iff (hfits entry hentry) hleast hmost

/-- What the search asks of a minute is that the expression matches it. -/
theorem admits_iff (hfits : e.Fits) (hw : w.Valid) : e.Admits w ↔ e.Matches w := by
  obtain ⟨⟨-, -, hmonth, hmonth12, hday, hdays⟩, hhour, hminute⟩ := hw
  have hweekday : w.date.weekday ≤ 6 := by
    unfold Time.Date.weekday
    omega
  unfold Admits admitsMonth admitsDay admitsHour admitsMinute
  rw [Bool.and_eq_true, admitted_iff hfits.month hmonth hmonth12, admitted_iff hfits.day hday hdays,
    admitted_iff hfits.weekday (Nat.zero_le _) hweekday, admitted_iff hfits.hour (Nat.zero_le _) hhour,
    admitted_iff hfits.minute (Nat.zero_le _) hminute]
  constructor
  · rintro ⟨hmonths, ⟨hdays, hweekdays⟩, hhours, hminutes⟩
    exact ⟨hminutes, hhours, hdays, hmonths, hweekdays⟩
  · rintro ⟨hminutes, hhours, hdays, hmonths, hweekdays⟩
    exact ⟨hmonths, ⟨hdays, hweekdays⟩, hhours, hminutes⟩

/-! ## The search -/

section Numbers

variable {ok : Nat → Bool} {n low high count : Nat}

theorem firstFrom?_eq_some (h : firstFrom? ok count start = some n) : ok n = true := by
  induction count generalizing start with
  | zero => cases h
  | succ count ih =>
    unfold firstFrom? at h
    split at h
    · rename_i hok
      obtain rfl := Option.some.inj h
      exact hok
    · exact ih h

theorem firstIn?_eq_some (h : firstIn? ok low high = some n) : ok n = true := firstFrom?_eq_some h

theorem firstIn?_self (hle : low ≤ high) (hok : ok low = true) : firstIn? ok low high = some low := by
  obtain ⟨count, hcount⟩ : ∃ count, high + 1 - low = count + 1 := ⟨high - low, by omega⟩
  rw [firstIn?, hcount, firstFrom?, if_pos hok]

end Numbers

theorem nextTime?_sound {hour minute hour' minute' : Nat}
    (h : e.nextTime? hour minute = some (hour', minute')) :
    e.admitsHour hour' = true ∧ e.admitsMinute minute' = true := by
  unfold nextTime? at h
  dsimp only at h
  split at h
  · rename_i found hfound
    cases h
    split at hfound
    · rename_i hhour
      exact ⟨hhour, firstIn?_eq_some hfound⟩
    · cases hfound
  · split at h
    · rename_i hhour hminute
      cases h
      exact ⟨firstIn?_eq_some hhour, firstIn?_eq_some hminute⟩
    · cases h

theorem nextTime?_self {hour minute : Nat} (hminute : minute ≤ 59) (hours : e.admitsHour hour = true)
    (minutes : e.admitsMinute minute = true) : e.nextTime? hour minute = some (hour, minute) := by
  unfold nextTime?
  rw [if_pos hours, firstIn?_self hminute minutes]

/-- What is found within a month is admitted, and in it. -/
theorem nextInMonth?_sound {year month day : Nat} (hmonth : e.admitsMonth month = true)
    (h : e.nextInMonth? year month day = some found) : e.Admits found ∧ found.date.year = year := by
  unfold nextInMonth? at h
  split at h
  · rename_i hday htime
    cases h
    obtain ⟨hhour, hminute⟩ := nextTime?_sound htime
    exact ⟨⟨hmonth, firstIn?_eq_some hday, hhour, hminute⟩, rfl⟩
  · cases h

/-- What is found within some months is admitted, and in none of the years before them. The induction
is on the count of the months. -/
theorem nextInMonths?_sound {count month : Nat} (h : e.nextInMonths? count month = some found) :
    e.Admits found ∧ month / 12 ≤ found.date.year := by
  induction count generalizing month with
  | zero => cases h
  | succ count ih =>
    unfold nextInMonths? at h
    dsimp only at h
    split at h
    · rename_i w hfound
      cases h
      split at hfound
      · rename_i hmonth
        obtain ⟨hadmits, hyear⟩ := nextInMonth?_sound hmonth hfound
        exact ⟨hadmits, Nat.le_of_eq hyear.symm⟩
      · cases hfound
    · obtain ⟨hadmits, hyear⟩ := ih h
      exact ⟨hadmits, by omega⟩

/-- What the search finds is admitted, and in a year in which schedules fire. -/
theorem next?_sound (h : e.next? w = some found) : e.Admits found ∧ firstYear ≤ found.date.year := by
  unfold next? at h
  dsimp only at h
  generalize hstart : (if w.date.year < firstYear then (⟨⟨firstYear, 1, 1⟩, 0, 0⟩ : WallMinute) else w)
    = start at h
  have hyear : firstYear ≤ start.date.year := by
    rw [← hstart]
    split
    · exact Nat.le_refl _
    · omega
  split at h
  · rename_i hour minute htoday
    cases h
    split at htoday
    · rename_i hdate
      obtain ⟨hmonth, hday⟩ := Bool.and_eq_true_iff.mp hdate
      obtain ⟨hhour, hminute⟩ := nextTime?_sound htoday
      exact ⟨⟨hmonth, hday, hhour, hminute⟩, hyear⟩
    · cases htoday
  · split at h
    · rename_i w' hmonths
      cases h
      split at hmonths
      · rename_i hmonth
        obtain ⟨hadmits, hsame⟩ := nextInMonth?_sound hmonth hmonths
        exact ⟨hadmits, hsame ▸ hyear⟩
      · cases hmonths
    · obtain ⟨hadmits, hlater⟩ := nextInMonths?_sound h
      exact ⟨hadmits, by omega⟩

/-- The search stops where it begins exactly if the expression matches there, from the first year on in
which schedules fire. -/
theorem next?_eq_self_iff (hfits : e.Fits) (hw : w.Valid) :
    e.next? w = some w ↔ e.Matches w ∧ firstYear ≤ w.date.year := by
  rw [← admits_iff hfits hw]
  refine ⟨next?_sound, ?_⟩
  rintro ⟨⟨hmonth, hday, hhour, hminute⟩, hyear⟩
  unfold next?
  rw [if_neg (Nat.not_lt.mpr hyear)]
  dsimp only
  rw [hmonth, hday, Bool.and_self, if_pos rfl, nextTime?_self hw.minute hhour hminute]

end Expression

end Automation.Cron
