import Automation.Proofs.Schedule.Search
import Automation.Proofs.Time.Wire
import Automation.Schedule.Due

/-!
# Due schedules

A schedule is due in the minutes whose start its expression matches on the wall of its zone, unless the
clocks show the reading twice (`TriggerSchedule.due_exactly`). So in the hour before clocks are set back
and in the one after it, no schedule of their zone is due (`TriggerSchedule.setBack_not_due`).
-/

namespace Automation

open Time

/-! ## Stamps and their minutes -/

/-- A stamp whose offset counts whole minutes. A naive one has none. -/
def Time.Stamp.InMinutes (t : Stamp) : Prop := ∀ o ∈ t.offset, o.fmod minute = 0

/-- A reading of the calendar is one of a day of the calendar, and lies in this day. -/
theorem Time.Stamp.date_spec {t : Stamp} (h : Stamp.InCalendar t.wall) :
    t.date.Valid ∧ ((t.date.ordinal : Int) - 1) * day ≤ t.wall ∧ t.wall < t.date.ordinal * day := by
  obtain ⟨hwall, hlimit⟩ := h
  have hday : day = 86400000000 := rfl
  have hwallLimit : Stamp.wallLimit = 3652059 * 86400000000 := rfl
  have hdiv := Int.mul_fdiv_add_fmod t.wall day
  have hmod := Int.fmod_nonneg_of_pos t.wall (b := day) (by decide)
  have hlt := Int.fmod_lt_of_pos t.wall (b := day) (by decide)
  have hdays := Int.fdiv_nonneg hwall (b := day) (by decide)
  rw [hday] at hdiv hmod hlt hdays
  have hlast : (t.wall.fdiv 86400000000).toNat + 1 ≤ lastOrdinal := by
    unfold lastOrdinal
    omega
  obtain ⟨hvalid, hordinal⟩ := Date.ofOrdinal_spec (Nat.le_add_left 1 _) hlast
  have hdate : t.date = Date.ofOrdinal ((t.wall.fdiv 86400000000).toNat + 1) := rfl
  rw [hdate, hordinal, hday]
  exact ⟨hvalid, by omega, by omega⟩

/-- The days of a year are numbered from those of all years before it on. -/
theorem Time.Date.ordinal_year {d : Date} (h : d.Valid) :
    daysBeforeYear d.year < d.ordinal ∧ d.ordinal ≤ daysBeforeYear d.year + 366 := by
  obtain ⟨-, -, hmonth, hmonth12, hday, hdays⟩ := h
  have hsucc := daysBeforeMonth_succ d.year hmonth
  have hmono : daysBeforeMonth d.year (d.month + 1) ≤ daysBeforeMonth d.year 13 :=
    daysBeforeMonth_mono (by omega) (by omega)
  have hyear : daysBeforeMonth d.year 13 ≤ 366 := by
    rw [daysBeforeMonth_year]
    split <;> omega
  unfold Date.ordinal
  omega

namespace Timetable

variable {s : Timetable} {now later : Stamp}

theorem wallMinute_valid {t : Stamp} (h : Stamp.InCalendar t.wall) : (wallMinute t).Valid := by
  have hlt := Wire.timeOfDay_lt t
  have hhours : t.hours = t.timeOfDay / 3600000000 := rfl
  have hminutes : t.minutes = t.timeOfDay / 60000000 % 60 := rfl
  refine ⟨(Stamp.date_spec h).1, ?_, ?_⟩
  · change t.hours ≤ 23
    omega
  · change t.minutes ≤ 59
    omega

/-- The start of the minute of a stamp is that of its minute at UTC. -/
theorem minuteStart_utcWall (h : now.InMinutes) :
    (minuteStart now).utcWall = now.utcWall.fdiv minute * minute := by
  obtain ⟨wall, offset⟩ := now
  have hminute : minute = 60000000 := rfl
  have hoffset : (offset.getD 0).fmod 60000000 = 0 := by
    cases offset with
    | none => rfl
    | some o => exact h o rfl
  have hoffsetDiv := Int.mul_fdiv_add_fmod (offset.getD 0) 60000000
  change wall - wall.fmod minute - offset.getD 0 = (wall - offset.getD 0).fdiv minute * minute
  rw [hminute]
  have hwall := Int.mul_fdiv_add_fmod wall 60000000
  have hutc := Int.mul_fdiv_add_fmod (wall - offset.getD 0) 60000000
  have hmod := Int.fmod_nonneg_of_pos wall (b := 60000000) (by decide)
  have hmodlt := Int.fmod_lt_of_pos wall (b := 60000000) (by decide)
  have hutcmod := Int.fmod_nonneg_of_pos (wall - offset.getD 0) (b := 60000000) (by decide)
  have hutcmodlt := Int.fmod_lt_of_pos (wall - offset.getD 0) (b := 60000000) (by decide)
  omega

/-! ## When a schedule is due -/

/-- What the clocks of a schedule show at the start of the minute of a stamp. -/
def showing (s : Timetable) (now : Stamp) : Stamp := wallAt s.zone (minuteStart now)

/-- Whether the clocks of a schedule show twice what they show at the start of the minute of a
stamp. -/
def Repeats (s : Timetable) (now : Stamp) : Prop :=
  s.zone.repeatsAt ((minuteStart now).instant.fdiv second) = true

/-- The clocks of a schedule show a full minute that its expression matches. -/
structure Matches (s : Timetable) (now : Stamp) : Prop where
  full : (s.showing now).seconds = 0
  fields : s.expression.Matches (wallMinute (s.showing now))

/-- The clocks of a schedule show a reading in a year in which schedules fire. -/
structure InYears (s : Timetable) (now : Stamp) : Prop where
  calendar : Stamp.InCalendar (s.showing now).wall
  first : Cron.Expression.firstYear ≤ (s.showing now).date.year

theorem due_iff (hfits : s.expression.Fits) :
    s.due now = true ↔ s.Matches now ∧ s.InYears now ∧ ¬s.Repeats now := by
  unfold due
  change (decide (Stamp.InCalendar (s.showing now).wall) && (s.showing now).seconds == 0
    && s.expression.next? (wallMinute (s.showing now)) == some (wallMinute (s.showing now))
    && !s.zone.repeatsAt ((minuteStart now).instant.fdiv second)) = true ↔ _
  rw [Bool.and_eq_true, Bool.and_eq_true, Bool.and_eq_true, decide_eq_true_eq, beq_iff_eq,
    beq_iff_eq, Bool.not_eq_true', ← Bool.not_eq_true]
  constructor
  · rintro ⟨⟨⟨hcalendar, hfull⟩, hnext⟩, honce⟩
    obtain ⟨hfields, hfirst⟩ :=
      (Cron.Expression.next?_eq_self_iff hfits (wallMinute_valid hcalendar)).mp hnext
    exact ⟨⟨hfull, hfields⟩, ⟨hcalendar, hfirst⟩, honce⟩
  · rintro ⟨⟨hfull, hfields⟩, ⟨hcalendar, hfirst⟩, honce⟩
    exact ⟨⟨⟨hcalendar, hfull⟩, (Cron.Expression.next?_eq_self_iff hfits
      (wallMinute_valid hcalendar)).mpr ⟨hfields, hfirst⟩⟩, honce⟩

/-- Only the moment at which the minute begins matters. -/
theorem due_congr (h : (minuteStart later).utcWall = (minuteStart now).utcWall) :
    s.due later = s.due now := by
  have hinstant : (minuteStart later).instant = (minuteStart now).instant := by
    rw [Stamp.instant, Stamp.instant, h]
  have hwall : wallAt s.zone (minuteStart later) = wallAt s.zone (minuteStart now) := by
    rw [wallAt, wallAt, Stamp.atOffset, Stamp.atOffset, h, hinstant]
  rw [due, due, hwall, hinstant]

/-- A stamp of the years from 1970 to 9998 is in the calendar on all clocks that are less than a day
from UTC. -/
theorem showing_inCalendar (hnow : Stamp.InCalendar now.wall) (hfirst : 1970 ≤ now.date.year)
    (hlast : now.date.year ≤ 9998) (hoffset : ∀ o ∈ now.offset, o.natAbs < day.natAbs)
    (hzone : ∀ moment, (s.zone.offsetAt moment).natAbs < 86400) :
    Stamp.InCalendar (s.showing now).wall := by
  obtain ⟨hvalid, hday, hnextDay⟩ := Stamp.date_spec hnow
  have hyear := Date.ordinal_year hvalid
  have hbefore : 719000 ≤ daysBeforeYear now.date.year ∧ daysBeforeYear now.date.year ≤ 3651428 := by
    simp only [daysBeforeYear]
    omega
  have hshift : (now.offset.getD 0).natAbs < 86400000000 := by
    cases ho : now.offset with
    | none => decide
    | some o => exact hoffset o ho
  have hmod := Int.fmod_nonneg_of_pos now.wall (b := minute) (by decide)
  have hlt := Int.fmod_lt_of_pos now.wall (b := minute) (by decide)
  have hmoment := hzone ((minuteStart now).instant.fdiv second)
  change Stamp.InCalendar (now.wall - now.wall.fmod minute - now.offset.getD 0
    + s.zone.offsetAt ((minuteStart now).instant.fdiv second) * second)
  have hlimit : Stamp.wallLimit = 3652059 * 86400000000 := rfl
  have hminute : minute = 60000000 := rfl
  have hsecond : second = 1000000 := rfl
  rw [show Time.day = 86400000000 from rfl] at hday hnextDay
  rw [hminute] at hmod hlt ⊢
  rw [hsecond] at hmoment ⊢
  unfold Stamp.InCalendar
  omega

end Timetable

namespace TriggerSchedule

theorem read_fits {s : TriggerSchedule} {timetable : Timetable} (h : s.read = .ok timetable) :
    timetable.expression.Fits := by
  obtain ⟨words, -, h⟩ := Except.bind_eq_ok.mp h
  obtain ⟨zone, -, h⟩ := Except.bind_eq_ok.mp h
  obtain ⟨expression, hexpression, h⟩ := Except.bind_eq_ok.mp h
  cases h
  cases hread : words.read with
  | error fault =>
    rw [hread] at hexpression
    cases hexpression
  | ok e =>
    rw [hread] at hexpression
    cases hexpression
    exact Cron.Words.read_fits hread

theorem due_of_read {s : TriggerSchedule} {timetable : Timetable} (h : s.read = .ok timetable)
    (now : Stamp) : due (some s) now = timetable.due now := by
  simp only [due, h]

theorem due_of_error {s : TriggerSchedule} {fault : ScheduleFault} (h : s.read = .error fault)
    (now : Stamp) : due (some s) now = false := by
  simp only [due, h]

/-- A schedule is due exactly if it can be read, and at the start of the minute its clocks show a full
minute that all five fields of its expression match, in one of the years in which schedules fire, and
do not show it twice. In the years from 1970 to 9998, on clocks that are less than a day from UTC, the
only years that are left out are those before 1970 on the wall. The minute is that at UTC if the offset
of the stamp counts whole minutes, and so all these stamps of one minute get the same answer. -/
theorem due_exactly (s : TriggerSchedule) :
    (∀ now, due (some s) now = true ↔ ∃ timetable, s.read = .ok timetable ∧
      timetable.Matches now ∧ timetable.InYears now ∧ ¬timetable.Repeats now) ∧
    (∀ timetable now, s.read = .ok timetable → Stamp.InCalendar now.wall → 1970 ≤ now.date.year →
      now.date.year ≤ 9998 → (∀ o ∈ now.offset, o.natAbs < day.natAbs) →
      (∀ moment, (timetable.zone.offsetAt moment).natAbs < 86400) →
      (timetable.InYears now ↔ 1970 ≤ (timetable.showing now).date.year)) ∧
    (∀ now : Stamp, now.InMinutes →
      (Timetable.minuteStart now).utcWall = now.utcWall.fdiv minute * minute) ∧
    ∀ now later : Stamp, now.InMinutes → later.InMinutes →
      later.utcWall.fdiv minute = now.utcWall.fdiv minute → due (some s) later = due (some s) now := by
  refine ⟨fun now => ?_, fun timetable now _ hnow hfirst hlast hoffset hzone => ?_,
    fun now => Timetable.minuteStart_utcWall, fun now later hnow hlater hsame => ?_⟩
  · cases hread : s.read with
    | error fault =>
      rw [due_of_error hread]
      exact iff_of_false Bool.false_ne_true (by rintro ⟨_, ⟨⟩, _⟩)
    | ok timetable =>
      rw [due_of_read hread, Timetable.due_iff (read_fits hread)]
      exact ⟨fun h => ⟨timetable, rfl, h⟩, by rintro ⟨_, ⟨⟩, h⟩; exact h⟩
  · exact ⟨Timetable.InYears.first, fun h =>
      ⟨Timetable.showing_inCalendar hnow hfirst hlast hoffset hzone, h⟩⟩
  · cases hread : s.read with
    | error fault => rw [due_of_error hread, due_of_error hread]
    | ok timetable =>
      rw [due_of_read hread, due_of_read hread]
      refine Timetable.due_congr ?_
      rw [Timetable.minuteStart_utcWall hnow, Timetable.minuteStart_utcWall hlater, hsame]

/-- A schedule for half past nine is due in the last second of this minute as in its first. -/
theorem halfPastNine_due :
    let s : TriggerSchedule := ⟨"30 9 * * mon-fri", "UTC"⟩
    let now : Stamp := .ofParts ⟨2024, 1, 8⟩ 9 30 0 0 (some 0)
    let later : Stamp := .ofParts ⟨2024, 1, 8⟩ 9 30 59 0 none
    (∃ timetable, s.read = .ok timetable ∧ timetable.Matches now) ∧ due (some s) later = true := by
  intro s now later
  have hdue : due (some s) now = true := by decide +kernel
  obtain ⟨hexactly, -, -, hsame⟩ := due_exactly s
  obtain ⟨timetable, hread, hmatches, -⟩ := (hexactly now).mp hdue
  refine ⟨⟨timetable, hread, hmatches⟩, (hsame now later ?_ ?_ (by decide)).trans hdue⟩
  · rintro _ ⟨⟩
    decide
  · rintro _ ⟨⟩

/-- A schedule of every minute, on clocks that were set back from two to one o'clock in the morning of
the first of November 2026. -/
def everyMinute : TriggerSchedule := ⟨"* * * * *", "America/Indiana/Indianapolis"⟩

/-- Half past five at UTC on this day, half an hour before the clocks were set back. -/
def beforeSetBack : Stamp := .ofParts ⟨2026, 11, 1⟩ 5 30 0 0 (some 0)

/-- The clocks show a minute that the expression matches, and still the schedule is not due. -/
theorem setBack_not_due : ∃ timetable, everyMinute.read = .ok timetable ∧
    timetable.Matches beforeSetBack ∧ timetable.InYears beforeSetBack ∧
    due (some everyMinute) beforeSetBack = false := by
  obtain ⟨timetable, hread, hcalendar, hfull, hadmits, hfirst⟩ :
      ∃ timetable ∈ everyMinute.read.toOption,
        Stamp.InCalendar (timetable.showing beforeSetBack).wall ∧
        (timetable.showing beforeSetBack).seconds = 0 ∧
        timetable.expression.Admits (Timetable.wallMinute (timetable.showing beforeSetBack)) ∧
        Cron.Expression.firstYear ≤ (timetable.showing beforeSetBack).date.year := by
    decide +kernel
  have hread := Except.toOption_eq_some.mp hread
  have hvalid := Timetable.wallMinute_valid hcalendar
  exact ⟨timetable, hread, ⟨hfull, (Cron.Expression.admits_iff (read_fits hread) hvalid).mp hadmits⟩,
    ⟨hcalendar, hfirst⟩, by decide +kernel⟩

end TriggerSchedule

end Automation
