import Automation.Definition.Basic
import Automation.Schedule.Fire
import Automation.Time.Zone.Find

/-!
# Due schedules

A schedule is an expression on the wall clock of a zone. It is looked at once a minute, and it is
due in the minutes at which the search for its next firing time stops at once.
-/

namespace Automation

/-- A schedule that was read. -/
structure Timetable where
  expression : Cron.Expression
  zone : Time.Zone
deriving DecidableEq, Repr

/-- Why a schedule cannot be read. -/
inductive ScheduleFault where
  | expression (fault : Cron.Fault)
  | zone (fault : Time.Zone.NameFault)
deriving DecidableEq, Repr

/-- The fault in words. -/
def ScheduleFault.message : ScheduleFault → String
  | .expression fault => fault.message
  | .zone fault => fault.message

namespace TriggerSchedule

/-- The zone of a schedule. Without a name it is universal time. -/
def findZone (s : TriggerSchedule) : Except Time.Zone.NameFault Time.Zone :=
  if s.timezone = "" || s.timezone = "UTC" then .ok .utc else Time.Zone.find s.timezone

/-- Read a schedule. The number of its words comes first, then its zone, then its fields. -/
def read (s : TriggerSchedule) : Except ScheduleFault Timetable := do
  let words ← (Cron.cut s.expression).mapError .expression
  let zone ← s.findZone.mapError .zone
  let expression ← words.read.mapError .expression
  return { expression, zone }

end TriggerSchedule

namespace Timetable

open Time

/-- The start of the minute of a stamp, on its own wall. -/
def minuteStart (now : Stamp) : Stamp := { now with wall := now.wall - now.wall.fmod minute }

/-- What the clocks of a zone show at a stamp. -/
def wallAt (zone : Zone) (t : Stamp) : Stamp :=
  t.atOffset (zone.offsetAt (t.instant.fdiv second) * second)

/-- The minute on the wall of a stamp. -/
def wallMinute (t : Stamp) : Cron.WallMinute := ⟨t.date, t.hours, t.minutes⟩

/-- Whether the expression fires in the minute of a stamp. A reading that the clocks show twice
compares equal to no stamp of another zone, and so is never due. -/
def due (s : Timetable) (now : Stamp) : Bool :=
  let start := minuteStart now
  let wall := wallAt s.zone start
  decide (Stamp.InCalendar wall.wall) && wall.seconds == 0
    && s.expression.next? (wallMinute wall) == some (wallMinute wall)
    && !s.zone.repeatsAt (start.instant.fdiv second)

end Timetable

/-- Whether a schedule that may be absent or unreadable is due. -/
def TriggerSchedule.due (s : Option TriggerSchedule) (now : Time.Stamp) : Bool :=
  match s with
  | none => false
  | some s =>
    match s.read with
    | .ok timetable => timetable.due now
    | .error _ => false

end Automation
