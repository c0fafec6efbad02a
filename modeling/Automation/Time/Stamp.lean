import Automation.Time.Calendar
import Automation.Number.Text

/-!
# Points in time

A stamp is a wall-clock reading with, if known, its distance from UTC. Spans of time are whole
microseconds.
-/

namespace Automation.Time

/-- A second in microseconds. -/
def second : Int := 1000000

/-- A minute in microseconds. -/
def minute : Int := 60 * second

/-- An hour in microseconds. -/
def hour : Int := 60 * minute

/-- A day in microseconds. -/
def day : Int := 24 * hour

/-- A wall-clock reading, in microseconds from the start of the calendar, with its offset from UTC
in microseconds. A stamp without an offset is naive. -/
structure Stamp where
  wall : Int
  offset : Option Int
deriving DecidableEq, Repr, Inhabited

namespace Stamp

/-- The calendar ends with the year 9999. -/
def wallLimit : Int := lastOrdinal * day

/-- A reading that the calendar has. -/
def InCalendar (wall : Int) : Prop := 0 ≤ wall ∧ wall < wallLimit

instance (wall : Int) : Decidable (InCalendar wall) := by unfold InCalendar; infer_instance

/-- A stamp from the parts of a wall clock. -/
def ofParts (date : Date) (hours minutes seconds micros : Nat) (offset : Option Int) : Stamp :=
  ⟨((date.ordinal : Int) - 1) * day + hours * hour + minutes * minute + seconds * second + micros,
    offset⟩

/-- The day on the wall. -/
def date (t : Stamp) : Date := Date.ofOrdinal ((t.wall.fdiv day).toNat + 1)

/-- The time of day on the wall. -/
def timeOfDay (t : Stamp) : Nat := (t.wall.fmod day).toNat

/-- The hour on the wall. -/
def hours (t : Stamp) : Nat := t.timeOfDay / hour.toNat

/-- The minute on the wall. -/
def minutes (t : Stamp) : Nat := t.timeOfDay / minute.toNat % 60

/-- The second on the wall. -/
def seconds (t : Stamp) : Nat := t.timeOfDay / second.toNat % 60

/-- The microsecond on the wall. -/
def micros (t : Stamp) : Nat := t.timeOfDay % second.toNat

/-- The reading at UTC, with a naive stamp taken as UTC. -/
def utcWall (t : Stamp) : Int := t.wall - t.offset.getD 0

/-- The moment, in microseconds from the start of 1970 at UTC, a naive stamp taken as UTC. -/
def instant (t : Stamp) : Int := t.utcWall - (epochOrdinal - 1) * day

/-- The stamp at UTC of a moment. -/
def ofInstant (instant : Int) : Stamp := ⟨instant + (epochOrdinal - 1) * day, some 0⟩

/-- The same moment at another offset. -/
def atOffset (t : Stamp) (offset : Int) : Stamp := ⟨t.utcWall + offset, some offset⟩

/-- A stamp moved by a span, if the calendar reaches that far. -/
def shift? (t : Stamp) (span : Int) : Option Stamp :=
  if InCalendar (t.wall + span) then some { t with wall := t.wall + span } else none

/-- Whether one stamp is later than another; a naive one and one with an offset do not compare. -/
def later? (a b : Stamp) : Option Bool :=
  match a.offset, b.offset with
  | none, none => some (b.wall < a.wall)
  | some _, some _ => some (b.utcWall < a.utcWall)
  | _, _ => none

/-! ## Writing -/

/-- A day as text. -/
def writeDate (d : Date) : String :=
  Number.padded 4 d.year ++ "-" ++ Number.padded 2 d.month ++ "-" ++ Number.padded 2 d.day

/-- A day as text with no zeros in front of the year. -/
def writeShortDate (d : Date) : String :=
  toString d.year ++ "-" ++ Number.padded 2 d.month ++ "-" ++ Number.padded 2 d.day

/-- The clock of a stamp up to the second. -/
def writeClock (t : Stamp) : String :=
  Number.padded 2 t.hours ++ ":" ++ Number.padded 2 t.minutes ++ ":" ++ Number.padded 2 t.seconds

/-- The fraction of the second, six digits or nothing. -/
def writeFraction (micros : Nat) : String :=
  if micros = 0 then "" else "." ++ Number.padded 6 micros

/-- An offset as hours and minutes, and what is smaller if there is any. -/
def writeOffset (offset : Int) : String :=
  let size := offset.natAbs
  let rest := size % minute.toNat
  (if offset < 0 then "-" else "+") ++ Number.padded 2 (size / hour.toNat) ++ ":"
    ++ Number.padded 2 (size / minute.toNat % 60)
    ++ (if rest = 0 then "" else
      ":" ++ Number.padded 2 (rest / second.toNat) ++ writeFraction (rest % second.toNat))

/-- The stamp as ISO text. -/
def iso (t : Stamp) : String :=
  writeDate t.date ++ "T" ++ t.writeClock ++ writeFraction t.micros
    ++ (match t.offset with
      | some offset => writeOffset offset
      | none => "")

/-- The stamp as it stands in JSON, where UTC has a letter of its own. -/
def wire (t : Stamp) : String :=
  writeDate t.date ++ "T" ++ t.writeClock ++ writeFraction t.micros
    ++ (match t.offset with
      | some offset => if offset = 0 then "Z" else writeOffset offset
      | none => "")

/-- The naive reading at UTC, which is what is stored. -/
def naiveUtc (t : Stamp) : Stamp := ⟨t.utcWall, none⟩

end Stamp

end Automation.Time
