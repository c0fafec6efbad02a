import Automation.Number.Text
import Automation.Time.Stamp

/-!
# Spans

Lengths of time in whole microseconds, made from counts of units or from seconds as floats, and the
bounds that they must keep.
-/

namespace Automation.Time

/-- Why there is no such span, or no such stamp at the end of one. -/
inductive SpanFault where
  | notANumber
  | infinite
  /-- More days than a machine word counts. -/
  | uncountableDays
  | tooManyDays (days : Int)
  | offCalendar
  /-- A count of too many digits. -/
  | longCount (digits : Nat)
deriving DecidableEq, Repr

/-- The fault in words. -/
def SpanFault.message : SpanFault → String
  | .notANumber => "cannot convert float NaN to integer"
  | .infinite => "cannot convert float infinity to integer"
  | .uncountableDays => "Python int too large to convert to C int"
  | .tooManyDays days => s!"days={days}; must have magnitude <= 999999999"
  | .offCalendar => "date value out of range"
  | .longCount digits => Number.tooManyDigitsMessage digits

/-- A span of some microseconds, if its days are in bounds. -/
def boundedSpan (micros : Int) : Except SpanFault Int :=
  let days := micros.fdiv day
  if 2147483647 < days || days < -2147483648 then .error .uncountableDays
  else if 999999999 < days || days < -999999999 then .error (.tooManyDays days)
  else .ok micros

/-- The microseconds of the fraction of a second, a half rounded so that the whole becomes even. -/
def roundedFraction (whole : Int) (fraction : Float) : Int :=
  let scaled := 1000000.0 * fraction
  let cut := (Number.truncate? scaled).getD 0
  let left := scaled - Number.floatOfInt cut
  let total := whole + cut
  let size := left.abs
  let up := 0.5 < size || (size == 0.5 && total % 2 != 0)
  if up then (if left < 0 then total - 1 else total + 1) else total

/-- The span of some seconds. -/
def spanOfSeconds (seconds : Float) : Except SpanFault Int :=
  match Number.truncate? seconds with
  | none => .error (if seconds.isNaN then .notANumber else .infinite)
  | some whole =>
    boundedSpan (roundedFraction (whole * second) (seconds - Number.floatOfInt whole))

/-- A stamp moved by a span. -/
def Stamp.shift (t : Stamp) (span : Int) : Except SpanFault Stamp :=
  match t.shift? span with
  | some t => .ok t
  | none => .error .offCalendar

end Automation.Time
