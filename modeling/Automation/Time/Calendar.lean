/-!
# The calendar

Days of the proleptic Gregorian calendar, counted from the first of January of the year one, which
is day one, to the last day of the year 9999.
-/

namespace Automation.Time

/-- A day of the calendar. -/
structure Date where
  year : Nat
  month : Nat
  day : Nat
deriving DecidableEq, Repr, Inhabited

/-- A leap year has a 29th of February. -/
def isLeap (year : Nat) : Bool := year % 4 == 0 && (year % 100 != 0 || year % 400 == 0)

/-- The days of a month. -/
def daysInMonth (year month : Nat) : Nat :=
  if month = 2 then (if isLeap year then 29 else 28)
  else if month = 4 || month = 6 || month = 9 || month = 11 then 30
  else 31

/-- The days of all years before a year. -/
def daysBeforeYear (year : Nat) : Nat :=
  let y := year - 1
  y * 365 + y / 4 - y / 100 + y / 400

/-- The days of all months before a month of the year. -/
def daysBeforeMonth (year month : Nat) : Nat :=
  (List.range (month - 1)).foldl (fun days m => days + daysInMonth year (m + 1)) 0

namespace Date

/-- A day that the calendar has. -/
def Valid (d : Date) : Prop :=
  1 ≤ d.year ∧ d.year ≤ 9999 ∧ 1 ≤ d.month ∧ d.month ≤ 12 ∧ 1 ≤ d.day ∧
    d.day ≤ daysInMonth d.year d.month

instance (d : Date) : Decidable d.Valid := by unfold Valid; infer_instance

/-- The number of a day. -/
def ordinal (d : Date) : Nat := daysBeforeYear d.year + daysBeforeMonth d.year d.month + d.day

/-- The month and the day in it at a day of the year, which is counted from zero. -/
def ofDayOfYear (year : Nat) : Nat → Nat → Nat → Date
  | 0, month, rest => ⟨year, month, rest + 1⟩
  | fuel + 1, month, rest =>
    let days := daysInMonth year month
    if rest < days then ⟨year, month, rest + 1⟩ else ofDayOfYear year fuel (month + 1) (rest - days)

/-- The day of a number. -/
def ofOrdinal (n : Nat) : Date :=
  let n := n - 1
  let cycles := n / 146097
  let n := n % 146097
  let centuries := min (n / 36524) 3
  let n := n - centuries * 36524
  let fours := n / 1461
  let n := n % 1461
  let years := min (n / 365) 3
  let n := n - years * 365
  ofDayOfYear (cycles * 400 + centuries * 100 + fours * 4 + years + 1) 12 1 n

/-- The weekday, Monday being zero. -/
def weekday (d : Date) : Nat := (d.ordinal + 6) % 7

end Date

/-- The number of the last day of the calendar. -/
def lastOrdinal : Nat := 3652059

/-- The number of the first of January 1970. -/
def epochOrdinal : Nat := 719163

/-- The day of a week of a year, by the rule that the first week holds the first Thursday. The
answer may fall into a neighbouring year. -/
def ordinalOfWeek? (year week weekday : Nat) : Option Int :=
  let first : Date := ⟨year, 1, 1⟩
  let weeks :=
    if first.weekday = 3 || (first.weekday = 2 && isLeap year) then 53 else 52
  if year < 1 || 9999 < year || week < 1 || weeks < week || weekday < 1 || 7 < weekday then none
  else
    let start : Int := first.ordinal
    let monday : Int := start - first.weekday
    let monday := if 3 < first.weekday then monday + 7 else monday
    some (monday + (week - 1) * 7 + (weekday - 1))

end Automation.Time
