import Automation.Schedule.Cron

/-!
# Firing times

A cron expression admits some minutes of the wall clock. The next of them is searched from the large
units to the small ones: a unit that does not fit moves the search to the start of its next one.
-/

namespace Automation.Cron

/-- A minute on the wall. -/
structure WallMinute where
  date : Time.Date
  hour : Nat
  minute : Nat
deriving DecidableEq, Repr

/-! ## Admitted values -/

/-- Whether a step from a start leads to a value that is not before it. -/
def onStep (start value : Nat) : Option Nat → Bool
  | some step => (value - start) % step == 0
  | none => true

/-- Whether an entry admits a value, between the least and the greatest value of the field. -/
def Entry.admits (least most value : Nat) : Entry → Bool
  | .every step => onStep least value step
  | .range first last step =>
    let start := max least first
    start ≤ value && value ≤ (last.map (min most)).getD most && onStep start value step
  | .named first last => first ≤ value && value ≤ last.getD first
  | .lastDay => value == most

/-- Whether any entry of a field admits a value. -/
def admitted (field : Field) (entries : List Entry) (most value : Nat) : Bool :=
  entries.any (Entry.admits field.least most value)

namespace Expression

/-- Whether the month is admitted. -/
def admitsMonth (e : Expression) (month : Nat) : Bool := admitted .month e.month 12 month

/-- Whether the day of the month and the weekday are admitted. -/
def admitsDay (e : Expression) (date : Time.Date) : Bool :=
  admitted .day e.day (Time.daysInMonth date.year date.month) date.day
    && admitted .weekday e.weekday 6 date.weekday

/-- Whether the hour is admitted. -/
def admitsHour (e : Expression) (hour : Nat) : Bool := admitted .hour e.hour 23 hour

/-- Whether the minute is admitted. -/
def admitsMinute (e : Expression) (minute : Nat) : Bool := admitted .minute e.minute 59 minute

/-- Whether all five fields admit a minute on the wall. -/
def Admits (e : Expression) (w : WallMinute) : Prop :=
  e.admitsMonth w.date.month ∧ e.admitsDay w.date ∧ e.admitsHour w.hour ∧ e.admitsMinute w.minute

instance (e : Expression) (w : WallMinute) : Decidable (e.Admits w) := by
  unfold Admits; infer_instance

end Expression

/-! ## The search -/

/-- The first number that passes a test, among a count of numbers from a start. -/
def firstFrom? (ok : Nat → Bool) : Nat → Nat → Option Nat
  | 0, _ => none
  | count + 1, n => if ok n then some n else firstFrom? ok count (n + 1)

/-- The first number in a closed interval that passes a test. -/
def firstIn? (ok : Nat → Bool) (low high : Nat) : Option Nat := firstFrom? ok (high + 1 - low) low

namespace Expression

/-- The first admitted time of day that is not before a time of day. -/
def nextTime? (e : Expression) (hour minute : Nat) : Option (Nat × Nat) :=
  let inHour := if e.admitsHour hour then firstIn? e.admitsMinute minute 59 else none
  match inHour with
  | some minute => some (hour, minute)
  | none =>
    match firstIn? e.admitsHour (hour + 1) 23, firstIn? e.admitsMinute 0 59 with
    | some hour, some minute => some (hour, minute)
    | _, _ => none

/-- The first admitted minute on a day of a month, or a later day of it. -/
def nextInMonth? (e : Expression) (year month day : Nat) : Option WallMinute :=
  match firstIn? (fun day => e.admitsDay ⟨year, month, day⟩) day (Time.daysInMonth year month),
      e.nextTime? 0 0 with
  | some day, some (hour, minute) => some ⟨⟨year, month, day⟩, hour, minute⟩
  | _, _ => none

/-- The first admitted minute within some months from the start of a month on. Months are counted
through the years. -/
def nextInMonths? (e : Expression) : Nat → Nat → Option WallMinute
  | 0, _ => none
  | count + 1, month =>
    let found :=
      if e.admitsMonth (month % 12 + 1) then e.nextInMonth? (month / 12) (month % 12 + 1) 1
      else none
    match found with
    | some w => some w
    | none => nextInMonths? e count (month + 1)

/-- The first year in which schedules fire. -/
def firstYear : Nat := 1970

/-- The last year in which schedules fire. -/
def lastYear : Nat := 9999

/-- The first admitted minute that is not before a minute on the wall. -/
def next? (e : Expression) (w : WallMinute) : Option WallMinute :=
  let start := if w.date.year < firstYear then ⟨⟨firstYear, 1, 1⟩, 0, 0⟩ else w
  let today :=
    if e.admitsMonth start.date.month && e.admitsDay start.date
    then e.nextTime? start.hour start.minute else none
  match today with
  | some (hour, minute) => some ⟨start.date, hour, minute⟩
  | none =>
    let thisMonth :=
      if e.admitsMonth start.date.month
      then e.nextInMonth? start.date.year start.date.month (start.date.day + 1) else none
    match thisMonth with
    | some found => some found
    | none =>
      let month := start.date.year * 12 + start.date.month
      e.nextInMonths? ((lastYear + 1) * 12 - month) month

end Expression

end Automation.Cron
