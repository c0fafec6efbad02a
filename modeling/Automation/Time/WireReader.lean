import Automation.Time.Stamp
import Automation.Text.Class

/-!
# Reading the times of messages

The times that stand in events and stored records: a date, or a date and a clock with an optional
offset, or a count of seconds or milliseconds from the start of 1970.
-/

namespace Automation.Time.Wire

/-- What is wrong with the date of a text. -/
inductive Fault where
  | tooShort
  | yearCharacter
  | separator
  | monthCharacter
  | dayCharacter
  | monthRange
  | dayRange
  | tooLong
deriving DecidableEq, Repr

/-- The fault in words. -/
def Fault.message : Fault → String
  | .tooShort => "input is too short"
  | .yearCharacter => "invalid character in year"
  | .separator => "invalid date separator, expected `-`"
  | .monthCharacter => "invalid character in month"
  | .dayCharacter => "invalid character in day"
  | .monthRange => "month value is outside expected range of 1-12"
  | .dayRange => "day value is outside expected range"
  | .tooLong => "unexpected extra characters at the end of the input"

/-- Why a count stands for no time. -/
inductive CountFault where
  | beforeRange
  | afterRange
  | notANumber
deriving DecidableEq, Repr

/-- The fault in words. -/
def CountFault.message : CountFault → String
  | .beforeRange => "dates before 0000 are not supported as unix timestamps"
  | .afterRange => "dates after 9999 are not supported as unix timestamps"
  | .notANumber => "NaN values not permitted"

/-- A number of so many digits in front of a text, or a fault. -/
def digits (count : Nat) (fault : Fault) (cs : List Char) : Except Fault (Nat × List Char) :=
  let head := cs.take count
  if head.length = count && head.all Text.isLatinDigit then
    .ok ((Text.natOfDigits? head).getD 0, cs.drop count)
  else .error fault

/-- A dash in front of a text. -/
def dash : List Char → Except Fault (List Char)
  | '-' :: rest => .ok rest
  | _ => .error .separator

/-- The date in front of a text. Lengths count bytes. -/
def datePart (cs : List Char) : Except Fault (Date × List Char) := do
  if (String.ofList cs).utf8ByteSize < 10 then .error .tooShort
  let (year, rest) ← digits 4 .yearCharacter cs
  let rest ← dash rest
  let (month, rest) ← digits 2 .monthCharacter rest
  let rest ← dash rest
  let (day, rest) ← digits 2 .dayCharacter rest
  if month < 1 || 12 < month then .error .monthRange
  if year < 1 then .error .dayRange
  if day < 1 || daysInMonth year month < day then .error .dayRange
  return (⟨year, month, day⟩, rest)

/-- A two-digit number below a limit. -/
def two? (limit : Nat) (cs : List Char) : Option (Nat × List Char) :=
  match digits 2 .tooShort cs with
  | .ok (n, rest) => if n < limit then some (n, rest) else none
  | .error _ => none

/-- The offset that ends a clock. -/
def offset? : List Char → Option (Option Int)
  | [] => some none
  | sign :: rest =>
    if sign == 'Z' || sign == 'z' then (if rest.isEmpty then some (some 0) else none)
    else if sign == '+' || sign == '-' || sign == '\u2212' then do
      let (hours, rest) ← two? 100 rest
      let rest := if rest.head? == some ':' then rest.drop 1 else rest
      let (minutes, rest) ← two? 60 rest
      let size : Int := hours * hour + minutes * minute
      if !rest.isEmpty || day ≤ size then none
      else some (some (if sign == '+' then size else -size))
    else none

/-- The fraction behind the seconds of a clock, in microseconds. Digits behind the sixth are
dropped. -/
def fraction? : List Char → Option (Nat × List Char)
  | mark :: after =>
    if mark == '.' || mark == ',' then
      let figures := after.takeWhile Text.isLatinDigit
      let six := figures.take 6
      if figures.isEmpty then none
      else (Text.natOfDigits? six).map fun n =>
        (n * Nat.pow 10 (6 - six.length), after.drop figures.length)
    else some (0, mark :: after)
  | [] => some (0, [])

/-- The clock and the offset behind a date. -/
def clock? (cs : List Char) : Option (Int × Option Int) := do
  let (hours, rest) ← two? 24 cs
  let (minutes, rest) ← match rest with
    | ':' :: rest => two? 60 rest
    | _ => none
  let (seconds, micros, rest) ← match rest with
    | ':' :: rest => do
      let (seconds, rest) ← two? 60 rest
      let (micros, rest) ← fraction? rest
      some (seconds, micros, rest)
    | _ => some (0, 0, rest)
  let offset ← offset? rest
  let time : Int := hours * hour + minutes * minute + seconds * second + micros
  return (time, offset)

/-- The stamp of a count of seconds since the start of 1970, with microseconds. Large counts are
milliseconds. -/
def ofTimestamp (count : Int) (micros : Int) : Except CountFault Stamp :=
  let millis := 20000000000 < count.natAbs
  let span := if millis then count * 1000 + micros / 1000 else count * second + micros
  let t := Stamp.ofInstant span
  if t.wall < 0 then .error .beforeRange
  else if Stamp.wallLimit ≤ t.wall then .error .afterRange
  else .ok t

/-- The stamp of a number: a count since the start of 1970 with a fraction. -/
def ofNumber (x : Float) : Except CountFault Stamp :=
  if x.isNaN then .error .notANumber
  else match Number.truncate? x.floor with
  | some whole =>
    let fraction := ((x - x.floor) * 1000000).round
    ofTimestamp whole ((Number.truncate? fraction).getD 0)
  | none => if x < 0 then .error .beforeRange else .error .afterRange

/-- The count that a text writes. -/
def count? (s : String) : Option Float :=
  if s.toList.all fun c => Text.isLatinDigit c || c == '.' || c == '-' || c == '+' then
    Number.readFloat? s
  else none

/-- The stamp that a text writes. Where neither a date with a clock nor a count is read, a date
alone is midnight, and the fault is that of the date. -/
def read (s : String) : Except Fault Stamp :=
  let cs := s.toList
  let full : Option Stamp := do
    let (date, rest) ← (datePart cs).toOption
    match rest with
    | mark :: time =>
      if mark == 'T' || mark == 't' || mark == ' ' || mark == '_' then
        let (clock, offset) ← clock? time
        some ⟨((date.ordinal : Int) - 1) * day + clock, offset⟩
      else none
    | [] => none
  match full with
  | some t => .ok t
  | none =>
    match (count? s).bind fun x => (ofNumber x).toOption with
    | some t => .ok t
    | none => do
      let (date, rest) ← datePart cs
      if rest.isEmpty then return ⟨((date.ordinal : Int) - 1) * day, none⟩
      else .error .tooLong

end Automation.Time.Wire
