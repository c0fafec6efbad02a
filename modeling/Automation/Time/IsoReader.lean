import Automation.Time.Stamp
import Automation.Text.Class

/-!
# Reading ISO 8601 times

Dates as year, month and day or as year, week and weekday, with or without dashes; then, behind any
one character, a clock with or without colons and an offset of the same make. Only ASCII digits
count.
-/

namespace Automation.Time.Iso

/-- The number that exactly so many digits write, with the rest. -/
def digits? (count : Nat) (cs : List Char) : Option (Nat × List Char) :=
  let head := cs.take count
  if head.length = count && head.all Text.isLatinDigit then
    (Text.natOfDigits? head).map (·, cs.drop count)
  else none

/-- How many characters in front are the date. -/
def dateLength? (cs : List Char) : Option Nat :=
  let at_ (i : Nat) : Char := cs.getD i ' '
  let n := cs.length
  if n = 7 then some 7
  else if at_ 4 == '-' then
    if at_ 5 == 'W' then
      if 8 < n && at_ 8 == '-' then
        if n = 9 then none
        else if 10 < n && Text.isLatinDigit (at_ 10) then some 8
        else some 10
      else some 8
    else some 10
  else if at_ 4 == 'W' then
    let run := ((cs.drop 7).takeWhile Text.isLatinDigit).length + 7
    if run < 9 then some run else if run % 2 = 0 then some 7 else some 8
  else some 8

/-- The number of the day that a date writes. -/
def date? (cs : List Char) : Option Int := do
  let (year, rest) ← digits? 4 cs
  let dashed := rest.head? == some '-'
  let rest := if dashed then rest.drop 1 else rest
  match rest with
  | 'W' :: rest =>
    let (week, rest) ← digits? 2 rest
    if rest.isEmpty then ordinalOfWeek? year week 1
    else if (rest.head? == some '-') != dashed then none
    else
      let (weekday, rest) ← digits? 1 (if dashed then rest.drop 1 else rest)
      if rest.isEmpty then ordinalOfWeek? year week weekday else none
  | _ =>
    let (month, rest) ← digits? 2 rest
    if (rest.head? == some '-') != dashed then none
    else
      let (day, rest) ← digits? 2 (if dashed then rest.drop 1 else rest)
      let date : Date := ⟨year, month, day⟩
      if rest.isEmpty && date.Valid then some date.ordinal else none

/-- A clock: hours, minutes, seconds and microseconds. -/
structure Clock where
  hours : Nat := 0
  minutes : Nat := 0
  seconds : Nat := 0
  micros : Nat := 0

/-- Microseconds from the digits of a fraction; digits behind the sixth are dropped. What stands
behind the digits is only accepted in front of an offset. -/
def micros? (offsetFollows : Bool) (cs : List Char) : Option Nat :=
  let six := cs.take 6
  let rest := (cs.drop 6).dropWhile Text.isLatinDigit
  if six.isEmpty || !six.all Text.isLatinDigit || (!rest.isEmpty && !offsetFollows) then none
  else (Text.natOfDigits? six).map fun n => n * Nat.pow 10 (6 - six.length)

/-- What follows a part of a clock: its end, a fraction, or the next part. A lone character at the
end is only accepted in front of an offset. -/
def afterPart? (offsetFollows colons : Bool) (c : Clock) (next : List Char → Option Clock) :
    List Char → Option Clock
  | [] => some c
  | [_] => if offsetFollows then some c else none
  | mark :: after =>
    if mark == '.' || mark == ',' then
      (micros? offsetFollows after).map fun micros => { c with micros }
    else if !colons then next (mark :: after)
    else if mark == ':' then next after
    else none

/-- A clock with its parts joined or divided by colons; a fraction may follow any part. -/
def clock? (offsetFollows : Bool) (cs : List Char) : Option Clock := do
  let (hours, rest) ← digits? 2 cs
  let colons := rest.head? == some ':'
  let c : Clock := { hours }
  afterPart? offsetFollows colons c (fun cs => do
    let (minutes, rest) ← digits? 2 cs
    let c := { c with minutes }
    afterPart? offsetFollows colons c (fun cs => do
      let (seconds, rest) ← digits? 2 cs
      let c := { c with seconds }
      afterPart? offsetFollows colons c
        (fun cs => (micros? offsetFollows cs).map fun micros => { c with micros }) rest) rest) rest

/-- An offset behind its sign, in microseconds. One of less than a second is UTC. -/
def offset? (negative : Bool) (cs : List Char) : Option Int := do
  let c ← clock? false cs
  let size : Int := c.hours * hour + c.minutes * minute + c.seconds * second + c.micros
  if size < second then some 0
  else if day ≤ size then none
  else some (if negative then -size else size)

/-- The stamp that a text writes. -/
def read? (s : String) : Option Stamp := do
  let cs := s.toList
  if cs.length < 7 then none else
  let length ← dateLength? cs
  let ordinal ← date? (cs.take length)
  let midnight := (ordinal - 1) * day
  match cs.drop length with
  | [] => some ⟨midnight, none⟩
  | _ :: time =>
    let clock := time.takeWhile fun c => c != '+' && c != '-' && c != 'Z'
    let zone := time.drop clock.length
    let c ← clock? (!zone.isEmpty) clock
    let offset ← match zone with
      | [] => some none
      | 'Z' :: rest => if rest.isEmpty then some (some 0) else none
      | sign :: rest => (offset? (sign == '-') rest).map some
    if c.hours < 24 && c.minutes < 60 && c.seconds < 60 then
      some ⟨midnight + c.hours * hour + c.minutes * minute + c.seconds * second + c.micros, offset⟩
    else none

end Automation.Time.Iso
