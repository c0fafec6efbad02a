import Automation.Time.Stamp

/-!
# Time zones

A zone says how far its clocks are from UTC at each moment: by a list of changes up to some year,
and from then on by a rule for the two changes of every year. Moments and offsets are counted in
seconds, moments from the start of 1970.
-/

namespace Automation.Time.Zone

/-- A day of the year and a time on its wall clock: the given weekday in the given week of a month,
the fifth week being the last. Weekdays are counted from Sunday. -/
structure YearDay where
  month : Nat
  week : Nat
  weekday : Nat
  time : Int
deriving DecidableEq, Repr

/-- Clocks that are changed twice a year. -/
structure Seasons where
  standard : Int
  summer : Int
  summerStart : YearDay
  summerEnd : YearDay
deriving DecidableEq, Repr

/-- From a moment on, clocks have an offset. -/
structure Change where
  moment : Int
  offset : Int
deriving DecidableEq, Repr

end Zone

/-- The clocks of a region. -/
structure Zone where
  /-- The offset before all changes. -/
  initial : Int
  changes : List Zone.Change
  seasons : Option Zone.Seasons
deriving DecidableEq, Repr

namespace Zone

/-- The zone of universal time. -/
def utc : Zone := ⟨0, [], none⟩

/-! ## Yearly changes -/

/-- The seconds of a day. -/
def daySeconds : Int := 86400

/-- The wall clock reading of a yearly day, as if at UTC. -/
def YearDay.reading (d : YearDay) (year : Nat) : Int :=
  let first : Date := ⟨year, d.month, 1⟩
  let skipped := (d.weekday + 7 - (first.weekday + 1) % 7) % 7
  let day := 1 + skipped + (d.week - 1) * 7
  let day := if daysInMonth year d.month < day then day - 7 else day
  ((({ first with day } : Date).ordinal : Int) - epochOrdinal) * daySeconds + d.time

/-- The changes of a year. -/
def Seasons.changesOf (s : Seasons) (year : Nat) : List Change :=
  let start : Change := ⟨s.summerStart.reading year - s.standard, s.summer⟩
  let finish : Change := ⟨s.summerEnd.reading year - s.summer, s.standard⟩
  if start.moment < finish.moment then [start, finish] else [finish, start]

/-- The year of a moment. -/
def yearOf (moment : Int) : Nat :=
  (Date.ofOrdinal (moment.fdiv daySeconds + epochOrdinal).toNat).year

/-- All changes of a zone that matter around a moment, in their order. -/
def changesNear (z : Zone) (moment : Int) : List Change :=
  match z.seasons with
  | none => z.changes
  | some s =>
    let last := (z.changes.getLast?.map Change.moment).getD (-daySeconds)
    let year := yearOf moment
    z.changes ++
      ([year - 1, year, year + 1].flatMap s.changesOf).filter fun change => last < change.moment

/-! ## Clocks -/

/-- The offset at a moment, when the offset so far and the changes to come are known. -/
def offsetAfter (moment offset : Int) : List Change → Int
  | [] => offset
  | change :: changes =>
    if moment < change.moment then offset else offsetAfter moment change.offset changes

/-- The offset of a zone at a moment. -/
def offsetAt (z : Zone) (moment : Int) : Int := offsetAfter moment z.initial (z.changesNear moment)

/-- Whether a moment lies so close to a change that sets clocks back that they show its reading
twice. -/
def repeatsAfter (moment offset : Int) : List Change → Bool
  | [] => false
  | change :: changes =>
    let back := offset - change.offset
    (0 < back && change.moment - back ≤ moment && moment < change.moment + back)
      || repeatsAfter moment change.offset changes

/-- Whether the clocks of a zone show the reading at a moment twice. -/
def repeatsAt (z : Zone) (moment : Int) : Bool :=
  repeatsAfter moment z.initial (z.changesNear moment)

/-! ## Rows -/

/-- A zone in the compact form of the tables. -/
structure Row where
  names : List String
  initial : Int
  /-- Lines of changes: the half minutes since the last one in base 36, and the new offset in
  quarters of an hour. The first count starts at the 30th of December 1969. -/
  changes : List String
  seasons : Option Seasons

/-- The number that digits and small letters write in base 36. -/
def spanOf (cs : List Char) : Nat :=
  cs.foldl (fun n c => n * 36 + (if c.isDigit then c.toNat - 48 else c.toNat - 87)) 0

/-- The change that a word of a row writes. -/
def readChange (last : Int) (word : List Char) : Change :=
  let span := word.takeWhile fun c => c != '+' && c != '-'
  let quarters : Int := ((Text.natOfDigits? (word.drop (span.length + 1))).getD 0 : Nat)
  ⟨last + spanOf span * 30, 900 * if word.contains '-' then -quarters else quarters⟩

/-- The changes that the words of a row write. -/
def readChanges (last : Int) : List (List Char) → List Change
  | [] => []
  | word :: words =>
    let change := readChange last word
    change :: readChanges change.moment words

/-- The zone of a row. -/
def Row.zone (row : Row) : Zone where
  initial := row.initial
  changes := readChanges (-2 * daySeconds) ((row.changes.flatMap Text.words).map String.toList)
  seasons := row.seasons

end Zone

end Automation.Time
