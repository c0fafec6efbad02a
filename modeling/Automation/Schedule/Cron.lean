import Automation.Number.Text
import Automation.Time.Calendar
import Automation.Value.Display

/-!
# Cron expressions

Five fields say in which minutes, hours, days, months and weekdays a schedule fires. A field is a
list of entries, and a value that any entry admits is admitted. Weekdays are counted from Monday,
which is zero. All five fields must admit a minute, also the day and the weekday.
-/

namespace Automation.Cron

/-! ## Fields -/

/-- The fields of an expression. -/
inductive Field where
  | minute
  | hour
  | day
  | month
  | weekday
deriving DecidableEq, Repr

namespace Field

/-- The name of a field in messages. -/
def name : Field → String
  | .minute => "minute"
  | .hour => "hour"
  | .day => "day"
  | .month => "month"
  | .weekday => "day_of_week"

/-- The least value of a field. -/
def least : Field → Nat
  | .day | .month => 1
  | .minute | .hour | .weekday => 0

/-- The greatest value of a field in any month. -/
def most : Field → Nat
  | .minute => 59
  | .hour => 23
  | .day => 31
  | .month => 12
  | .weekday => 6

/-- The names of the values of a field, from the least on. -/
def valueNames : Field → List String
  | .month =>
    ["jan", "feb", "mar", "apr", "may", "jun", "jul", "aug", "sep", "oct", "nov", "dec"]
  | .weekday => ["mon", "tue", "wed", "thu", "fri", "sat", "sun"]
  | .minute | .hour | .day => []

/-- What a value of a field with names is called. -/
def nounOfNames : Field → String
  | .month => "month"
  | _ => "weekday"

end Field

/-- A part of a field. -/
inductive Entry where
  /-- Every value, or every one at a distance from the least. -/
  | every (step : Option Nat)
  /-- From a first value on, up to a last one if there is one. -/
  | range (first : Nat) (last step : Option Nat)
  /-- The same, written with names. -/
  | named (first : Nat) (last : Option Nat)
  /-- The last day of the month. -/
  | lastDay
deriving DecidableEq, Repr

/-! ## Faults -/

/-- Why a text is no cron expression. -/
inductive Fault where
  | wordCount (found : Nat)
  | unrecognized (entry : String) (field : Field)
  | badName (name : String) (field : Field)
  | zeroStep
  | backwards
  | longStep (entry : String) (step : Nat) (span : Int)
  | lowFirst (entry : String) (first least : Nat)
  | highLast (entry : String) (last most : Nat)
  | tooManyDigits (count : Nat)
deriving DecidableEq, Repr

/-- The fault of an entry in words. -/
def entryFault (entry detail : String) : String :=
  "Error validating expression " ++ Value.quoted entry ++ ": " ++ detail

/-- The fault in words. -/
def Fault.message : Fault → String
  | .wordCount found => s!"Wrong number of fields; got {found}, expected 5"
  | .unrecognized entry field =>
    "Unrecognized expression \"" ++ entry ++ "\" for field \"" ++ field.name ++ "\""
  | .badName name field => "Invalid " ++ field.nounOfNames ++ " name \"" ++ name ++ "\""
  | .zeroStep => "Increment must be higher than 0"
  | .backwards => "The minimum value in a range must not be higher than the maximum"
  | .longStep entry step span =>
    entryFault entry
      s!"the step value ({step}) is higher than the total range of the expression ({span})"
  | .lowFirst entry first least =>
    entryFault entry s!"the first value ({first}) is lower than the minimum value ({least})"
  | .highLast entry last most =>
    entryFault entry s!"the last value ({last}) is higher than the maximum value ({most})"
  | .tooManyDigits count => Number.tooManyDigitsMessage count

/-! ## Reading -/

/-- The number of some digits. -/
def readNumber (digits : List Char) : Except Fault Nat :=
  if Number.digitLimit < digits.length then .error (.tooManyDigits digits.length)
  else .ok ((Text.natOfDigits? digits).getD 0)

/-- A number that may be left out. -/
def readOptional : Option (List Char) → Except Fault (Option Nat)
  | some digits => (readNumber digits).map some
  | none => .ok none

/-- A step is not zero. -/
def readStep (digits : Option (List Char)) : Except Fault (Option Nat) := do
  let step ← readOptional digits
  if step = some 0 then .error .zeroStep else .ok step

/-- Digits behind a mark: none without the mark, and no answer if the mark stands alone. -/
def takeMarked (mark : Char) (cs : List Char) : Option (Option (List Char) × List Char) :=
  match cs with
  | c :: rest =>
    if c = mark then
      let digits := rest.takeWhile Text.isDecimal
      if digits.isEmpty then none else some (some digits, rest.dropWhile Text.isDecimal)
    else some (none, cs)
  | [] => some (none, cs)

/-- The digits of an entry `*` or `*/step`. -/
def everyParts? : List Char → Option (Option (List Char))
  | '*' :: rest => do
    let (step, rest) ← takeMarked '/' rest
    if rest.isEmpty then some step else none
  | _ => none

/-- The digits of an entry `first`, `first-last`, `first/step` or `first-last/step`. -/
def rangeParts? (cs : List Char) :
    Option (List Char × Option (List Char) × Option (List Char)) := do
  let first := cs.takeWhile Text.isDecimal
  if first.isEmpty then none
  else
    let (last, rest) ← takeMarked '-' (cs.dropWhile Text.isDecimal)
    let (step, rest) ← takeMarked '/' rest
    if rest.isEmpty then some (first, last, step) else none

/-- A letter of a name. Four letters of other alphabets have Latin letters as their other case. -/
def isNameLetter (c : Char) : Bool :=
  Text.isLatinLetter c || c == 'ı' || c == 'İ' || c == 'ſ' || c == 'K'

/-- The names of an entry `first` or `first-last`; what follows them is skipped. -/
def nameParts? (cs : List Char) : Option (List Char × Option (List Char)) :=
  let first := cs.takeWhile isNameLetter
  if first.isEmpty then none
  else match cs.dropWhile isNameLetter with
    | '-' :: rest =>
      let last := rest.takeWhile isNameLetter
      some (first, if last.isEmpty then none else some last)
    | _ => some (first, none)

/-- Whether a text starts with the word for the last day. -/
def startsWithLast (cs : List Char) : Bool :=
  (cs.take 4).map (fun c => if c = 'ſ' then 's' else c.toLower) = ['l', 'a', 's', 't']

/-- The value of a name. -/
def valueOf (field : Field) (name : List Char) : Except Fault Nat :=
  let word := String.ofList name
  match field.valueNames.findIdx? (· = Text.lowerLatin word) with
  | some i => .ok (i + field.least)
  | none => .error (.badName word field)

/-- A range does not run backwards. -/
def checkOrder (first : Nat) (last : Option Nat) : Except Fault Unit :=
  match last with
  | some last => if last < first then .error .backwards else .ok ()
  | none => .ok ()

/-- A step is not longer than a span. -/
def checkStep (entry : String) (step : Option Nat) (span : Int) : Except Fault Unit :=
  match step with
  | some step => if span < step then .error (.longStep entry step span) else .ok ()
  | none => .ok ()

/-- A range lies within its field, and its step within the range. A range whose last value is zero
counts as one without a last value. -/
def checkRange (entry : String) (field : Field) (first : Nat) (last step : Option Nat) :
    Except Fault Unit := do
  checkStep entry step ((field.most : Int) - field.least)
  if first < field.least then .error (.lowFirst entry first field.least)
  match last with
  | some last => if field.most < last then .error (.highLast entry last field.most)
  | none => pure ()
  let finish := if last = some 0 then field.most else last.getD field.most
  checkStep entry step ((finish : Int) - first)

/-- Read an entry of a field. -/
def readEntry (field : Field) (cs : List Char) : Except Fault Entry :=
  let entry := String.ofList cs
  match everyParts? cs with
  | some step => do
    let step ← readStep step
    checkStep entry step ((field.most : Int) - field.least)
    return .every step
  | none =>
    match rangeParts? cs with
    | some (first, last, step) => do
      let step ← readStep step
      let first ← readNumber first
      let last ← readOptional last
      -- A number alone is a range of one, but with a step it goes up to the end of the field.
      let last := if last.isNone && step.isNone then some first else last
      checkOrder first last
      checkRange entry field first last step
      return .range first last step
    | none =>
      match field.valueNames.isEmpty, nameParts? cs with
      | false, some (first, last) => do
        let first ← valueOf field first
        match last with
        | some last =>
          let last ← valueOf field last
          checkOrder first (some last)
          return .named first (some last)
        | none => return .named first none
      | _, _ =>
        if field = .day && startsWithLast cs then .ok .lastDay
        else .error (.unrecognized entry field)

/-- Read the entries of a field. -/
def readEntries (field : Field) (word : String) : Except Fault (List Entry) :=
  (Text.splitOn ',' word.toList).mapM (readEntry field)

/-! ## Expressions -/

/-- What a schedule admits, field by field. -/
structure Expression where
  minute : List Entry
  hour : List Entry
  day : List Entry
  month : List Entry
  weekday : List Entry
deriving DecidableEq, Repr

/-- The five words of an expression. -/
structure Words where
  minute : String
  hour : String
  day : String
  month : String
  weekday : String

/-- Cut a text into five words. -/
def cut (text : String) : Except Fault Words :=
  match Text.words text with
  | [minute, hour, day, month, weekday] => .ok ⟨minute, hour, day, month, weekday⟩
  | words => .error (.wordCount words.length)

/-- Read five words, the larger units first. -/
def Words.read (w : Words) : Except Fault Expression := do
  let month ← readEntries .month w.month
  let day ← readEntries .day w.day
  let weekday ← readEntries .weekday w.weekday
  let hour ← readEntries .hour w.hour
  let minute ← readEntries .minute w.minute
  return { minute, hour, day, month, weekday }

/-! ## Writing -/

/-- The text of a step. -/
def writeStep : Option Nat → String
  | some step => s!"/{step}"
  | none => ""

/-- The text of a range whose ends are written somehow. -/
def writeRange (write : Nat → String) (first : Nat) : Option Nat → String
  | some last => if last = first then write first else write first ++ "-" ++ write last
  | none => write first

/-- The text of an entry. -/
def Entry.write (field : Field) : Entry → String
  | .every step => "*" ++ writeStep step
  | .range first last step => writeRange toString first last ++ writeStep step
  | .named first last =>
    writeRange (fun n => (field.valueNames[n - field.least]?).getD "") first last
  | .lastDay => "last"

/-- The text of a field. -/
def writeEntries (field : Field) (entries : List Entry) : String :=
  Text.join "," (entries.map (Entry.write field))

/-- The fields of an expression by their names, in their written form. -/
def Expression.fields (e : Expression) : Entries String :=
  [(Field.minute, e.minute), (.hour, e.hour), (.day, e.day), (.month, e.month),
   (.weekday, e.weekday)].map fun (field, entries) => (field.name, writeEntries field entries)

end Automation.Cron
