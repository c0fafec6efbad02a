import Automation.Number.Text
import Automation.Time.Stamp
import Automation.Value.Display

/-!
# Scalars of YAML

A scalar without quotes and without a tag is what its form says: nothing, a flag, an integer, a
number, a time, one of two marks for mappings, or else a text. The form is decided first; the value
that it promises is read afterwards, and there may be none.
-/

namespace Automation.Yaml

/-! ## Faults -/

/-- What is wrong with a date or a time. -/
inductive DateFault where
  | year (n : Nat)
  | month
  | day
  | hour
  | minute
  | second
  /-- An offset of a day or more, in seconds. -/
  | offset (seconds : Int)
deriving DecidableEq, Repr

/-- A span of whole seconds, shown by its parts. -/
def shownSpan (seconds : Int) : String :=
  let days := seconds.fdiv 86400
  let rest := seconds.fmod 86400
  let parts := (if days = 0 then [] else ["days=" ++ toString days])
    ++ (if rest = 0 then [] else ["seconds=" ++ toString rest])
  "datetime.timedelta(" ++ Text.join ", " (if parts.isEmpty then ["0"] else parts) ++ ")"

/-- The fault in words. -/
def DateFault.message : DateFault → String
  | .year n => s!"year {n} is out of range"
  | .month => "month must be in 1..12"
  | .day => "day is out of range for month"
  | .hour => "hour must be in 0..23"
  | .minute => "minute must be in 0..59"
  | .second => "second must be in 0..59"
  | .offset seconds =>
    "offset must be a timedelta strictly between -timedelta(hours=24) and timedelta(hours=24), not "
      ++ shownSpan seconds

/-- Why a text gives no data. -/
inductive Fault where
  /-- It is no YAML, or no single document of known tags. -/
  | malformed
  /-- An escape for no character; `huge` if the code does not even fit into 31 bits. -/
  | badCharacter (huge : Bool)
  | longInteger (digits : Nat)
  | noInteger (base : Nat) (text : String)
  | noNumber (text : String)
  /-- A number with an empty text. -/
  | emptyNumber
  /-- A number with so many parts that none is as great as the first one counts. -/
  | hugeNumber
  | noFlag (text : String)
  | noTime
  /-- A time that is a mapping. -/
  | mappedTime
  | date (fault : DateFault)
deriving DecidableEq, Repr

/-- The fault in words. -/
def Fault.message : Fault → String
  | .malformed => "Invalid YAML format"
  | .badCharacter false => "chr() arg not in range(0x110000)"
  | .badCharacter true => "Python int too large to convert to C int"
  | .longInteger digits => Number.tooManyDigitsMessage digits
  | .noInteger base text =>
    let shown := (Value.quoted text).toList.take 200
    s!"invalid literal for int() with base {base}: " ++ String.ofList shown
  | .noNumber text => "could not convert string to float: " ++ Value.quoted text
  | .emptyNumber => "string index out of range"
  | .hugeNumber => "int too large to convert to float"
  | .noFlag text => Value.quoted text
  | .noTime => "'NoneType' object has no attribute 'groupdict'"
  | .mappedTime => "expected string or bytes-like object, got 'list'"
  | .date fault => fault.message

/-! ## Tags -/

/-- What a node is. -/
inductive Tag where
  | null
  | flag
  | integer
  | number
  | time
  /-- The key under which other mappings are merged in. -/
  | merge
  /-- The key of a default value. -/
  | default
  | text
  | binary
  | sequence
  /-- A list of pairs, each one written as a mapping. -/
  | pairs
  | mapping
  /-- A mapping of which only the keys count. -/
  | set
  | other (uri : String)
deriving DecidableEq, Repr

/-- What the names of the common tags begin with. -/
def Tag.root : String := "tag:yaml.org,2002:"

/-- The tag of a name. -/
def Tag.ofUri (uri : String) : Tag :=
  let common : List (String × Tag) :=
    [("null", .null), ("bool", .flag), ("int", .integer), ("float", .number), ("timestamp", .time),
     ("merge", .merge), ("value", .default), ("str", .text), ("binary", .binary),
     ("seq", .sequence), ("omap", .pairs), ("pairs", .pairs), ("map", .mapping), ("set", .set)]
  ((common.find? fun (name, _) => Tag.root ++ name = uri).map (·.2)).getD (.other uri)

/-! ## Forms -/

/-- A digit or a filler between digits. -/
def isDigitOrFill (c : Char) : Bool := c.isDigit || c == '_'

/-- A hexadecimal digit. -/
def isHexDigit (c : Char) : Bool :=
  c.isDigit || ('a' ≤ c && c ≤ 'f') || ('A' ≤ c && c ≤ 'F')

/-- What is left behind a sign, if there is one. -/
def dropSign : List Char → List Char
  | '-' :: rest => rest
  | '+' :: rest => rest
  | cs => cs

/-- The words for flags. -/
def flagWords : List (String × Bool) :=
  [("yes", true), ("no", false), ("true", true), ("false", false), ("on", true), ("off", false)]

/-- A word in small letters, with a capital in front, or in capitals. -/
def spellings (word : String) : List String := [word, word.capitalize, word.toUpper]

/-- An exponent with a sign, or nothing. -/
def isExponent : List Char → Bool
  | [] => true
  | e :: sign :: digits =>
    (e == 'e' || e == 'E') && (sign == '-' || sign == '+') && !digits.isEmpty
      && digits.all Char.isDigit
  | _ => false

/-- One or two digits for a number below sixty. -/
def isSixtieth : List Char → Bool
  | [c] => c.isDigit
  | [c, d] => '0' ≤ c && c ≤ '5' && d.isDigit
  | _ => false

/-- A digit, and then digits and fillers. -/
def isDigits : List Char → Bool
  | [] => false
  | c :: rest => c.isDigit && rest.all isDigitOrFill

/-- Digits behind which sixtieths follow, each behind a colon. -/
def isSexagesimal (cs : List Char) : Bool :=
  match Text.splitOn ':' cs with
  | head :: part :: parts => isDigits head && (part :: parts).all isSixtieth
  | _ => false

/-- The form of a number with a point. -/
def isNumber (cs : List Char) : Bool :=
  let unsigned := dropSign cs
  let whole := unsigned.takeWhile (· != '.')
  match unsigned.drop whole.length with
  | _ :: rest =>
    let fraction := rest.takeWhile isDigitOrFill
    let tail := rest.drop fraction.length
    (isDigits whole && isExponent tail)
      || (isSexagesimal whole && tail.isEmpty)
      || (whole.isEmpty && unsigned == cs && isDigits fraction && isExponent tail)
      || (whole.isEmpty && ["inf", "Inf", "INF"].contains (String.ofList rest))
      || (whole.isEmpty && unsigned == cs && ["nan", "NaN", "NAN"].contains (String.ofList rest))
  | [] => false

/-- The form of an integer: binary, octal, decimal, hexadecimal, or in sixtieths. -/
def isInteger (cs : List Char) : Bool :=
  match dropSign cs with
  | ['0'] => true
  | '0' :: 'b' :: rest => !rest.isEmpty && rest.all fun c => c == '0' || c == '1' || c == '_'
  | '0' :: 'x' :: rest =>
    !rest.isEmpty && rest.all fun c => isHexDigit c || c == '_'
  | '0' :: rest => rest.all fun c => ('0' ≤ c && c ≤ '7') || c == '_'
  | cs => isDigits cs || isSexagesimal cs

/-! ## Times -/

/-- The clock of a time as it is written, with microseconds; the offset is in seconds. -/
structure WrittenClock where
  hour : Nat
  minute : Nat
  second : Nat
  micros : Nat
  offset : Option Int
deriving DecidableEq, Repr

/-- A time as it is written. -/
structure WrittenTime where
  year : Nat
  month : Nat
  day : Nat
  /-- Whether month and day have two digits each. -/
  full : Bool
  clock : Option WrittenClock
deriving DecidableEq, Repr

/-- As many digits as there are, but no more than some, and at least some. -/
def digitRun? (least most : Nat) (cs : List Char) : Option (Nat × Nat × List Char) :=
  let digits := (cs.take most).takeWhile Char.isDigit
  if digits.length < least then none
  else (Text.natOfDigits? digits).map fun n => (n, digits.length, cs.drop digits.length)

/-- A character that must be there. -/
def expect? (c : Char) : List Char → Option (List Char)
  | d :: rest => if d = c then some rest else none
  | [] => none

/-- An offset at the end: nothing, a letter, or hours and perhaps minutes. -/
def writtenOffset? (cs : List Char) : Option (Option Int) :=
  match cs.dropWhile fun c => c == ' ' || c == '\t' with
  | [] => if cs.isEmpty then some none else none
  | ['Z'] => some (some 0)
  | sign :: rest => do
    if sign != '-' && sign != '+' then none
    let (hours, _, rest) ← digitRun? 1 2 rest
    let minutes ← match rest with
      | [] => some 0
      | _ => do
        let (minutes, _, rest) ← digitRun? 2 2 (← expect? ':' rest)
        if rest.isEmpty then some minutes else none
    let size : Int := hours * 3600 + minutes * 60
    return some (if sign == '-' then -size else size)

/-- The microseconds of a fraction: its first six digits. -/
def microsOfDigits (digits : List Char) : Nat :=
  let digits := digits.take 6
  (Text.natOfDigits? digits).getD 0 * Nat.pow 10 (6 - digits.length)

/-- A clock with what may stand behind it. -/
def writtenClock? (cs : List Char) : Option WrittenClock := do
  let (hour, _, rest) ← digitRun? 1 2 cs
  let (minute, _, rest) ← digitRun? 2 2 (← expect? ':' rest)
  let (second, _, rest) ← digitRun? 2 2 (← expect? ':' rest)
  let (fraction, rest) := match rest with
    | '.' :: rest =>
      let digits := rest.takeWhile Char.isDigit
      (digits, rest.drop digits.length)
    | _ => ([], rest)
  return ⟨hour, minute, second, microsOfDigits fraction, ← writtenOffset? rest⟩

/-- A date, or a date and a clock with a letter or blanks between them. -/
def writtenTime? (cs : List Char) : Option WrittenTime := do
  let (year, _, rest) ← digitRun? 4 4 cs
  let (month, monthDigits, rest) ← digitRun? 1 2 (← expect? '-' rest)
  let (day, dayDigits, rest) ← digitRun? 1 2 (← expect? '-' rest)
  let full := monthDigits = 2 && dayDigits = 2
  match rest with
  | [] => return ⟨year, month, day, full, none⟩
  | c :: rest =>
    let rest ←
      if c == 'T' || c == 't' then some rest
      else if c == ' ' || c == '\t' then some (rest.dropWhile fun c => c == ' ' || c == '\t')
      else none
    return ⟨year, month, day, full, some (← writtenClock? rest)⟩

/-- The form of a time. A date alone must be written in full. -/
def isTime (cs : List Char) : Bool :=
  match writtenTime? cs with
  | some t => t.full || t.clock.isSome
  | none => false

/-! ## The tag of a plain scalar -/

/-- What a plain scalar is. -/
def Tag.ofPlain (s : String) : Tag :=
  let cs := s.toList
  if flagWords.any fun (word, _) => (spellings word).contains s then .flag
  else if isNumber cs then .number
  else if isInteger cs then .integer
  else if s = "<<" then .merge
  else if s = "~" || s.isEmpty || (spellings "null").contains s then .null
  else if isTime cs then .time
  else if s = "=" then .default
  else .text

/-! ## Values -/

/-- The flag of a word. -/
def readFlag (s : String) : Except Fault Bool :=
  match flagWords.find? fun (word, _) => word = s.toLower with
  | some (_, b) => .ok b
  | none => .error (.noFlag s.toLower)

/-- The value of a digit of a base: a decimal digit of any script, or a letter. -/
def digitValue? (base : Nat) (c : Char) : Option Nat :=
  let letter := c.toLower
  let value := (Text.decimalValue? c).getD
    (if 'a' ≤ letter && letter ≤ 'z' then letter.toNat - 'a'.toNat + 10 else base)
  if value < base then some value else none

/-- The number that digits of a base write. -/
def natOfDigits (base : Nat) (digits : List Char) : Nat :=
  digits.foldl (fun n c => n * base + (digitValue? base c).getD 0) 0

/-- What is left behind the mark of a base, if there is one. -/
def dropBaseMark (base : Nat) : List Char → List Char
  | '0' :: mark :: rest =>
    if [(2, 'b'), (8, 'o'), (16, 'x')].contains (base, mark.toLower) then rest
    else '0' :: mark :: rest
  | cs => cs

/-- The integer that a text writes in digits of a base. White space may stand around it, and a sign and
the mark of the base in front. -/
def readInt (base : Nat) (s : String) : Except Fault Int :=
  let (negative, digits) := Number.takeSign (Text.stripNumber s)
  let digits := dropBaseMark base digits
  let run := digits.takeWhile fun c => (digitValue? base c).isSome
  if base = 10 && Number.digitLimit < run.length then .error (.longInteger run.length)
  else if run.isEmpty || run.length < digits.length then .error (.noInteger base s)
  else
    let n : Int := natOfDigits base run
    .ok (if negative then -n else n)

/-- The integer that a text of its form writes. -/
def readInteger (s : String) : Except Fault Int := do
  let cs := s.toList.filter (· != '_')
  if cs.isEmpty then .error .emptyNumber
  let sign : Int := if cs.head? = some '-' then -1 else 1
  match dropSign cs with
  | [] => .error .emptyNumber
  | ['0'] => return 0
  | '0' :: 'b' :: rest => return sign * (← readInt 2 (String.ofList rest))
  | '0' :: 'x' :: rest => return sign * (← readInt 16 (String.ofList rest))
  | '0' :: rest => return sign * (← readInt 8 (String.ofList ('0' :: rest)))
  | cs =>
    let parts ← (Text.splitOn ':' cs).mapM fun part => readInt 10 (String.ofList part)
    return sign * parts.foldl (fun sum part => sum * 60 + part) 0

/-- The sum of parts, the smallest first, so that it is rounded in that order. The factor of each one is
a float, but an exact one as long as it fits. -/
def sumSixtieths : List Float → Nat → Float → Except Fault Float
  | [], _, sum => .ok sum
  | part :: parts, power, sum =>
    let factor := Nat.pow 60 power
    if factor.log2 < 1024 then
      sumSixtieths parts (power + 1) (sum + part * Number.floatOfInt factor)
    else .error .hugeNumber

/-- The number that a text of its form writes. -/
def readNumber (s : String) : Except Fault Float := do
  let cs := (s.toLower.toList.filter (· != '_'))
  if cs.isEmpty then .error .emptyNumber
  let sign : Float := if cs.head? = some '-' then -1.0 else 1.0
  let text := String.ofList (dropSign cs)
  if text = ".inf" then return sign * (1.0 / 0.0)
  else if text = ".nan" then return 0.0 / 0.0
  else
    let parts ← (Text.splitOn ':' text.toList).mapM fun part =>
      match Number.readFloat? (String.ofList part) with
      | some x => .ok x
      | none => .error (.noNumber (String.ofList part))
    match parts with
    | [x] => return sign * x
    | parts => return sign * (← sumSixtieths parts.reverse 0 0.0)

/-- A date alone, or a point in time. -/
inductive Moment where
  | date (d : Time.Date)
  | stamp (t : Time.Stamp)
deriving DecidableEq, Repr

/-- The moment as text. -/
def Moment.text : Moment → String
  | .date d => Time.Stamp.writeDate d
  | .stamp t => t.wire

/-- The date of a written time. -/
def WrittenTime.date (t : WrittenTime) : Except DateFault Time.Date :=
  let d : Time.Date := ⟨t.year, t.month, t.day⟩
  if t.year = 0 then .error (.year 0)
  else if t.month < 1 || 12 < t.month then .error .month
  else if d.Valid then .ok d
  else .error .day

/-- The moment that a written time stands for. -/
def WrittenTime.moment (t : WrittenTime) : Except DateFault Moment :=
  match t.clock with
  | none => t.date.map .date
  | some clock => do
    if let some seconds := clock.offset then
      if 86400 ≤ seconds.natAbs then .error (.offset seconds)
    let d ← t.date
    if 23 < clock.hour then .error .hour
    if 59 < clock.minute then .error .minute
    if 59 < clock.second then .error .second
    return .stamp (Time.Stamp.ofParts d clock.hour clock.minute clock.second clock.micros
      (clock.offset.map (· * Time.second)))

/-- The moment that a text of its form writes. A line break at the end is not seen. -/
def readTime (s : String) : Except Fault Moment :=
  match writtenTime? s.toList <|> writtenTime? (Text.dropLineBreak s.toList) with
  | none => .error .noTime
  | some t => t.moment.mapError .date

end Automation.Yaml
