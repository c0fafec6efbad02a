import Automation.Value.Basic
import Automation.Number.Text

/-!
# Reading JSON text

A text is read to a value, or to the first fault with its place. Beside the standard's numbers the
names `NaN`, `Infinity` and `-Infinity` are read. A name that occurs twice in an object keeps its
first place and its last value. An integer of very many digits is refused on its own account: it is
no fault of syntax.
-/

namespace Automation.Json

/-- What is wrong at a place of the text. -/
inductive Fault where
  | value
  | propertyName
  | colon
  | comma
  | extraData
  | unterminatedText
  | controlCharacter
  | escape
  | unicodeEscape
  | byteOrderMark
deriving DecidableEq, Repr

/-- The fault in words. -/
def Fault.message : Fault → String
  | .value => "Expecting value"
  | .propertyName => "Expecting property name enclosed in double quotes"
  | .colon => "Expecting ':' delimiter"
  | .comma => "Expecting ',' delimiter"
  | .extraData => "Extra data"
  | .unterminatedText => "Unterminated string starting at"
  | .controlCharacter => "Invalid control character at"
  | .escape => "Invalid \\escape"
  | .unicodeEscape => "Invalid \\uXXXX escape"
  | .byteOrderMark => "Unexpected UTF-8 BOM (decode using utf-8-sig)"

/-- Why a text could not be read. -/
inductive Error where
  /-- A fault, with its line and column, counted from one, and its offset. -/
  | syntaxFault (fault : Fault) (line column offset : Nat)
  /-- An integer with more digits than are read. -/
  | tooManyDigits (count : Nat)
deriving DecidableEq, Repr

/-- The error in words. -/
def Error.message : Error → String
  | .syntaxFault fault line column offset =>
    s!"{fault.message}: line {line} column {column} (char {offset})"
  | .tooManyDigits count => Number.tooManyDigitsMessage count

/-- A stop while reading: a fault in front of the rest of the text, or too many digits. -/
inductive Stop where
  | at (fault : Fault) (rest : List Char)
  | digits (count : Nat)

/-! ## Lexical parts -/

/-- The blanks of JSON. -/
def isBlank (c : Char) : Bool := c == ' ' || c == '\t' || c == '\n' || c == '\r'

/-- The text behind its blanks. -/
def skipBlanks (cs : List Char) : List Char := cs.dropWhile isBlank

/-- The value of a hexadecimal digit. -/
def hexValue? (c : Char) : Option Nat :=
  if '0' ≤ c && c ≤ '9' then some (c.toNat - 48)
  else if 'a' ≤ c && c ≤ 'f' then some (c.toNat - 87)
  else if 'A' ≤ c && c ≤ 'F' then some (c.toNat - 55)
  else none

/-- The number that four hexadecimal digits write. They cannot be the last characters of a text,
which has a quote to come. -/
def readUnit? : List Char → Option (Nat × List Char)
  | a :: b :: c :: d :: e :: rest => do
    let a ← hexValue? a
    let b ← hexValue? b
    let c ← hexValue? c
    let d ← hexValue? d
    return (((a * 16 + b) * 16 + c) * 16 + d, e :: rest)
  | _ => none

/-- The second half of a pair of code units, if one follows. -/
def readLowUnit? : List Char → Option (Nat × List Char)
  | '\\' :: 'u' :: rest => do
    let (low, rest) ← readUnit? rest
    if 0xDC00 ≤ low && low < 0xE000 then some (low, rest) else none
  | _ => none

/-- The character that a one-letter escape stands for. -/
def simpleEscape? : Char → Option Char
  | '"' => some '"'
  | '\\' => some '\\'
  | '/' => some '/'
  | 'b' => some '\x08'
  | 'f' => some '\x0c'
  | 'n' => some '\n'
  | 'r' => some '\r'
  | 't' => some '\t'
  | _ => none

/-- A text behind its opening quote; `start` is the text from that quote on. Half a pair on its
own becomes the replacement character. -/
def readText (start : List Char) : Nat → List Char → List Char → Except Stop (String × List Char)
  | 0, _, _ => .error (.at .unterminatedText start)
  | _, _, [] => .error (.at .unterminatedText start)
  | fuel + 1, acc, c :: rest =>
    if c == '"' then .ok (String.ofList acc.reverse, rest)
    else if c == '\\' then
      match rest with
      | [] => .error (.at .unterminatedText start)
      | 'u' :: digits =>
        match readUnit? digits with
        | none => .error (.at .unicodeEscape rest)
        | some (unit, after) =>
          if 0xD800 ≤ unit && unit < 0xDC00 then
            match readLowUnit? after with
            | some (low, after) =>
              let code := 65536 + (unit - 0xD800) * 1024 + (low - 0xDC00)
              readText start fuel (Char.ofNat code :: acc) after
            | none => readText start fuel ('\uFFFD' :: acc) after
          else if 0xDC00 ≤ unit && unit < 0xE000 then readText start fuel ('\uFFFD' :: acc) after
          else readText start fuel (Char.ofNat unit :: acc) after
      | e :: after =>
        match simpleEscape? e with
        | some d => readText start fuel (d :: acc) after
        | none => .error (.at .escape (c :: rest))
    else if c.toNat < 32 then .error (.at .controlCharacter (c :: rest))
    else readText start fuel (c :: acc) rest

/-- A minus in front, if there is one. -/
def takeMinus : List Char → Bool × List Char
  | '-' :: rest => (true, rest)
  | cs => (false, cs)

/-- The digits of a number in front of its point: a zero stands alone. -/
def takeWhole : List Char → List Char × List Char
  | '0' :: rest => (['0'], rest)
  | cs => cs.span Text.isLatinDigit

/-- The digits behind a point, if there are any. -/
def takeFraction : List Char → List Char × List Char
  | '.' :: rest =>
    let (digits, after) := rest.span Text.isLatinDigit
    if digits.isEmpty then ([], '.' :: rest) else (digits, after)
  | cs => ([], cs)

/-- The exponent of a number, if it has one. -/
def takePower : List Char → Option Int × List Char
  | c :: rest =>
    if c == 'e' || c == 'E' then
      let (down, digits) := Number.takeSign rest
      let (digits, after) := digits.span Text.isLatinDigit
      match Number.readNat? digits with
      | some n => (some (if down then -(n : Int) else n), after)
      | none => (none, c :: rest)
    else (none, c :: rest)
  | [] => (none, [])

/-- A number: digits without a zero in front, then perhaps a fraction and an exponent. -/
def readNumber? (cs : List Char) : Option (Except Nat Value × List Char) :=
  let (negative, cs) := takeMinus cs
  let (whole, rest) := takeWhole cs
  if whole.isEmpty then none else
  let (fraction, rest) := takeFraction rest
  let (power, rest) := takePower rest
  if fraction.isEmpty && power.isNone then
    if Number.digitLimit < whole.length then some (.error whole.length, rest)
    else
      let n : Int := (Text.natOfDigits? whole).getD 0
      some (.ok (.int (if negative then -n else n)), rest)
  else
    let digits := (Text.natOfDigits? (whole ++ fraction)).getD 0
    let x := Number.floatOfDecimal negative digits (power.getD 0 - fraction.length)
    some (.ok (.float x), rest)

/-- The rest behind a word. -/
def afterWord? (word : String) (cs : List Char) : Option (List Char) :=
  let w := word.toList
  if w.isPrefixOf cs then some (cs.drop w.length) else none

/-- The words that are values. -/
def literals : List (String × Value) :=
  [("null", .null), ("true", .bool true), ("false", .bool false), ("NaN", .float (0.0 / 0.0)),
   ("Infinity", .float (1.0 / 0.0)), ("-Infinity", .float (-1.0 / 0.0))]

/-! ## Values -/

mutual

/-- A value, at its first character. -/
def readValue : Nat → List Char → Except Stop (Value × List Char)
  | 0, cs => .error (.at .value cs)
  | _, [] => .error (.at .value [])
  | fuel + 1, c :: rest =>
    if c == '"' then do
      let (s, rest) ← readText (c :: rest) (rest.length + 1) [] rest
      return (.text s, rest)
    else if c == '[' then
      match skipBlanks rest with
      | ']' :: rest => .ok (.list [], rest)
      | rest => do
        let (items, rest) ← readItems fuel rest
        return (.list items, rest)
    else if c == '\x7b' then
      match skipBlanks rest with
      | '\x7d' :: rest => .ok (.object [], rest)
      | rest => do
        let (pairs, rest) ← readPairs fuel rest
        return (.object (Entries.ofPairs pairs), rest)
    else
      match literals.findSome? fun (word, v) => (afterWord? word (c :: rest)).map (v, ·) with
      | some found => .ok found
      | none =>
        match readNumber? (c :: rest) with
        | some (.ok v, rest) => .ok (v, rest)
        | some (.error count, _) => .error (.digits count)
        | none => .error (.at .value (c :: rest))

/-- The items of a list, of which there is one at least, and the bracket behind them. -/
def readItems : Nat → List Char → Except Stop (List Value × List Char)
  | 0, cs => .error (.at .value cs)
  | fuel + 1, cs => do
    let (item, rest) ← readValue fuel cs
    match skipBlanks rest with
    | ']' :: rest => return ([item], rest)
    | ',' :: rest =>
      let (items, rest) ← readItems fuel (skipBlanks rest)
      return (item :: items, rest)
    | rest => .error (.at .comma rest)

/-- The fields of an object, of which there is one at least, and the brace behind them. -/
def readPairs : Nat → List Char → Except Stop (List (String × Value) × List Char)
  | 0, cs => .error (.at .propertyName cs)
  | fuel + 1, cs =>
    match cs with
    | '"' :: rest => do
      let (name, rest) ← readText cs (rest.length + 1) [] rest
      match skipBlanks rest with
      | ':' :: rest =>
        let (value, rest) ← readValue fuel (skipBlanks rest)
        match skipBlanks rest with
        | '\x7d' :: rest => return ([(name, value)], rest)
        | ',' :: rest =>
          let (pairs, rest) ← readPairs fuel (skipBlanks rest)
          return ((name, value) :: pairs, rest)
        | rest => .error (.at .comma rest)
      | rest => .error (.at .colon rest)
    | _ => .error (.at .propertyName cs)

end

/-- A value with blanks around it and nothing else. -/
def readDocument (cs : List Char) : Except Stop Value := do
  if cs.head? = some '\uFEFF' then .error (.at .byteOrderMark cs)
  let (value, rest) ← readValue (2 * cs.length + 2) (skipBlanks cs)
  match skipBlanks rest with
  | [] => return value
  | rest => .error (.at .extraData rest)

/-- The place of a stop in its text. -/
def Stop.locate (cs : List Char) : Stop → Error
  | .digits count => .tooManyDigits count
  | .at fault rest =>
    let before := cs.take (cs.length - rest.length)
    let lastLine := before.reverse.takeWhile (· != '\n')
    .syntaxFault fault (before.count '\n' + 1) (lastLine.length + 1) before.length

/-- The value that a text writes. -/
def read (s : String) : Except Error Value :=
  match readDocument s.toList with
  | .ok v => .ok v
  | .error stop => .error (stop.locate s.toList)

end Automation.Json
