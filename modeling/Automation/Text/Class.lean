import Automation.Text.Ranges
import Automation.Text.UpperRuns

/-!
# Character classes

The classes that names, numbers and blanks are made of. Each is Unicode-wide and agrees with the
familiar one on ASCII; beyond ASCII the tables of `Automation.Text.Ranges` decide.
-/

namespace Automation.Text

/-- Whether a code point lies in one of the ranges. -/
def inRanges (ranges : Array (Nat × Nat)) (code : Nat) : Bool :=
  ranges.any fun range => range.1 ≤ code && code ≤ range.2

/-- White space: what stripping removes and what separates the words of a schedule. -/
def isSpace (c : Char) : Bool :=
  let n := c.toNat
  if n < 128 then n == 32 || (9 ≤ n && n ≤ 13) || (28 ≤ n && n ≤ 31) else inRanges spaceRanges n

/-- The value of a decimal digit of any script. -/
def decimalValue? (c : Char) : Option Nat :=
  let n := c.toNat
  if n < 128 then
    if 48 ≤ n && n ≤ 57 then some (n - 48) else none
  else
    (decimalRanges.find? fun range => range.1 ≤ n && n ≤ range.2).map fun range => n - range.1

/-- A decimal digit of any script. -/
def isDecimal (c : Char) : Bool := (decimalValue? c).isSome

/-- A digit in the wider sense, which counts superscripts and circled digits in. -/
def isFigure (c : Char) : Bool := isDecimal c || inRanges figureRanges c.toNat

/-- A letter or a numeral of any script. -/
def isAlphanumeric (c : Char) : Bool :=
  if c.toNat < 128 then c.isAlphanum else inRanges wordRanges c.toNat

/-- A character of a word: a letter, a numeral or the underscore. -/
def isWord (c : Char) : Bool := c == '_' || isAlphanumeric c

/-- A character that stands for itself in quoted text. -/
def isPrintable (c : Char) : Bool :=
  let n := c.toNat
  if n < 128 then 32 ≤ n && n < 127 else !inRanges hiddenRanges n

/-- An ASCII letter. -/
def isLatinLetter (c : Char) : Bool := c.isAlpha

/-- An ASCII digit. -/
def isLatinDigit (c : Char) : Bool := c.isDigit

/-! ## Case -/

/-- The upper case of a character, which may be a sequence. -/
def upperOf (c : Char) : List Char :=
  let n := c.toNat
  if n < 128 then [c.toUpper] else
  match upperSequences.find? (·.1 == n) with
  | some (_, codes) => codes.map Char.ofNat
  | none =>
    match upperRuns.find? fun (first, last, step, _) =>
        first ≤ n && n ≤ last && (n - first) % step == 0 with
    | some (_, _, _, distance) => [Char.ofNat (Int.toNat (n + distance))]
    | none => [c]

/-- Text in upper case. -/
def upper (s : String) : String := String.ofList (s.toList.flatMap upperOf)

/-- Text with its ASCII letters in lower case. -/
def lowerLatin (s : String) : String := String.ofList (s.toList.map Char.toLower)

/-! ## Stripping -/

/-- The characters from the first that fails the test on. -/
def stripFront (p : Char → Bool) (cs : List Char) : List Char := cs.dropWhile p

/-- The characters up to the last that fails the test. -/
def stripBack (p : Char → Bool) (cs : List Char) : List Char :=
  (cs.reverse.dropWhile p).reverse

/-- Text without the white space around it. -/
def strip (s : String) : String :=
  String.ofList (stripBack isSpace (stripFront isSpace s.toList))

/-- White space as it may stand around a number. The four separators of records, which are white
space elsewhere, are none here. -/
def isNumberSpace (c : Char) : Bool := isSpace c && !(28 ≤ c.toNat && c.toNat ≤ 31)

/-- The text of a number without the white space around it. -/
def stripNumber (s : String) : List Char :=
  stripBack isNumberSpace (stripFront isNumberSpace s.toList)

/-- A text without its last line break. -/
def dropLineBreak (cs : List Char) : List Char :=
  if cs.getLast? = some '\n' then cs.dropLast else cs

/-- Text that is empty or all white space. -/
def isBlank (s : String) : Bool := s.toList.all isSpace

/-- Whether some characters are in others, one right after another. -/
def hasPart (part : List Char) : List Char → Bool
  | [] => part.isEmpty
  | c :: cs => part.isPrefixOf (c :: cs) || hasPart part cs

/-! ## Splitting and joining -/

/-- The pieces between separators, at least one. -/
def splitOn (separator : Char) : List Char → List (List Char)
  | [] => [[]]
  | c :: rest =>
    if c == separator then [] :: splitOn separator rest else
    match splitOn separator rest with
    | [] => [[c]]
    | piece :: pieces => (c :: piece) :: pieces

/-- The words between runs of white space. -/
def words (s : String) : List String :=
  let rec go (word : List Char) : List Char → List String
    | [] => if word.isEmpty then [] else [String.ofList word.reverse]
    | c :: rest =>
      if isSpace c then
        if word.isEmpty then go [] rest else String.ofList word.reverse :: go [] rest
      else go (c :: word) rest
  go [] s.toList

/-- Texts one after another with a separator between neighbours. -/
def join (separator : String) (parts : List String) : String := separator.intercalate parts

/-! ## Digits -/

/-- The number that decimal digits of any script write, or `none` at another character. -/
def natOfDigits? (digits : List Char) : Option Nat :=
  digits.foldl (fun value c => do
    let v ← value
    let d ← decimalValue? c
    return v * 10 + d) (some 0)

end Automation.Text
