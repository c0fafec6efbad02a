import Automation.Number.Shortest
import Automation.Text.Class

/-!
# Numbers as text

How numbers are written, and which texts are read as numbers. Integers have no bound. A float is
written with its shortest digits, and in a way that tells it from an integer.
-/

namespace Automation.Number

/-! ## Writing -/

/-- The choices that a float's text leaves open. -/
structure FloatStyle where
  /-- Numbers below ten to this power are written with an exponent. -/
  positionalFrom : Int
  /-- Numbers from ten to this power on are written with an exponent. -/
  positionalBelow : Int
  exponentDigits : Nat
  nan : String
  infinity : String

/-- A float is positional from `0.0001` up to below `10^16`, keeps a digit after its point, and
writes an exponent with a sign and two digits at least. -/
def displayStyle : FloatStyle := ⟨-4, 16, 2, "nan", "inf"⟩

/-- The same in JSON text, which has names of its own for what is not finite. -/
def jsonStyle : FloatStyle := { displayStyle with nan := "NaN", infinity := "Infinity" }

/-- Digits with zeros in front up to a width. -/
def padded (width n : Nat) : String :=
  let digits := Nat.toDigits 10 n
  String.ofList (List.replicate (width - digits.length) '0' ++ digits)

/-- A positive decimal as text. -/
def FloatStyle.writeDecimal (style : FloatStyle) (d : Decimal) : String :=
  let digits := (Text.stripBack (· == '0') (Nat.toDigits 10 d.digits))
  let point : Int := (Nat.toDigits 10 d.digits).length + d.exponent
  let power := point - 1
  if style.positionalFrom ≤ power && power < style.positionalBelow then
    if point ≤ 0 then
      "0." ++ String.ofList (List.replicate (-point).toNat '0' ++ digits)
    else
      let whole := digits.take point.toNat
      let whole := whole ++ List.replicate (point.toNat - whole.length) '0'
      let fraction := digits.drop point.toNat
      String.ofList whole ++ "." ++ (if fraction.isEmpty then "0" else String.ofList fraction)
  else
    let fraction := digits.drop 1
    String.ofList (digits.take 1)
      ++ (if fraction.isEmpty then "" else "." ++ String.ofList fraction)
      ++ "e" ++ (if power < 0 then "-" else "+") ++ padded style.exponentDigits power.natAbs

/-- A float as text. -/
def FloatStyle.write (style : FloatStyle) (x : Float) : String :=
  match Dyadic.ofFloat? x with
  | none => if x.isNaN then style.nan else if 0 < x then style.infinity else "-" ++ style.infinity
  | some d =>
    let sign := if d.negative then "-" else ""
    if d.mantissa = 0 then sign ++ "0.0" else sign ++ style.writeDecimal d.shortest

/-- An integer as text. -/
def writeInt (n : Int) : String := toString n

/-! ## Reading -/

/-- The float that is a mantissa times a power of two. The mantissa has 53 bits, or fewer at the least
power; the carry of one that was rounded up to a 54th bit goes into the exponent. -/
def floatOfParts (negative : Bool) (mantissa : Nat) (power : Int) : Float :=
  let sign := if negative then Nat.pow 2 63 else 0
  Float.ofBits (UInt64.ofNat (sign + (power + 1074).toNat * Nat.pow 2 52 + mantissa))

/-- The infinity of a sign. -/
def infinite (negative : Bool) : Float := if negative then -(1.0 / 0.0) else 1.0 / 0.0

/-- The greatest power of two that a positive quotient reaches. -/
def binade (numerator denominator : Nat) : Int :=
  let power : Int := numerator.log2 - denominator.log2
  let (pn, pd) := powerRatio 2 power
  if denominator * pn ≤ numerator * pd then power else power - 1

/-- The quotient of two natural numbers, rounded to the nearest float, a half to the even
neighbour. -/
def floatOfRatio (negative : Bool) (numerator denominator : Nat) : Float :=
  if numerator = 0 || denominator = 0 then floatOfParts negative 0 (-1074)
  else
    let power := max (binade numerator denominator - 52) (-1074)
    if 971 < power then infinite negative
    else
      let (pn, pd) := powerRatio 2 power
      floatOfParts negative (roundHalfEven (numerator * pd) (denominator * pn)) power

/-- A float from decimal digits and a power of ten. Powers that are out of reach at once give
zero or infinity. -/
def floatOfDecimal (negative : Bool) (digits : Nat) (power : Int) : Float :=
  let size : Int := digitCount digits + power
  if digits = 0 || size < -400 then floatOfParts negative 0 (-1074)
  else if 400 < size then infinite negative
  else
    let (pn, pd) := powerRatio 10 power
    floatOfRatio negative (digits * pn) pd

/-- A sign in front, if there is one. -/
def takeSign : List Char → Bool × List Char
  | '-' :: rest => (true, rest)
  | '+' :: rest => (false, rest)
  | cs => (false, cs)

/-- Digits of any script, in which single underscores may stand between two digits. Gives the
value, the count of digits and the rest. -/
def takeDigits (value count : Nat) : List Char → Nat × Nat × List Char
  | [] => (value, count, [])
  | c :: rest =>
    match Text.decimalValue? c with
    | some d => takeDigits (value * 10 + d) (count + 1) rest
    | none =>
      match c, rest with
      | '_', next :: _ =>
        if 0 < count && Text.isDecimal next then takeDigits value count rest
        else (value, count, c :: rest)
      | _, _ => (value, count, c :: rest)

/-- The exponent at the end of a number's text: nothing, or a mark, a sign and digits. -/
def takeExponent : List Char → Option Int
  | [] => some 0
  | c :: rest =>
    if c == 'e' || c == 'E' then
      let (negative, rest) := takeSign rest
      match takeDigits 0 0 rest with
      | (value, count, []) =>
        if count = 0 then none else some (if negative then -(value : Int) else value)
      | _ => none
    else none

/-- A float written as text, in any of the usual forms: white space around it, digits of any
script, a point, an exponent, or the names of infinity and of what is no number. -/
def readFloat? (s : String) : Option Float :=
  let (negative, cs) := takeSign (Text.stripNumber s)
  let name := (String.ofList cs |> Text.lowerLatin)
  if name == "inf" || name == "infinity" then
    some (if negative then -(1.0 / 0.0) else 1.0 / 0.0)
  else if name == "nan" then some (0.0 / 0.0)
  else
    let (whole, wholeCount, rest) := takeDigits 0 0 cs
    let (value, fractionCount, rest) :=
      match rest with
      | '.' :: '_' :: _ => (whole, 0, rest)
      | '.' :: rest =>
        let (value, count, rest) := takeDigits whole 0 rest
        (value, count, rest)
      | _ => (whole, 0, rest)
    if wholeCount + fractionCount = 0 then none
    else (takeExponent rest).map fun power =>
      floatOfDecimal negative value (power - fractionCount)

/-- A natural number of decimal digits. -/
def readNat? (cs : List Char) : Option Nat :=
  if cs.isEmpty then none else Text.natOfDigits? cs

/-- The most digits of an integer that is read. -/
def digitLimit : Nat := 4300

/-- The message about an integer of too many digits. -/
def tooManyDigitsMessage (count : Nat) : String :=
  s!"Exceeds the limit ({digitLimit} digits) for integer string conversion: value has {count} "
    ++ "digits; use sys.set_int_max_str_digits() to increase the limit"

/-! ## Between the two kinds -/

/-- The float nearest to an integer. -/
def floatOfInt (n : Int) : Float := floatOfRatio (n < 0) n.natAbs 1

/-- The quotient of two integers, the second not zero. -/
def divide (a b : Int) : Float := floatOfRatio ((a < 0) != (b < 0)) a.natAbs b.natAbs

/-- The integer that is left of a finite float when its fraction is cut. -/
def truncate? (x : Float) : Option Int :=
  (Dyadic.ofFloat? x).map fun d =>
    let (num, den) := powerRatio 2 d.exponent
    let n : Int := (d.mantissa * num / den : Nat)
    if d.negative then -n else n

/-- A float rounded to a number of decimal places, a half to the even neighbour. -/
def roundPlaces (places : Nat) (x : Float) : Float :=
  match Dyadic.ofFloat? x with
  | none => x
  | some d =>
    let (num, den) := powerRatio 2 d.exponent
    let unit := Nat.pow 10 places
    floatOfRatio d.negative (roundHalfEven (d.mantissa * num * unit) den) unit

/-- How an integer compares with a finite float, exactly. -/
def compareInt (n : Int) (d : Dyadic) : Ordering :=
  let (num, den) := powerRatio 2 d.exponent
  let m : Int := if d.negative then -(d.mantissa : Int) else d.mantissa
  compare (n * den) (m * num)

end Automation.Number
