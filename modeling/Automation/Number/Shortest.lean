/-!
# Shortest decimals

The decimal digits that stand for a binary number: the fewest that read back as the same number,
and of those the nearest. A number is taken as `mantissa * 2 ^ exponent`, and everything is decided
by exact natural arithmetic.
-/

namespace Automation.Number

/-- A finite binary number, as sign, mantissa and exponent of two. -/
structure Dyadic where
  negative : Bool
  mantissa : Nat
  exponent : Int
  /-- The number below is only half as far away as the number above. -/
  lowerGapHalved : Bool
deriving DecidableEq, Repr

/-- A positive decimal `digits * 10 ^ exponent`. -/
structure Decimal where
  digits : Nat
  exponent : Int
deriving DecidableEq, Repr

/-- What a float's bits say: a finite number, or none for an infinity or a NaN. -/
def Dyadic.ofFloat? (x : Float) : Option Dyadic :=
  let bits : Nat := x.toBits.toNat
  let negative := bits / Nat.pow 2 63 == 1
  let biased : Nat := bits / Nat.pow 2 52 % 2048
  let fraction : Nat := bits % Nat.pow 2 52
  if biased = 2047 then none
  else if biased = 0 then some ⟨negative, fraction, -1074, false⟩
  else some ⟨negative, Nat.pow 2 52 + fraction, (biased : Int) - 1075, fraction == 0 && 1 < biased⟩

/-- A power with an integer exponent as a fraction, numerator first. -/
def powerRatio (base : Nat) (exponent : Int) : Nat × Nat :=
  if 0 ≤ exponent then (base.pow exponent.toNat, 1) else (1, base.pow (-exponent).toNat)

/-- A quotient rounded to the nearest natural number, a half to the even neighbour. -/
def roundHalfEven (numerator denominator : Nat) : Nat :=
  let quotient := numerator / denominator
  let remainder := numerator % denominator
  if denominator < 2 * remainder || (denominator == 2 * remainder && quotient % 2 == 1) then
    quotient + 1
  else quotient

/-- The count of decimal digits of a natural number, none for zero. -/
def digitCount (n : Nat) : Nat := if n = 0 then 0 else (Nat.toDigits 10 n).length

/-- How far the decimal point of a fraction below one has to move to stand before its first
digit that is not zero. -/
def leadingZeros (numerator denominator : Nat) : Nat → Nat
  | 0 => 0
  | fuel + 1 =>
    if denominator ≤ numerator * 10 then 0
    else 1 + leadingZeros (numerator * 10) denominator fuel

namespace Dyadic

/-- The mantissa in quarters with the ends of the interval of numbers that read back. -/
def quarters (x : Dyadic) : Nat × Nat × Nat :=
  (4 * x.mantissa - (if x.lowerGapHalved then 1 else 2), 4 * x.mantissa, 4 * x.mantissa + 2)

/-- The position of the decimal point relative to the first digit. -/
def pointPosition (x : Dyadic) : Int :=
  let (num, den) := powerRatio 2 x.exponent
  let whole := x.mantissa * num / den
  if 0 < whole then digitCount whole
  else -(leadingZeros (x.mantissa * num) den 400 : Int)

/-- Whether a decimal reads back: the ends of the interval are read as the number if its mantissa is
even. -/
def covers (x : Dyadic) (d : Decimal) : Bool :=
  let (low, _, high) := x.quarters
  let (pn, pd) := powerRatio 2 (x.exponent - 2)
  let (un, ud) := powerRatio 10 d.exponent
  let place := d.digits * un * pd
  if x.mantissa % 2 = 0 then low * pn * ud ≤ place && place ≤ high * pn * ud
  else low * pn * ud < place && place < high * pn * ud

/-- The better of the two neighbours on the grid of `count` digits, if one reads back. -/
def onGrid? (x : Dyadic) (point : Int) (count : Nat) : Option Decimal :=
  let (pn, pd) := powerRatio 2 x.exponent
  let (un, ud) := powerRatio 10 (point - count)
  let exact := x.mantissa * pn * ud
  let unit := un * pd
  let below : Decimal := ⟨exact / unit, point - count⟩
  let above : Decimal := ⟨exact / unit + 1, point - count⟩
  match x.covers below, x.covers above with
  | true, true => some ⟨roundHalfEven exact unit, point - count⟩
  | true, false => some below
  | false, true => some above
  | false, false => none

/-- The shortest decimal of a number that is not zero. -/
def shortest (x : Dyadic) : Decimal :=
  let point := x.pointPosition
  let found := (List.range 17).findSome? fun n => x.onGrid? point (n + 1)
  found.getD ⟨x.mantissa, 0⟩

end Dyadic

end Automation.Number
