import Mathlib.Algebra.Field.Rat
import Automation.Proofs.Run.Stored

/-!
# Exact active time

Active time as a fraction of a second. Nothing is lost of it, in arithmetic or in the store.
-/

namespace Automation

open Schema

/-- The fraction that a finite float is. -/
def Number.Dyadic.value (d : Number.Dyadic) : Rat :=
  let (up, down) := Number.powerRatio 2 d.exponent
  ((if d.negative then -(d.mantissa : Int) else d.mantissa) * up : Int) / (down : Rat)

/-- Fractions as pairs of a numerator and a denominator. -/
def Schema.Codec.fraction : Codec Rat where
  read x := ((Codec.list .integer).read x).andThen fun
    | [numerator, denominator] => .ok (numerator / denominator)
    | _ => .fail .number
  write layout q := (Codec.list .integer).write layout [q.num, q.den]

theorem Schema.Codec.Restores.fraction {layout : Layout} (q : Rat) :
    Codec.fraction.Restores layout q := by
  have hparts : (Codec.list .integer).read ((Codec.list .integer).write layout [q.num, (q.den : Int)])
      = .ok [q.num, (q.den : Int)] :=
    (Codec.Restores.list fun n _ => .integer n).read
  refine ⟨?_, nofun⟩
  simp only [Codec.fraction, hparts, Checked.andThen]
  rw [Int.cast_natCast, Rat.num_div_den]

/-- Active time in exact seconds. -/
instance : ActiveTime Rat where
  zero := 0
  ofMicros reading := reading / 1000000
  add := (· + ·)
  sub := (· - ·)
  toMillis x := x * 1000
  ofMillis x := x / 1000
  exceeds x
    | .int n => (n : Rat) < x
    | .float bound =>
      match Number.Dyadic.ofFloat? bound with
      | some d => d.value < x
      | none => bound < 0
  codec := .fraction

instance : ActiveTime.Exact Rat where
  ofMillis_toMillis x := mul_div_cancel_right₀ x (by decide)
  codec_restores _ q := .fraction q

end Automation
