import Automation.Schema.Codec
import Automation.Value.Compare

/-!
# Active time

How long a run has been at work, its pauses not counted. The engine counts in floats of seconds.
What is said about active time is said about exact counts too, so the arithmetic is a parameter.
-/

namespace Automation

open Schema

/-- An arithmetic of active time. -/
class ActiveTime (τ : Type) where
  zero : τ
  /-- The seconds that a reading of the clock in microseconds stands for. -/
  ofMicros : Nat → τ
  add : τ → τ → τ
  sub : τ → τ → τ
  toMillis : τ → τ
  ofMillis : τ → τ
  /-- Whether a time is longer than a bound in seconds. -/
  exceeds : τ → Value.Quantity → Bool
  /-- How a time is stored. -/
  codec : Codec τ

/-- The seconds that a reading of the clock stands for, as a float. -/
def secondsOfMicros (reading : Nat) : Float := Number.divide reading 1000000

instance : ActiveTime Float where
  zero := 0.0
  ofMicros := secondsOfMicros
  add := (· + ·)
  sub := (· - ·)
  toMillis x := x * 1000.0
  ofMillis x := x / 1000.0
  exceeds x bound := (Value.Quantity.float x).compare? bound = some .gt
  codec := .number

/-- The milliseconds between two readings of the clock, computed on floats of seconds and cut. -/
def millisBetween (start finish : Nat) : Int :=
  (Number.truncate? ((secondsOfMicros finish - secondsOfMicros start) * 1000.0)).getD 0

end Automation
