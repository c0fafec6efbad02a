import Automation.Run.ActiveTime

/-!
# Running means

The mean duration of the runs of a workflow is kept up to date without the durations themselves.
The store computes in floats. What is said about means is said about exact numbers too, so the
arithmetic is a parameter.
-/

namespace Automation

/-- An arithmetic of mean durations, in milliseconds. -/
class RunningMean (τ : Type) where
  /-- The mean of a single duration. -/
  single : Int → τ
  /-- The mean after one more duration, which makes them that many. -/
  push : τ → Int → Int → τ

instance : RunningMean Float where
  single := Number.floatOfInt
  push mean duration count := mean + (Number.floatOfInt duration - mean) / Number.floatOfInt count

end Automation
