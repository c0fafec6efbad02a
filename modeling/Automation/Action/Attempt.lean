import Automation.Run.Dialogue

/-!
# Attempts

An action is tried until an attempt does not fail transiently, or until there have been enough
attempts. Between two attempts there is a pause, which doubles up to a bound. An attempt that takes
too long fails transiently.
-/

namespace Automation

/-- How often an action is tried, and how long the pauses are, in seconds. -/
structure RetryPolicy where
  maxAttempts : Int := 3
  multiplier : Float := 0.5
  maxWait : Float := 8.0
deriving DecidableEq

namespace RetryPolicy

/-- The pause after the attempt of a number. -/
def pause (p : RetryPolicy) (attempt : Nat) : Float :=
  -- From here on the power of two is too large for a float.
  if 1024 < attempt then p.maxWait
  else
    let doubled := p.multiplier * Float.ofNat (Nat.pow 2 (attempt - 1))
    let bounded := if p.maxWait < doubled then p.maxWait else doubled
    if 0 < bounded then bounded else 0

/-- The attempts that are made at most: at least one. -/
def attempts (p : RetryPolicy) : Nat := max 1 p.maxAttempts.toNat

end RetryPolicy

namespace Action

/-- The stamp at UTC of a reading of the clock, when the clock started at a moment. -/
def stampAt (origin : Int) (reading : Nat) : Time.Stamp := .ofInstant (origin + reading)

/-- One attempt: the checks, and if they hold the call and what its answer comes to. -/
def attempt (a : Action) (nodeId : String) (c : Context) (places : Places) (origin : Int)
    (timeout : Float) : Dialogue (Except Fault (Entries Value)) := do
  let reading ← Dialogue.clock
  match a.plan nodeId c places (stampAt origin reading) with
  | .error fault => return .error fault
  | .ok plan =>
    match ← Dialogue.request (.call plan.call timeout) with
    | none =>
      return .error (.transient a.kind.name
        s!"timed out after {Number.displayStyle.write timeout}s")
    | some (.fault (.failure f)) => return .error (.failure (plan.retag f))
    | some (.fault fault) => return .error fault
    | some (.reply reply) => return plan.finish reply

/-- Attempts until one decides, from the attempt of a number on, with some more allowed after it.
Gives the number of the last attempt too. -/
def attemptsFrom (policy : RetryPolicy) (one : Dialogue (Except Fault (Entries Value))) :
    Nat → Nat → Dialogue (Except Fault (Entries Value) × Nat)
  -- Nothing follows the last attempt, so its result is given whatever it is.
  | 0, number => do return (← one, number)
  | more + 1, number => do
    let result ← one
    match result with
    | .ok _ => return (result, number)
    | .error fault =>
      if fault.isTransient then
        match ← Dialogue.request (.sleep (policy.pause number)) with
        | .ok () => attemptsFrom policy one more (number + 1)
        | .error message => return (.error (.defect (.broken message)), number)
      else return (result, number)

/-- Do an action: its result and the number of attempts. -/
def perform (a : Action) (nodeId : String) (c : Context) (places : Places) (origin : Int)
    (policy : RetryPolicy) : Dialogue (Except Fault (Entries Value) × Nat) :=
  match a.timeout with
  -- No attempt is made without a bound on its time.
  | .error fault => return (.error fault, 0)
  | .ok timeout =>
    attemptsFrom policy (a.attempt nodeId c places origin timeout) (policy.attempts - 1) 1

end Action

end Automation
