import Automation.Rehearsal.Script

/-!
# Rehearsals

A dialogue can be played on a virtual clock against collaborators that follow a script. Time stands
still but for pauses, and for calls that the script makes slow. Each call is noted with the time at
which it was made.
-/

namespace Automation

/-! ## Playing -/

/-- The microseconds of a pause. -/
def pauseMicros (seconds : Float) : Nat :=
  match Time.spanOfSeconds seconds with
  | .ok span => span.toNat
  | .error _ => 1000000000000000000

/-- What the script answers to a call, after how many microseconds, and the script behind it. A call
that takes longer than its timeout, or just as long, is given up. -/
def Script.reply (s : Script) (c : Call) (timeout : Float) : Option Answer × Nat × Script :=
  let (cue, latency, s) := s.next c.channel
  let limit := pauseMicros timeout
  if limit ≤ latency then (none, limit, s) else (some (cue.answer c), latency, s)

/-- Where a rehearsal stands. -/
structure Rehearsal where
  /-- The reading of the clock. -/
  elapsed : Nat := 0
  script : Script := {}
  /-- The calls so far, the last first, each with its time. -/
  calls : List (Nat × Call) := []
  /-- The number of the first question for aborts that is answered with yes. -/
  abortAt : Option Nat := none
  /-- Whether an abort was requested otherwise. -/
  abortRequested : Bool := false
  /-- Whether abort requests are out of reach. -/
  abortsDown : Bool := false
  /-- The questions for aborts so far. -/
  abortChecks : Nat := 0

namespace Rehearsal

/-- Make a call. -/
def call (r : Rehearsal) (c : Call) (timeout : Float) : Option Answer × Rehearsal :=
  let (answer, span, script) := r.script.reply c timeout
  (answer, { r with script, calls := (r.elapsed, c) :: r.calls, elapsed := r.elapsed + span })

/-- Answer whether the run was aborted. -/
def checkAbort (r : Rehearsal) : Bool × Rehearsal :=
  if r.abortsDown then (false, r)
  else
    (r.abortRequested || r.abortAt.any (· ≤ r.abortChecks),
      { r with abortChecks := r.abortChecks + 1 })

/-- Play a dialogue to its end. -/
def playFrom {α : Type} : Dialogue α → Rehearsal → α × Rehearsal
  | .done a, r => (a, r)
  | .ask .clock next, r => playFrom (next r.elapsed) r
  | .ask (.aborted _) next, r =>
    let (yes, r) := r.checkAbort
    playFrom (next yes) r
  | .ask (.sleep seconds) next, r =>
    playFrom (next (.ok ())) { r with elapsed := r.elapsed + pauseMicros seconds }
  | .ask (.call c timeout) next, r =>
    let (answer, r) := r.call c timeout
    playFrom (next answer) r

/-- A dialogue played on from where a rehearsal stands. -/
def play {α : Type} (r : Rehearsal) (d : Dialogue α) : α × Rehearsal := playFrom d r

end Rehearsal

end Automation
