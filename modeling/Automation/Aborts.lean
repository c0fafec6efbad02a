import Automation.Entries
import Automation.Time.Span

/-!
# Abort requests

A run is aborted by a flag that is kept for some time. Anyone may set the flag; the run looks for it
between its steps. When the flags are out of reach no flag can be set, and none is seen: a healthy
run must not fail for that.
-/

namespace Automation

/-- Abort flags. -/
structure AbortFlags where
  /-- What stands before the id of a run in the name of its flag. -/
  keyPrefix : String := "workflow:abort:"
  /-- The seconds that a flag is kept. -/
  lifetime : Int := 604800
  /-- The flags, with the reading of the clock in microseconds at which they are gone. -/
  expiries : Entries Int := []
  reachable : Bool := true
deriving DecidableEq, Repr

namespace AbortFlags

/-- The name of the flag of a run. -/
def key (flags : AbortFlags) (runId : String) : String := flags.keyPrefix ++ runId

/-- Set the flag of a run, and say whether it could be set. -/
def request (flags : AbortFlags) (runId : String) (reading : Nat) : Bool × AbortFlags :=
  if flags.reachable then
    -- The time begins anew with each request, but nothing else prolongs it.
    let expiry : Int := reading + flags.lifetime * Time.second
    (true, { flags with expiries := flags.expiries.set (flags.key runId) expiry })
  else (false, flags)

/-- Whether the flag of a run is seen. -/
def isAborted (flags : AbortFlags) (runId : String) (reading : Nat) : Bool :=
  flags.reachable && (flags.expiries.get? (flags.key runId)).any ((reading : Int) < ·)

/-- Take the flag of a run away, if it is in reach. -/
def clear (flags : AbortFlags) (runId : String) : AbortFlags :=
  if flags.reachable then { flags with expiries := flags.expiries.erase (flags.key runId) }
  else flags

/-- The microseconds for which the flags will still be there. -/
def remaining (flags : AbortFlags) (reading : Nat) : Entries Int :=
  Entries.mapValues (· - (reading : Int)) (flags.expiries.filter ((reading : Int) < ·.2))

end AbortFlags

end Automation
