import Automation.Action.Url
import Automation.Time.Span

/-!
# Failures of actions

A failure has a kind, and the kind says what follows: a transient one is tried again, a permanent
one fails the step, a fatal one ends the run. What no one has classified is a defect.
-/

namespace Automation

/-- The kind of a failure. -/
inductive FailureKind where
  | transient
  | permanent
  | fatal
deriving DecidableEq, Repr

/-- The name of a kind. -/
def FailureKind.name : FailureKind → String
  | .transient => "transient"
  | .permanent => "permanent"
  | .fatal => "fatal"

/-- A classified failure of an action. -/
structure Failure where
  kind : FailureKind
  action : String
  detail : String
deriving DecidableEq, Repr

namespace Failure

/-- The failure in words. -/
def message (f : Failure) : String := s!"Action '{f.action}' failed: {f.detail}"

/-- The same failure of another action. -/
def retag (f : Failure) (action : String) : Failure := { f with action }

end Failure

/-- An error that is no classified failure. -/
inductive Defect where
  | span (fault : Time.SpanFault)
  | url (fault : Url.Fault)
  /-- Two times of which only one has an offset. -/
  | mixedOffsets
  /-- A timeout that no float holds. -/
  | hugeTimeout
  /-- Something broke in a way of its own. -/
  | broken (message : String)
deriving DecidableEq, Repr

/-- The defect in words. -/
def Defect.message : Defect → String
  | .span fault => fault.message
  | .url fault => fault.message
  | .mixedOffsets => "can't compare offset-naive and offset-aware datetimes"
  | .hugeTimeout => "integer division result too large for a float"
  | .broken message => message

/-- How an action goes wrong. -/
inductive Fault where
  | failure (f : Failure)
  | defect (d : Defect)
deriving DecidableEq, Repr

namespace Fault

/-- The fault in words. -/
def message : Fault → String
  | .failure f => f.message
  | .defect d => d.message

/-- Whether the action is tried again. -/
def isTransient : Fault → Bool
  | .failure f => f.kind = .transient
  | .defect _ => false

/-- A permanent failure. -/
def permanent (action detail : String) : Fault := .failure ⟨.permanent, action, detail⟩

/-- A fatal failure. -/
def fatal (action detail : String) : Fault := .failure ⟨.fatal, action, detail⟩

/-- A transient failure. -/
def transient (action detail : String) : Fault := .failure ⟨.transient, action, detail⟩

end Fault

end Automation
