import Automation.Definition.Basic
import Automation.Event
import Automation.Value.Compare

/-!
# Matching events

Whether an event starts a workflow: its type is the trigger's, and every condition that the trigger
states holds of it. Schedules are fired by the clock and never by events.
-/

namespace Automation

/-- Membership in a list of allowed texts; no list and the empty one allow everything. -/
def allows (allowed : Option (List String)) (s : Option String) : Bool :=
  match allowed with
  | none | some [] => true
  | some allowed => s.any allowed.contains

/-- Whether a flag is the expected one, if one is expected. -/
def expects (expected actual : Option Bool) : Bool :=
  match expected with
  | none => true
  | some expected => actual = some expected

namespace TriggerConditions

/-- Whether an event is at least as long as a bound. -/
def longEnough (bound length : Option Float) : Bool :=
  match bound with
  | none => true
  -- An event that does not say how long it took is never long enough, even for a bound of zero.
  | some bound => length.any fun length => !(length < bound)

/-- The field of an event that a condition on fields speaks of: the custom one, or else the one of
the payload. -/
def fieldOf (e : Event) (name : String) : Option Value :=
  (e.customFields.get? name).or (e.payload.get? name)

/-- Whether a field of an event has an expected value. -/
def fieldAgrees (e : Event) (expected : String × Value) : Bool :=
  (fieldOf e expected.1).any fun found => found.agrees expected.2

/-- Whether all conditions hold of an event. -/
def hold (c : TriggerConditions) (e : Event) : Bool :=
  allows c.agentTypes e.agentType && allows c.callStatus e.callStatus
    && expects c.leadQualified e.leadQualified && expects c.appointmentBooked e.appointmentBooked
    && expects c.paymentCaptured e.paymentCaptured && allows c.sentiment e.sentiment
    && longEnough c.minimumDuration e.durationSeconds
    && (c.customFields.getD []).all (fieldAgrees e)

end TriggerConditions

/-- Whether a trigger accepts an event. -/
def Trigger.accepts (t : Trigger) (e : Event) : Bool :=
  t.kind != .schedule && e.type == t.kind.name && t.conditions.hold e

/-- Whether an event starts a workflow. -/
def Definition.startsOn (d : Definition) (e : Event) : Bool := d.enabled && d.trigger.accepts e

end Automation
