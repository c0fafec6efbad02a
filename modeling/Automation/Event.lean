import Automation.Schema.Codec

/-!
# Trigger events

What the call and lead systems report. An event has a type, a few attributes that every system
knows, and two maps of further fields.
-/

namespace Automation

open Schema

/-- Something that happened and that workflows may react to. -/
structure Event where
  type : String
  agentType : Option String := none
  callStatus : Option String := none
  leadQualified : Option Bool := none
  appointmentBooked : Option Bool := none
  paymentCaptured : Option Bool := none
  sentiment : Option String := none
  durationSeconds : Option Float := none
  customFields : Entries Value := []
  payload : Entries Value := []
  occurredAt : Option Time.Stamp := none
deriving DecidableEq, Inhabited

namespace Event

/-- Events as records. -/
def codec : Codec Event := .record "TriggerEvent" <|
  Event.mk
    <$> .required (.plain "type") (·.type) .text
    <*> .optional ⟨"agent_type", "agentType"⟩ (·.agentType) .text
    <*> .optional ⟨"call_status", "callStatus"⟩ (·.callStatus) .text
    <*> .optional ⟨"lead_qualified", "leadQualified"⟩ (·.leadQualified) .flag
    <*> .optional ⟨"appointment_booked", "appointmentBooked"⟩ (·.appointmentBooked) .flag
    <*> .optional ⟨"payment_captured", "paymentCaptured"⟩ (·.paymentCaptured) .flag
    <*> .optional (.plain "sentiment") (·.sentiment) .text
    <*> .optional ⟨"duration_seconds", "durationSeconds"⟩ (·.durationSeconds) .number
    <*> .default ⟨"custom_fields", "customFields"⟩ (·.customFields) (.dictionary .any) []
    <*> .default (.plain "payload") (·.payload) (.dictionary .any) []
    <*> .optional ⟨"occurred_at", "occurredAt"⟩ (·.occurredAt) .time

/-- The event of a run that a person starts. -/
def manual : Event := { type := "manual" }

/-- The attributes that are known, under the names that templates use. -/
def attributes (e : Event) : Entries Value :=
  let flag (name : String) (b : Option Bool) : Entries Value := match b with
    | some b => [(name, .bool b)]
    | none => []
  let text (name : String) (s : Option String) : Entries Value := match s with
    | some s => [(name, .text s)]
    | none => []
  let number (name : String) (x : Option Float) : Entries Value := match x with
    | some x => [(name, .float x)]
    | none => []
  [("event_type", .text e.type)] ++ text "agent_type" e.agentType ++ text "call_status" e.callStatus
    ++ flag "lead_qualified" e.leadQualified ++ flag "appointment_booked" e.appointmentBooked
    ++ flag "payment_captured" e.paymentCaptured ++ text "sentiment" e.sentiment
    ++ number "duration_seconds" e.durationSeconds

/-- All fields of an event in one map, as templates see them: custom fields replace attributes and
the payload replaces both. -/
def fields (e : Event) : Entries Value := (e.attributes.merge e.customFields).merge e.payload

end Event

end Automation
