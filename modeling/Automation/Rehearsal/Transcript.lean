import Automation.Rehearsal

/-!
# Transcripts

The calls of a rehearsal written down: what was called with what, and when.
-/

namespace Automation

/-- The name of a call. -/
def Call.name : Call → String
  | .sendSms .. => "send_sms"
  | .sendEmail .. => "send_email"
  | .postSlackMessage .. => "post_slack_message"
  | .placeCall .. => "place_call"
  | .createRecord .. => "create_record"
  | .updateRecord .. => "update_record"
  | .addNote .. => "add_note"
  | .createEvent .. => "create_event"
  | .request .. => "request"

/-- What is handed over with a call. -/
def Call.arguments : Call → Entries Value
  | .sendSms tenant recipient body =>
    [("tenant", tenant), ("to", .text recipient), ("body", .text body)]
  | .sendEmail tenant recipient subject html attachments =>
    [("tenant", tenant), ("to", .text recipient), ("subject", .text subject), ("html", .text html),
      ("attachments", .texts attachments)]
  | .postSlackMessage tenant channel text =>
    [("tenant", tenant), ("channel", .text channel), ("text", .text text)]
  | .placeCall tenant agent phone =>
    [("tenant", tenant), ("agent", .text agent), ("phone", .text phone)]
  | .createRecord tenant kind fields key =>
    [("tenant", tenant), ("kind", .text kind), ("fields", .object fields), ("key", .text key)]
  | .updateRecord tenant kind id fields key =>
    [("tenant", tenant), ("kind", .text kind), ("id", .text id), ("fields", .object fields),
      ("key", .text key)]
  | .addNote tenant target text key =>
    [("tenant", tenant), ("target", .text target), ("text", .text text), ("key", .text key)]
  | .createEvent tenant calendar title description start finish attendees invites =>
    [("tenant", tenant), ("calendar", .text calendar), ("title", .text title),
      ("description", .optText description), ("start", .text start), ("end", .text finish),
      ("attendees", .texts attendees), ("invites", .bool invites)]
  | .request method url headers body timeoutMs =>
    [("method", .text method), ("url", .text url), ("headers", .object (headers.mapValues .text)),
      ("body", body), ("timeoutMs", .int timeoutMs)]

/-- A reading of the clock in milliseconds. -/
def millis (reading : Nat) : Value := .float (Number.divide reading 1000)

/-- A call at a reading of the clock, written down. -/
def transcriptEntry (reading : Nat) (c : Call) : Value :=
  .object ([("atMs", millis reading), ("call", .text c.name)] ++ c.arguments)

/-- The calls of a rehearsal in their order. -/
def Rehearsal.transcript (r : Rehearsal) : Value :=
  .list (r.calls.reverse.map fun (reading, c) => transcriptEntry reading c)

end Automation
