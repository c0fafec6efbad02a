import Automation.Run.Dialogue
import Automation.Value.Compare

/-!
# Scripts

What the systems around would do in a rehearsal: for each kind of them the answers to the next
calls, and how long its calls take. A script can be read from a document.
-/

namespace Automation

/-! ## Channels and cues -/

/-- The kinds of collaborators. -/
inductive Channel where
  | sms
  | email
  | slack
  | call
  | crm
  | calendar
  | http
deriving DecidableEq, Repr

namespace Channel

/-- All channels. -/
def all : List Channel := [.sms, .email, .slack, .call, .crm, .calendar, .http]

/-- The name of a channel. -/
def name : Channel → String
  | .sms => "sms"
  | .email => "email"
  | .slack => "slack"
  | .call => "call"
  | .crm => "crm"
  | .calendar => "calendar"
  | .http => "http"

end Channel

/-- The channel of a call. -/
def Call.channel : Call → Channel
  | .sendSms .. => .sms
  | .sendEmail .. => .email
  | .postSlackMessage .. => .slack
  | .placeCall .. => .call
  | .createRecord .. | .updateRecord .. | .addNote .. => .crm
  | .createEvent .. => .calendar
  | .request .. => .http

/-- The id that a collaborator gives without a script. -/
def Call.defaultId : Call → String
  | .sendSms _ recipient _ => "sms:" ++ recipient
  | .sendEmail _ recipient _ _ _ => "email:" ++ recipient
  | .postSlackMessage _ channel _ => "slack:" ++ channel
  | .placeCall _ _ phone => "call:" ++ phone
  | .createRecord _ kind _ key => kind ++ ":" ++ key
  | .updateRecord _ _ id _ _ => id
  | .addNote _ _ _ key => "note:" ++ key
  | .createEvent _ _ title _ _ _ _ _ => "event:" ++ title
  | .request .. => ""

/-- What a script lets a call end with. -/
inductive CueEnd where
  | default
  | fail (kind : FailureKind) (detail : String)
  | crash (message : String)
deriving DecidableEq, Repr

/-- What a script says about one call. -/
structure Cue where
  ending : CueEnd := .default
  /-- How long the call takes, in microseconds; the channel decides if this is not given. -/
  latency : Option Nat := none
  id : Option Value := none
  status : Int := 200
  body : Value := .object [("ok", .bool true)]

/-- How a call with a cue ends. -/
def Cue.answer (cue : Cue) (c : Call) : Answer :=
  match cue.ending with
  | .fail kind detail => .fault (.failure ⟨kind, c.channel.name, detail⟩)
  | .crash message => .fault (.defect (.broken message))
  | .default =>
    match c with
    | .request .. => .reply (.response cue.status cue.body)
    | _ => .reply (.id (cue.id.getD (.text c.defaultId)))

/-- What the collaborators will do: the cues of each channel, and how long its calls take. -/
structure Script where
  cues : List (Channel × List Cue) := []
  latencies : List (Channel × Nat) := []

namespace Script

/-- Take the next cue of a channel out of a list. -/
def takeCue (channel : Channel) : List (Channel × List Cue) → Cue × List (Channel × List Cue)
  | [] => ({}, [])
  | (other, cues) :: rest =>
    if other = channel then
      match cues with
      | [] => ({}, (other, cues) :: rest)
      | cue :: cues => (cue, (other, cues) :: rest)
    else
      let (cue, rest) := takeCue channel rest
      (cue, (other, cues) :: rest)

/-- The next cue for a call, with how long it takes, and the script behind it. -/
def next (s : Script) (channel : Channel) : Cue × Nat × Script :=
  let (cue, cues) := takeCue channel s.cues
  let latency := (s.latencies.find? (·.1 = channel)).map (·.2)
  (cue, (cue.latency.or latency).getD 0, { s with cues })

end Script

/-! ## Reading scripts -/

/-- The microseconds of some milliseconds. -/
def microsOfMillis : Value.Quantity → Nat
  | .int n => (n * 1000).toNat
  | .float x => ((Number.truncate? (x * 1000.0)).getD 0).toNat

/-- The latency that a script gives. -/
def readLatency (v : Value) : Option Nat := v.quantity?.map microsOfMillis

/-- The cue that a document describes. What is no cue is the default one. -/
def Cue.ofValue (v : Value) : Cue :=
  let message := ((v.field? "message").bind Value.text?).getD "scripted failure"
  let ending : CueEnd := match v.field? "error" with
    | none | some .null => .default
    | some (.text "transient") => .fail .transient message
    | some (.text "permanent") => .fail .permanent message
    | some (.text "fatal") => .fail .fatal message
    | some _ => .crash message
  let status := match v.field? "status" with
    | some (.int n) => if n = 0 then 200 else n
    | _ => 200
  { ending, latency := (v.field? "latencyMs").bind readLatency, id := v.field? "id", status,
    body := (v.field? "body").getD (.object [("ok", .bool true)]) }

/-- The entries of a document that are named for channels. -/
def byChannel (v : Option Value) : List (Channel × Value) :=
  ((v.bind Value.fields?).getD []).filterMap fun (name, v) =>
    (Channel.all.find? (·.name = name)).map fun channel => (channel, v)

/-- The script that a document describes. -/
def Script.ofValue (v : Value) : Script where
  cues := (byChannel (v.field? "outcomes")).map fun (channel, v) => (channel, match v with
    | .list items => items.map Cue.ofValue
    | _ => [])
  latencies := (byChannel (v.field? "latencyMs")).filterMap fun (channel, v) =>
    (readLatency v).map fun latency => (channel, latency)

end Automation
