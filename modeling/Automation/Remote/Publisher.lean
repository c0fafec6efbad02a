import Automation.Action.Call
import Automation.Json.Writer

/-!
# Publishing messages

Messages to people are queued at a broker. The publisher keeps one connection with one channel,
opens it when a message is to be sent, and gives it up when anything goes wrong, so that the next
message starts afresh. How each command to the broker ends is not its choice.
-/

namespace Automation.Remote

/-! ## Messages -/

/-- A message to be queued. -/
structure Message where
  /-- The action that sends it. -/
  action : String
  /-- The key by which the broker finds the queue. -/
  routingKey : String
  fields : Entries Value
deriving DecidableEq

/-- The message that a call becomes, if it is one to people. -/
def message? : Call → Option Message
  | .sendSms tenant recipient body => some ⟨"send_sms", "sms.send",
      [("tenant_id", tenant), ("to_phone", .text recipient), ("message", .text body)]⟩
  | .sendEmail tenant recipient subject html attachments => some ⟨"send_email", "email.send",
      [("tenant_id", tenant), ("to_email", .text recipient), ("subject", .text subject),
       ("html_content", .text html), ("attachments", .texts attachments)]⟩
  | .postSlackMessage tenant channel text => some ⟨"send_slack", "slack.send",
      [("tenant_id", tenant), ("channel", .text channel), ("text", .text text)]⟩
  | .placeCall tenant agent phone => some ⟨"make_call", "call.place",
      [("tenant_id", tenant), ("agent_id", .text agent), ("phone_number", .text phone)]⟩
  | _ => none

/-- The text that is queued for a message with an id at some time. -/
def Message.document (m : Message) (id : String) (queuedAt : Time.Stamp) : String :=
  Json.write <| .object <|
    [("message_id", .text id)] ++ m.fields ++ [("queued_at", .text queuedAt.iso)]

/-! ## The broker -/

/-- How the broker reacts to a command. -/
inductive Reaction where
  | done
  /-- The broker is out of reach. -/
  | unreachable
  /-- The command fails in some other way. -/
  | refused
deriving DecidableEq, Repr

/-- How the broker reacts to the commands of one operation, should they be given. -/
structure Broker where
  connect : Reaction := .done
  openChannel : Reaction := .done
  declareExchange : Reaction := .done
  publish : Reaction := .done
  close : Reaction := .done
  /-- Whether the connection is closed by the time that a command on it has failed. -/
  hangsUp : Bool := false
deriving DecidableEq, Repr

/-- A command to the broker. -/
inductive Command where
  | connect
  | openChannel
  | declareExchange
  | publish (id routingKey document : String)
  | close
deriving DecidableEq

/-! ## The publisher -/

/-- A publisher. Connections and their channels are counted as they are opened. -/
structure Publisher where
  connection : Option Nat := none
  channel : Option Nat := none
  /-- The connections that have been opened so far. -/
  opened : Nat := 0
  /-- Whether the current connection was found closed. -/
  dropped : Bool := false
  /-- Whether messages are still taken. -/
  accepting : Bool := true
deriving DecidableEq, Repr

/-- The commands of an operation so far with the reactions to them, and the publisher after them. -/
structure Progress where
  publisher : Publisher
  commands : List (Command × Reaction) := []
deriving DecidableEq

namespace Publisher

/-- Whether there is a connection that is not closed. -/
def isConnected (p : Publisher) : Bool := p.connection.isSome && !p.dropped

/-- The publisher without its connection. -/
def forget (p : Publisher) : Publisher :=
  { p with connection := none, channel := none, dropped := false }

/-- Close the connection, if there is one that is open, and forget it whether that works or not. -/
def disconnect (p : Publisher) (broker : Broker) : Progress :=
  { publisher := p.forget
    commands := if p.isConnected then [(.close, broker.close)] else [] }

/-- How an attempt to connect ended. -/
inductive Connecting where
  | connected
  | unreachable
  | refused
deriving DecidableEq, Repr

/-- Make sure that there is a connection with a channel and that the exchange is there. When the
broker is out of reach nothing is kept; another failure leaves what there is. -/
def connect (p : Publisher) (broker : Broker) : Connecting × Progress :=
  if p.isConnected then (.connected, ⟨p, []⟩)
  else
    let p := p.forget
    match broker.connect with
    | .unreachable => (.unreachable, ⟨p, [(.connect, .unreachable)]⟩)
    | .refused => (.refused, ⟨p, [(.connect, .refused)]⟩)
    | .done =>
      let number := p.opened + 1
      let p := { p with connection := some number, opened := number }
      let commands : List (Command × Reaction) := [(.connect, .done)]
      match broker.openChannel with
      | .unreachable => (.unreachable, ⟨p.forget, commands ++ [(.openChannel, .unreachable)]⟩)
      | .refused => (.refused, ⟨p, commands ++ [(.openChannel, .refused)]⟩)
      | .done =>
        let p := { p with channel := some number }
        let commands := commands ++ [(.openChannel, .done)]
        match broker.declareExchange with
        | .unreachable =>
          (.unreachable, ⟨p.forget, commands ++ [(.declareExchange, .unreachable)]⟩)
        | .refused => (.refused, ⟨p, commands ++ [(.declareExchange, .refused)]⟩)
        | .done => (.connected, ⟨p, commands ++ [(.declareExchange, .done)]⟩)

/-- Give the connection up after some commands, the last of which has failed. -/
def giveUp (progress : Progress) (broker : Broker) : Progress :=
  let p := progress.publisher
  let after := { p with dropped := p.dropped || broker.hangsUp }.disconnect broker
  { after with commands := progress.commands ++ after.commands }

/-- Queue a message, and say whether that worked. -/
def publish (p : Publisher) (broker : Broker) (m : Message) (id : String) (now : Time.Stamp) :
    Bool × Progress :=
  match p.connect broker with
  | (.unreachable, progress) => (false, progress)
  | (.refused, progress) => (false, giveUp progress broker)
  | (.connected, progress) =>
    let command : Command := .publish id m.routingKey (m.document id now)
    let progress := { progress with commands := progress.commands ++ [(command, broker.publish)] }
    match broker.publish with
    | .done => (true, progress)
    | _ => (false, giveUp progress broker)

/-- Send a message under an id. -/
def send (p : Publisher) (broker : Broker) (m : Message) (id : String) (now : Time.Stamp) :
    Except Fault String × Progress :=
  if p.accepting then
    match p.publish broker m id now with
    | (true, progress) => (.ok id, progress)
    | (false, progress) =>
      (.error (.transient m.action s!"Failed to queue message on '{m.routingKey}'"), progress)
  else (.error (.defect (.broken "cannot schedule new futures after shutdown")), ⟨p, []⟩)

/-- Close the connection for good. -/
def close (p : Publisher) (broker : Broker) : Progress :=
  let progress := p.disconnect broker
  { progress with publisher := { progress.publisher with accepting := false } }

end Publisher

end Automation.Remote
