import Automation.Remote.Publisher
import Automation.Settings

/-!
# Conversations written down

Calls can be read from their names and their arguments, and commands to the broker are written down
with all that it is told.
-/

namespace Automation.Remote

/-- An argument that is a text; empty if there is none. -/
def textArgument (arguments : Value) (name : String) : String :=
  ((arguments.field? name).bind Value.text?).getD ""

/-- An argument that is a list of texts; empty if there is none. -/
def textsArgument (arguments : Value) (name : String) : List String :=
  match arguments.field? name with
  | some (.list items) => items.filterMap Value.text?
  | _ => []

/-- An argument that is a record; empty if there is none. -/
def recordArgument (arguments : Value) (name : String) : Entries Value :=
  ((arguments.field? name).bind Value.fields?).getD []

/-- The call of a name with its arguments, if there is one of that name. -/
def callNamed? (name : String) (arguments : Value) : Option Call :=
  let tenant := (arguments.field? "tenant_id").getD .null
  let text := textArgument arguments
  let texts := textsArgument arguments
  let fields := recordArgument arguments "fields"
  let key := text "idempotency_key"
  match name with
  | "send_sms" => some (.sendSms tenant (text "to") (text "body"))
  | "send_email" => some <|
    .sendEmail tenant (text "to") (text "subject") (text "html") (texts "attachments")
  | "post_slack_message" => some (.postSlackMessage tenant (text "channel") (text "text"))
  | "place_call" => some (.placeCall tenant (text "agent_id") (text "phone_number"))
  | "create_record" => some (.createRecord tenant (text "kind") fields key)
  | "update_record" => some (.updateRecord tenant (text "kind") (text "record_id") fields key)
  | "add_note" => some (.addNote tenant (text "target_id") (text "text") key)
  | "create_event" => some <|
    .createEvent tenant (text "calendar") (text "title")
      ((arguments.field? "description").bind Value.text?) (text "start") (text "end")
      (texts "attendees") (arguments.field? "send_invites" = some (.bool true))
  | _ => none

/-- What a broker is told with a command. -/
def Command.toValue (settings : Settings) : Command → Option Value
  | .connect => some <| .object [("connect", .object
      [("host", .text settings.brokerHost), ("port", .int settings.brokerPort),
       ("user", .text settings.brokerUser), ("heartbeat", .int 600)])]
  | .openChannel => none
  | .declareExchange => some <| .object
      [("exchange", .list [.text settings.exchange, .text "topic", .bool true])]
  | .publish id key document => some <| .object [("publish", .object
      [("exchange", .text settings.exchange), ("key", .text key), ("body", .text document),
       ("deliveryMode", .int 2), ("contentType", .text "application/json"),
       ("messageId", .text id)])]
  | .close => some (.object [("close", .bool true)])

/-- Whether a command is noted by the broker: it must have been carried out, and only the wish to
connect is noted before. -/
def isNoted : Command × Reaction → Bool
  | (.connect, _) => true
  | (_, reaction) => reaction = .done

/-- What the broker notes of the commands of an operation. -/
def Progress.transcript (progress : Progress) (settings : Settings) : Value :=
  .list ((progress.commands.filter isNoted).filterMap fun (command, _) => command.toValue settings)

end Automation.Remote
