import Automation.Action.Check
import Automation.Definition.Basic

/-!
# Calls

What the actions ask of the systems around: messages, records, appointments and plain requests. The
plan of an action is one call and what to make of its answer; it is made only if every check of the
action holds.
-/

namespace Automation

/-! ## Calls and answers -/

/-- A call to a system outside. -/
inductive Call where
  | sendSms (tenant : Value) (recipient body : String)
  | sendEmail (tenant : Value) (recipient subject html : String) (attachments : List String)
  | postSlackMessage (tenant : Value) (channel text : String)
  | placeCall (tenant : Value) (agent phone : String)
  | createRecord (tenant : Value) (kind : String) (fields : Entries Value) (key : String)
  | updateRecord (tenant : Value) (kind id : String) (fields : Entries Value) (key : String)
  | addNote (tenant : Value) (target text key : String)
  | createEvent (tenant : Value) (calendar title : String) (description : Option String)
      (start finish : String) (attendees : List String) (invites : Bool)
  | request (method url : String) (headers : Entries String) (body : Value) (timeoutMs : Int)
deriving DecidableEq

/-- What a call brings back. -/
inductive Reply where
  /-- The id of what was sent or written. -/
  | id (v : Value)
  | response (status : Int) (body : Value)
deriving DecidableEq

/-- The id in a reply. -/
def Reply.idValue : Reply → Value
  | .id v => v
  | .response _ body => body

/-- How a call ends. -/
inductive Answer where
  | reply (r : Reply)
  | fault (f : Fault)
deriving DecidableEq

/-! ## Plans -/

/-- A call and what to make of its reply. -/
structure Plan where
  call : Call
  finish : Reply → Except Fault (Entries Value)
  /-- What a failure of the call becomes. -/
  retag : Failure → Failure := id

/-- Where things are, as far as actions must know. -/
structure Places where
  /-- The service that holds the tenants' sheets. -/
  integrations : String
deriving DecidableEq, Repr

/-- Where the service for sheets is if nothing else is said. -/
def localIntegrations : String := "http://localhost:8012"

/-- Where the service for sheets is. An empty address says nothing. -/
def Places.integrationsBase (places : Places) : String :=
  if places.integrations.isEmpty then localIntegrations else places.integrations

/-- The plan of a call whose reply is an id. -/
def planId (call : Call) (output : Value → Entries Value) : Plan where
  call
  finish reply := .ok (output reply.idValue)

/-- The seconds of a request's timeout. -/
def httpSeconds (timeoutMs : Option Int) : Except Fault Float :=
  match timeoutMs with
  | some ms =>
    if ms = 0 then .ok 10.0
    else
      let x := Number.divide ms 1000
      if x.isInf then .error (.defect .hugeTimeout) else .ok x
  | none => .ok 10.0

/-- The milliseconds that are left of some seconds when the fraction is cut. -/
def cutMillis (seconds : Float) : Except Fault Int :=
  match Number.truncate? (seconds * 1000.0) with
  | some ms => .ok ms
  | none => .error (.defect (.span .infinite))

/-- The methods that requests can have. -/
def httpMethods : List String := ["GET", "POST", "PUT", "PATCH", "DELETE"]

/-- A header that is set unless it is there. -/
def setDefault (name value : String) (headers : Entries String) : Entries String :=
  if headers.has name then headers else headers ++ [(name, value)]

/-- The plan of a request. -/
def HttpAction.plan (kind : String) (body : Value) (a : HttpAction) (c : Context) :
    Except Fault Plan := do
  let url ← Check.url kind a.url
  let method := Text.upper a.method
  if !httpMethods.contains method then
    .error (.fatal kind s!"Unsupported HTTP method: {method}")
  let headers := setDefault "User-Agent" ("WorkflowAutomation/" ++ c.runId.display)
    (setDefault "Content-Type" "application/json" a.headers)
  let timeoutMs ← cutMillis (← httpSeconds a.timeoutMs)
  return {
    call := .request method url headers body timeoutMs
    retag := (·.retag kind)
    finish := fun reply => match reply with
      | .response status response => do
        Check.status kind status
        return [("status_code", .int status), ("response_data", response), ("url", .text url),
          ("method", .text method)]
      | .id v => .ok [("status_code", .int 200), ("response_data", v), ("url", .text url),
          ("method", .text method)] }

/-- The body of a webhook: the configured one in an envelope. -/
def webhookBody (body : Option (Entries Value)) (c : Context) (now : Time.Stamp) : Value := .object
  [("tenant_id", c.tenantId), ("workflow_id", c.workflowId), ("run_id", c.runId),
   ("timestamp", .text now.iso), ("data", .object (body.getD []))]

/-- The plan of a new row in a sheet. -/
def SheetRow.plan (kind : String) (a : SheetRow) (c : Context) (places : Places) :
    Except Fault Plan := do
  let sheet ← Check.requireText kind "spreadsheetId" a.spreadsheetId
  let base := String.ofList (Text.stripBack (· == '/') places.integrationsBase.toList)
  let tenant := c.tenantId.display
  let url := base ++ "/api/v1/tenants/" ++ tenant ++ "/google-sheets/" ++ sheet ++ "/rows"
  let body : Value := .object [("sheet_name", .text a.sheetName), ("values", .object a.values)]
  let output (response : Value) : Entries Value :=
    [("spreadsheet_id", .text sheet), ("sheet_name", .text a.sheetName),
     ("updated_range", (response.field? "updated_range").getD .null)]
  return {
    call := .request "POST" url [("Content-Type", "application/json")] body 10000
    retag := (·.retag kind)
    finish := fun reply => match reply with
      | .response status response => do
        Check.status kind status
        return output response
      | .id v => .ok (output v) }

/-- The plan of an appointment. -/
def CalendarEvent.plan (kind : String) (invites : Bool) (a : CalendarEvent) (c : Context) :
    Except Fault Plan := do
  let title ← Check.requireText kind "eventTitle" a.title
  let start ← Check.time kind "eventStart" a.start
  let finish ← Check.time kind "eventEnd" a.finish
  match finish.later? start with
  | none => .error (.defect .mixedOffsets)
  | some false => .error (.permanent kind "eventEnd must be after eventStart")
  | some true =>
    let attendees := (a.attendees.filter (!Text.isBlank ·)).map Text.strip
    let wrong := attendees.filter (!Check.isMailAddress ·)
    if !wrong.isEmpty then
      .error (.permanent kind ("Invalid attendee address(es): " ++ Text.join ", " wrong))
    if invites && attendees.isEmpty then .error (.permanent kind "No attendees to invite")
    return planId
      (.createEvent c.tenantId a.calendar title a.description start.iso finish.iso attendees
        invites)
      fun id => [("event_id", id), ("attendees", .texts attendees)]

/-- The fields of a new task. -/
def CreateTask.fields (a : CreateTask) (title : String) (due : Option String) : Entries Value :=
  let optional (name : String) (s : Option String) : Entries Value :=
    (s.map fun s => (name, Value.text s)).toList
  [("title", .text title)] ++ optional "description" a.description
    ++ [("type", .text a.kind), ("priority", .text a.priority)] ++ optional "due_date" due

/-- The plan of an action at a node: its checks in their order, and then its call. -/
def Action.plan (a : Action) (nodeId : String) (c : Context) (places : Places) (now : Time.Stamp) :
    Except Fault Plan :=
  let kind := a.kind.name
  let key : Except Fault String :=
    (c.writeKey nodeId).mapError fun misfit => .defect (.broken misfit.message)
  let record (id : Value) : Entries Value := [("record_id", id)]
  match a with
  | .sendSms a => do
    let recipient ← Check.phone kind a.recipient
    let body ← Check.requireText kind "message" a.message
    return planId (.sendSms c.tenantId recipient body) fun id =>
      [("message_id", id), ("recipient", .text recipient)]
  | .sendEmail a => do
    let recipient := Text.strip (← Check.requireText kind "recipient" a.recipient)
    if !Check.isMailAddress recipient then
      .error (.permanent kind s!"Invalid email address '{recipient}'")
    return planId (.sendEmail c.tenantId recipient a.subject a.body a.attachments) fun id =>
      [("message_id", id), ("recipient", .text recipient)]
  | .makeCall a => do
    let agent ← Check.requireText kind "agentId" a.agentId
    let phone ← Check.phone kind a.phoneNumber
    return planId (.placeCall c.tenantId agent phone) fun id =>
      [("message_id", id), ("call_id", id), ("recipient", .text phone)]
  | .sendSlack a => do
    let channel := Text.strip (← Check.requireText kind "channel" a.channel)
    return planId (.postSlackMessage c.tenantId channel a.text) fun id =>
      [("message_id", id), ("channel", .text channel)]
  | .createLead a => do
    if a.leadData.isEmpty then .error (.permanent kind "leadData is empty")
    return planId (.createRecord c.tenantId "lead" a.leadData (← key)) record
  | .updateLead a => do
    let id ← Check.requireText kind "leadId" a.leadId
    return planId (.updateRecord c.tenantId "lead" id a.leadData (← key)) record
  | .createTask a => do
    let title ← Check.requireText kind "taskTitle" a.title
    let due ← match a.dueDate with
      | some due => Check.dueDate due now
      | none => .ok none
    return planId (.createRecord c.tenantId "task" (a.fields title due) (← key)) fun id =>
      [("record_id", id), ("title", .text title)]
  | .updateDeal a => do
    let id ← Check.requireText kind "dealId" a.dealId
    return planId (.updateRecord c.tenantId "deal" id a.dealData (← key)) record
  | .addNote a => do
    let target ← Check.requireText kind "targetId" a.targetId
    return planId (.addNote c.tenantId target a.text (← key)) record
  | .createCalendarEvent a => a.plan kind false c
  | .sendCalendarInvite a => a.plan kind true c
  | .addSheetRow a => a.plan kind c places
  | .webhook a => a.plan kind (webhookBody a.body c now) c
  | .apiCall a => a.plan kind (Value.ofOption .object a.body) c

/-- The seconds that an attempt at an action may take. -/
def Action.timeout : Action → Except Fault Float
  | .addSheetRow _ => .ok 10.0
  | .webhook a | .apiCall a => httpSeconds a.timeoutMs
  | _ => .ok 30.0

end Automation
