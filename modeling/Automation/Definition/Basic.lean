import Automation.Value.Basic

/-!
# Workflow definitions

A workflow is a trigger and a graph of nodes. Each node does one piece of work: an action on the
outside world, or one of the three works that only steer the walk, which are to wait, to branch and
to repeat. Nodes refer to one another by id.
-/

namespace Automation

/-! ## Triggers -/

/-- What starts a workflow. -/
inductive TriggerKind where
  | callCompleted
  | callInitiated
  | leadCreated
  | leadQualified
  | appointmentBooked
  | paymentReceived
  | manual
  | schedule
deriving DecidableEq, Repr

namespace TriggerKind

/-- All kinds of triggers. -/
def all : List TriggerKind :=
  [.callCompleted, .callInitiated, .leadCreated, .leadQualified, .appointmentBooked,
   .paymentReceived, .manual, .schedule]

/-- The name of a kind, which is also the type of the events that it accepts. -/
def name : TriggerKind → String
  | .callCompleted => "call_completed"
  | .callInitiated => "call_initiated"
  | .leadCreated => "lead_created"
  | .leadQualified => "lead_qualified"
  | .appointmentBooked => "appointment_booked"
  | .paymentReceived => "payment_received"
  | .manual => "manual"
  | .schedule => "schedule"

/-- The kind of a name. -/
def ofName? (s : String) : Option TriggerKind := all.find? (·.name = s)

end TriggerKind

/-- What an event must meet beyond its type. A condition that is not given holds of every event. -/
structure TriggerConditions where
  agentTypes : Option (List String) := none
  callStatus : Option (List String) := none
  leadQualified : Option Bool := none
  appointmentBooked : Option Bool := none
  paymentCaptured : Option Bool := none
  sentiment : Option (List String) := none
  minimumDuration : Option Float := none
  customFields : Option (Entries Value) := none
deriving DecidableEq

/-- When a schedule fires. -/
structure TriggerSchedule where
  expression : String
  timezone : String := "UTC"
deriving DecidableEq, Repr

/-- The trigger of a workflow. -/
structure Trigger where
  kind : TriggerKind
  conditions : TriggerConditions := {}
  schedule : Option TriggerSchedule := none
deriving DecidableEq

/-! ## Actions -/

/-- A text message. -/
structure SendSms where
  recipient : String
  message : String
deriving DecidableEq, Repr

/-- A mail. -/
structure SendEmail where
  recipient : String
  subject : String
  body : String
  attachments : List String
deriving DecidableEq, Repr

/-- A call by a voice agent. -/
structure MakeCall where
  agentId : String
  phoneNumber : String
deriving DecidableEq, Repr

/-- A message to a channel. -/
structure SendSlack where
  channel : String
  text : String
deriving DecidableEq, Repr

/-- A new lead. -/
structure CreateLead where
  leadData : Entries Value
deriving DecidableEq

/-- A change to a lead. -/
structure UpdateLead where
  leadId : String
  leadData : Entries Value
deriving DecidableEq

/-- A new task. -/
structure CreateTask where
  title : String
  description : Option String
  kind : String
  priority : String
  /-- A date, or a distance such as `+2 days`. -/
  dueDate : Option String
deriving DecidableEq, Repr

/-- A change to a deal. -/
structure UpdateDeal where
  dealId : String
  dealData : Entries Value
deriving DecidableEq

/-- A note on a record. -/
structure AddNote where
  targetId : String
  text : String
deriving DecidableEq, Repr

/-- An appointment. -/
structure CalendarEvent where
  calendar : String
  title : String
  description : Option String
  start : String
  finish : String
  attendees : List String
deriving DecidableEq, Repr

/-- A row of a sheet. -/
structure SheetRow where
  spreadsheetId : String
  sheetName : String
  values : Entries Value
deriving DecidableEq

/-- An HTTP request. -/
structure HttpAction where
  url : String
  method : String
  headers : Entries String
  body : Option (Entries Value)
  timeoutMs : Option Int
deriving DecidableEq

/-- A piece of work on the outside world. -/
inductive Action where
  | sendSms (config : SendSms)
  | sendEmail (config : SendEmail)
  | makeCall (config : MakeCall)
  | sendSlack (config : SendSlack)
  | createLead (config : CreateLead)
  | updateLead (config : UpdateLead)
  | createTask (config : CreateTask)
  | updateDeal (config : UpdateDeal)
  | addNote (config : AddNote)
  | createCalendarEvent (config : CalendarEvent)
  | sendCalendarInvite (config : CalendarEvent)
  | addSheetRow (config : SheetRow)
  | webhook (config : HttpAction)
  | apiCall (config : HttpAction)
deriving DecidableEq

/-- The kinds of actions. -/
inductive ActionKind where
  | sendSms
  | sendEmail
  | makeCall
  | sendSlack
  | createLead
  | updateLead
  | createTask
  | updateDeal
  | addNote
  | createCalendarEvent
  | sendCalendarInvite
  | addSheetRow
  | webhook
  | apiCall
deriving DecidableEq, Repr

namespace ActionKind

/-- All kinds of actions. -/
def all : List ActionKind :=
  [.sendSms, .sendEmail, .makeCall, .sendSlack, .createLead, .updateLead, .createTask,
   .updateDeal, .addNote, .createCalendarEvent, .sendCalendarInvite, .addSheetRow, .webhook,
   .apiCall]

/-- The name of a kind. -/
def name : ActionKind → String
  | .sendSms => "send_sms"
  | .sendEmail => "send_email"
  | .makeCall => "make_call"
  | .sendSlack => "send_slack"
  | .createLead => "create_lead"
  | .updateLead => "update_lead"
  | .createTask => "create_task"
  | .updateDeal => "update_deal"
  | .addNote => "add_note"
  | .createCalendarEvent => "create_calendar_event"
  | .sendCalendarInvite => "send_calendar_invite"
  | .addSheetRow => "google_sheets_add_row"
  | .webhook => "webhook"
  | .apiCall => "api_call"

/-- The kind of a name. -/
def ofName? (s : String) : Option ActionKind := all.find? (·.name = s)

end ActionKind

/-- The kind of an action. -/
def Action.kind : Action → ActionKind
  | .sendSms _ => .sendSms
  | .sendEmail _ => .sendEmail
  | .makeCall _ => .makeCall
  | .sendSlack _ => .sendSlack
  | .createLead _ => .createLead
  | .updateLead _ => .updateLead
  | .createTask _ => .createTask
  | .updateDeal _ => .updateDeal
  | .addNote _ => .addNote
  | .createCalendarEvent _ => .createCalendarEvent
  | .sendCalendarInvite _ => .sendCalendarInvite
  | .addSheetRow _ => .addSheetRow
  | .webhook _ => .webhook
  | .apiCall _ => .apiCall

/-! ## Steering the walk -/

/-- The unit of a delay. -/
inductive DelayUnit where
  | minutes
  | hours
  | days
deriving DecidableEq, Repr

namespace DelayUnit

/-- All units. -/
def all : List DelayUnit := [.minutes, .hours, .days]

/-- The name of a unit. -/
def name : DelayUnit → String
  | .minutes => "minutes"
  | .hours => "hours"
  | .days => "days"

/-- The unit of a name. -/
def ofName? (s : String) : Option DelayUnit := all.find? (·.name = s)

/-- The seconds of a unit. -/
def seconds : DelayUnit → Float
  | .minutes => 60.0
  | .hours => 3600.0
  | .days => 86400.0

end DelayUnit

/-- A pause. -/
structure Delay where
  duration : Float
  unit : DelayUnit
deriving DecidableEq

/-- The length of a pause in seconds. -/
def Delay.seconds (d : Delay) : Float := d.duration * d.unit.seconds

/-- A branch on a condition. -/
structure Branch where
  condition : String
  trueActions : List String
  falseActions : List String
deriving DecidableEq, Repr

/-- A repetition for every element of a list. -/
structure Loop where
  items : String
  actionId : String
deriving DecidableEq, Repr

/-! ## Nodes -/

/-- What a node does. -/
inductive Work where
  | action (a : Action)
  | delay (d : Delay)
  | condition (b : Branch)
  | loop (l : Loop)
deriving DecidableEq

/-- The name of the kind of a work. -/
def Work.kindName : Work → String
  | .action a => a.kind.name
  | .delay _ => "delay"
  | .condition _ => "condition"
  | .loop _ => "loop"

/-- The names of all kinds of work. -/
def Work.kindNames : List String :=
  ActionKind.all.map ActionKind.name ++ ["delay", "condition", "loop"]

/-- Where an editor shows a node. -/
structure Position where
  x : Float
  y : Float
deriving DecidableEq

/-- A node of the graph. -/
structure Node where
  id : String
  name : Option String := none
  nextAction : Option String := none
  position : Option Position := none
  entry : Bool := false
  abortOnFailure : Bool := false
  work : Work
deriving DecidableEq

/-! ## Definitions -/

/-- What a workflow is for. -/
inductive Category where
  | leadNurture
  | followUp
  | customerService
  | sales
  | marketing
  | operations
  | custom
deriving DecidableEq, Repr

namespace Category

/-- All categories. -/
def all : List Category :=
  [.leadNurture, .followUp, .customerService, .sales, .marketing, .operations, .custom]

/-- The name of a category. -/
def name : Category → String
  | .leadNurture => "lead_nurture"
  | .followUp => "follow_up"
  | .customerService => "customer_service"
  | .sales => "sales"
  | .marketing => "marketing"
  | .operations => "operations"
  | .custom => "custom"

/-- The category of a name. -/
def ofName? (s : String) : Option Category := all.find? (·.name = s)

end Category

/-- The executable part of a workflow. -/
structure Definition where
  id : Option String := none
  tenantId : Option String := none
  name : String
  description : Option String := none
  enabled : Bool := false
  trigger : Trigger
  actions : List Node := []
  vars : Entries String := []
  category : Category := .custom
  version : Int := 1
  tags : List String := []
deriving DecidableEq

end Automation
