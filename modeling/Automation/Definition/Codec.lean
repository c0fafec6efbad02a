import Automation.Definition.Basic
import Automation.Schema.Codec

/-!
# The written form of definitions

One description for each record gives the names and the order of its fields and how it is read and
written. A node is read by the kind that it names; its configuration admits no fields but its own.
-/

namespace Automation

open Schema

/-! ## Triggers -/

/-- Kinds of triggers by name. -/
def TriggerKind.codec : Codec TriggerKind := .choice (all.map name) ofName? name

/-- The conditions of a trigger. -/
def TriggerConditions.codec : Codec TriggerConditions := .record "TriggerConditions" <|
  TriggerConditions.mk
    <$> .optional ⟨"agent_types", "agentTypes"⟩ (·.agentTypes) (.list .text)
    <*> .optional ⟨"call_status", "callStatus"⟩ (·.callStatus) (.list .text)
    <*> .optional ⟨"lead_qualified", "leadQualified"⟩ (·.leadQualified) .flag
    <*> .optional ⟨"appointment_booked", "appointmentBooked"⟩ (·.appointmentBooked) .flag
    <*> .optional ⟨"payment_captured", "paymentCaptured"⟩ (·.paymentCaptured) .flag
    <*> .optional (.plain "sentiment") (·.sentiment) (.list .text)
    <*> .optional ⟨"minimum_duration", "minimumDuration"⟩ (·.minimumDuration)
        (.guarded .number (fun x => !(x < 0)) (.below 0))
    <*> .optional ⟨"custom_fields", "customFields"⟩ (·.customFields) (.dictionary .any)

/-- The schedule of a trigger. -/
def TriggerSchedule.codec : Codec TriggerSchedule := .record "TriggerSchedule" <|
  TriggerSchedule.mk
    <$> .required (.plain "expression") (·.expression) .text
    <*> .default (.plain "timezone") (·.timezone) .text "UTC"

/-- The fields of a trigger behind its kind. -/
def Trigger.fields : Fields Trigger Trigger :=
  Trigger.mk
    <$> .required (.plain "type") (·.kind) TriggerKind.codec
    <*> .default (.plain "conditions") (·.conditions) TriggerConditions.codec {}
    <*> .optional (.plain "schedule") (·.schedule) TriggerSchedule.codec

/-- Triggers. -/
def Trigger.codec : Codec Trigger := .record "WorkflowTrigger" Trigger.fields

/-! ## Actions -/

/-- Text messages. -/
def SendSms.codec : Codec SendSms := .closedRecord "SendSmsConfig" <|
  SendSms.mk
    <$> .required (.plain "to") (·.recipient) .text
    <*> .required (.plain "message") (·.message) .text

/-- Mails. -/
def SendEmail.codec : Codec SendEmail := .closedRecord "SendEmailConfig" <|
  SendEmail.mk
    <$> .required (.plain "recipient") (·.recipient) .text
    <*> .required (.plain "subject") (·.subject) .text
    <*> .required (.plain "body") (·.body) .text
    <*> .default (.plain "attachments") (·.attachments) (.list .text) []

/-- Calls. -/
def MakeCall.codec : Codec MakeCall := .closedRecord "MakeCallConfig" <|
  MakeCall.mk
    <$> .required ⟨"agent_id", "agentId"⟩ (·.agentId) .text
    <*> .required ⟨"phone_number", "phoneNumber"⟩ (·.phoneNumber) .text

/-- Messages to a channel. -/
def SendSlack.codec : Codec SendSlack := .closedRecord "SendSlackConfig" <|
  SendSlack.mk
    <$> .required (.plain "channel") (·.channel) .text
    <*> .required (.plain "text") (·.text) .text

/-- New leads. -/
def CreateLead.codec : Codec CreateLead := .closedRecord "CreateLeadConfig" <|
  CreateLead.mk
    <$> .required ⟨"lead_data", "leadData"⟩ (·.leadData) (.dictionary .any)

/-- Changes to leads. -/
def UpdateLead.codec : Codec UpdateLead := .closedRecord "UpdateLeadConfig" <|
  UpdateLead.mk
    <$> .required ⟨"lead_id", "leadId"⟩ (·.leadId) .text
    <*> .required ⟨"lead_data", "leadData"⟩ (·.leadData) (.dictionary .any)

/-- New tasks. -/
def CreateTask.codec : Codec CreateTask := .closedRecord "CreateTaskConfig" <|
  CreateTask.mk
    <$> .required ⟨"task_title", "taskTitle"⟩ (·.title) .text
    <*> .optional ⟨"task_description", "taskDescription"⟩ (·.description) .text
    <*> .default ⟨"task_type", "taskType"⟩ (·.kind) .text "follow_up"
    <*> .default ⟨"task_priority", "taskPriority"⟩ (·.priority) .text "medium"
    <*> .optional ⟨"task_due_date", "taskDueDate"⟩ (·.dueDate) .text

/-- Changes to deals. -/
def UpdateDeal.codec : Codec UpdateDeal := .closedRecord "UpdateDealConfig" <|
  UpdateDeal.mk
    <$> .required ⟨"deal_id", "dealId"⟩ (·.dealId) .text
    <*> .required ⟨"deal_data", "dealData"⟩ (·.dealData) (.dictionary .any)

/-- Notes. -/
def AddNote.codec : Codec AddNote := .closedRecord "AddNoteConfig" <|
  AddNote.mk
    <$> .required ⟨"target_id", "targetId"⟩ (·.targetId) .text
    <*> .required (.plain "text") (·.text) .text

/-- Appointments. -/
def CalendarEvent.codec : Codec CalendarEvent := .closedRecord "CalendarEventConfig" <|
  CalendarEvent.mk
    <$> .default (.plain "calendar") (·.calendar) .text "google"
    <*> .required ⟨"event_title", "eventTitle"⟩ (·.title) .text
    <*> .optional ⟨"event_description", "eventDescription"⟩ (·.description) .text
    <*> .required ⟨"event_start", "eventStart"⟩ (·.start) .text
    <*> .required ⟨"event_end", "eventEnd"⟩ (·.finish) .text
    <*> .default (.plain "attendees") (·.attendees) (.list .text) []

/-- Rows of a sheet. -/
def SheetRow.codec : Codec SheetRow := .closedRecord "GoogleSheetsRowConfig" <|
  SheetRow.mk
    <$> .required ⟨"spreadsheet_id", "spreadsheetId"⟩ (·.spreadsheetId) .text
    <*> .required ⟨"sheet_name", "sheetName"⟩ (·.sheetName) .text
    <*> .required (.plain "values") (·.values) (.dictionary .any)

/-- Requests. -/
def HttpAction.codec : Codec HttpAction := .closedRecord "HttpActionConfig" <|
  HttpAction.mk
    <$> .required (.plain "url") (·.url) .text
    <*> .default (.plain "method") (·.method) .text "POST"
    <*> .default (.plain "headers") (·.headers) (.dictionary .text) []
    <*> .optional (.plain "body") (·.body) (.dictionary .any)
    <*> .optional ⟨"timeout_ms", "timeoutMs"⟩ (·.timeoutMs)
        (.guarded .integer (fun n => 0 < n) (.notAbove 0))

namespace ActionKind

/-- The title of the configuration of a kind. -/
def configTitle : ActionKind → String
  | .sendSms => "SendSmsConfig"
  | .sendEmail => "SendEmailConfig"
  | .makeCall => "MakeCallConfig"
  | .sendSlack => "SendSlackConfig"
  | .createLead => "CreateLeadConfig"
  | .updateLead => "UpdateLeadConfig"
  | .createTask => "CreateTaskConfig"
  | .updateDeal => "UpdateDealConfig"
  | .addNote => "AddNoteConfig"
  | .createCalendarEvent => "CalendarEventConfig"
  | .sendCalendarInvite => "CalendarEventConfig"
  | .addSheetRow => "GoogleSheetsRowConfig"
  | .webhook => "HttpActionConfig"
  | .apiCall => "HttpActionConfig"

/-- Read the configuration of an action of a kind. -/
def readConfig {σ : Type} [Source σ] (kind : ActionKind) (x : σ) : Checked Action :=
  match kind with
  | .sendSms => (SendSms.codec.read x).map .sendSms
  | .sendEmail => (SendEmail.codec.read x).map .sendEmail
  | .makeCall => (MakeCall.codec.read x).map .makeCall
  | .sendSlack => (SendSlack.codec.read x).map .sendSlack
  | .createLead => (CreateLead.codec.read x).map .createLead
  | .updateLead => (UpdateLead.codec.read x).map .updateLead
  | .createTask => (CreateTask.codec.read x).map .createTask
  | .updateDeal => (UpdateDeal.codec.read x).map .updateDeal
  | .addNote => (AddNote.codec.read x).map .addNote
  | .createCalendarEvent => (CalendarEvent.codec.read x).map .createCalendarEvent
  | .sendCalendarInvite => (CalendarEvent.codec.read x).map .sendCalendarInvite
  | .addSheetRow => (SheetRow.codec.read x).map .addSheetRow
  | .webhook => (HttpAction.codec.read x).map .webhook
  | .apiCall => (HttpAction.codec.read x).map .apiCall

end ActionKind

/-- The written configuration of an action. -/
def Action.writeConfig (layout : Layout) : Action → Value
  | .sendSms c => SendSms.codec.write layout c
  | .sendEmail c => SendEmail.codec.write layout c
  | .makeCall c => MakeCall.codec.write layout c
  | .sendSlack c => SendSlack.codec.write layout c
  | .createLead c => CreateLead.codec.write layout c
  | .updateLead c => UpdateLead.codec.write layout c
  | .createTask c => CreateTask.codec.write layout c
  | .updateDeal c => UpdateDeal.codec.write layout c
  | .addNote c => AddNote.codec.write layout c
  | .createCalendarEvent c | .sendCalendarInvite c => CalendarEvent.codec.write layout c
  | .addSheetRow c => SheetRow.codec.write layout c
  | .webhook c | .apiCall c => HttpAction.codec.write layout c

/-! ## Steering the walk -/

/-- Units of delays by name. -/
def DelayUnit.codec : Codec DelayUnit := .choice (all.map name) ofName? name

/-- Pauses. -/
def Delay.codec : Codec Delay := .closedRecord "DelayConfig" <|
  Delay.mk
    <$> .required (.plain "duration") (·.duration)
        (.guarded .number (fun x => !(x < 0)) (.below 0))
    <*> .default (.plain "unit") (·.unit) DelayUnit.codec .minutes

/-- Branches. -/
def Branch.codec : Codec Branch := .closedRecord "ConditionConfig" <|
  Branch.mk
    <$> .required (.plain "condition") (·.condition) .text
    <*> .required ⟨"true_actions", "trueActions"⟩ (·.trueActions) (.list .text)
    <*> .required ⟨"false_actions", "falseActions"⟩ (·.falseActions) (.list .text)

/-- Repetitions. -/
def Loop.codec : Codec Loop := .closedRecord "LoopConfig" <|
  Loop.mk
    <$> .required (.plain "items") (·.items) .text
    <*> .required ⟨"action_id", "actionId"⟩ (·.actionId) .text

/-! ## Nodes -/

/-- Positions. -/
def Position.codec : Codec Position := .record "NodePosition" <|
  Position.mk
    <$> .default (.plain "x") (·.x) .number 0.0
    <*> .default (.plain "y") (·.y) .number 0.0

/-- Read what a node of a kind does, from its configuration. -/
def Work.read {σ : Type} [Source σ] (kind : String) (x : σ) : Checked Work :=
  match ActionKind.ofName? kind with
  | some k => (k.readConfig x).map .action
  | none =>
    if kind = "delay" then (Delay.codec.read x).map .delay
    else if kind = "condition" then (Branch.codec.read x).map .condition
    else (Loop.codec.read x).map .loop

/-- The written configuration of a work. -/
def Work.write (layout : Layout) : Work → Value
  | .action a => a.writeConfig layout
  | .delay d => Delay.codec.write layout d
  | .condition b => Branch.codec.write layout b
  | .loop l => Loop.codec.write layout l

/-- The name of a kind that is fixed. -/
def fixedKind (kind : String) : Codec String :=
  .choice [kind] (fun name => if name = kind then some name else none) fun name => name

/-- The fields of a node of a kind. The kind itself is written as a field. -/
def Node.fields (kind : String) : Fields Node Node :=
  (fun id name nextAction position entry abortOnFailure (_ : String) work =>
      { id, name, nextAction, position, entry, abortOnFailure, work : Node })
    <$> .required (.plain "id") (·.id) (.boundedText 1 none)
    <*> .optional (.plain "name") (·.name) .text
    <*> .optional ⟨"next_action", "nextAction"⟩ (·.nextAction) .text
    <*> .optional (.plain "position") (·.position) Position.codec
    <*> .default (.plain "entry") (·.entry) .flag false
    <*> .default ⟨"abort_on_failure", "abortOnFailure"⟩ (·.abortOnFailure) .flag false
    <*> .required (.plain "type") (·.work.kindName) (fixedKind kind)
    <*> .required (.plain "config") (·.work) ⟨Work.read kind, Work.write⟩

/-- The shown form of a scalar that should have been the name of a kind. -/
def shownTag {σ : Type} [Source σ] (x : σ) : String := (Source.toValue x).display

/-- Nodes: the kind is looked up first and stands in the place of every issue of the node. -/
def Node.codec : Codec Node where
  read x := match Source.shape x with
    | .object entries =>
      match (FieldName.plain "type").find? entries with
      | none => .fail (.noTag "type")
      | some (_, tag) =>
        match Source.shape tag with
        | .text kind =>
          if Work.kindNames.contains kind then ((Node.fields kind).read entries).under (.field kind)
          else .fail (.badTag kind "type" Work.kindNames)
        | _ => .fail (.badTag (shownTag tag) "type" Work.kindNames)
    | _ => .fail .attributes
  write layout node := .object ((Node.fields node.work.kindName).object layout node)

/-! ## Definitions -/

/-- Categories by name. -/
def Category.codec : Codec Category := .choice (all.map name) ofName? name

/-- The name of a workflow: not empty, and short enough to be stored. -/
def workflowName : Codec String := .boundedText 1 (some 255)

namespace Definition

/-- The fields of a definition behind its id and its tenant. -/
def bodyFields : Fields Definition (Option String → Option String → Definition) :=
  (fun name description enabled trigger actions vars category version tags id tenantId =>
      Definition.mk id tenantId name description enabled trigger actions vars category version tags)
    <$> .required (.plain "name") (·.name) workflowName
    <*> .optional (.plain "description") (·.description) .text
    <*> .default (.plain "enabled") (·.enabled) .flag false
    <*> .required (.plain "trigger") (·.trigger) Trigger.codec
    <*> .default (.plain "actions") (·.actions) (.list Node.codec) []
    <*> .default (.plain "variables") (·.vars) (.dictionary .text) []
    <*> .default (.plain "category") (·.category) Category.codec .custom
    <*> .default (.plain "version") (·.version) .integer 1
    <*> .default (.plain "tags") (·.tags) (.list .text) []

/-- The fields of a definition. -/
def fields : Fields Definition Definition :=
  (fun id tenantId body => body id tenantId)
    <$> .optional (.plain "id") (·.id) .text
    <*> .optional ⟨"tenant_id", "tenantId"⟩ (·.tenantId) .text
    <*> bodyFields

/-- Definitions. -/
def codec : Codec Definition := .record "WorkflowDefinition" fields

/-- The form of a definition on the wire. -/
def wire (d : Definition) : Value := codec.write .wire d

end Definition

end Automation
