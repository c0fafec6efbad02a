import Automation.Server.Dispatch
import Automation.Store.Request

/-!
# Forms

The forms that data can be checked against, by title: those that make up a definition, requests,
what a run leaves, and reports. Checked data are written back in full, with everything that was left
out filled in.
-/

namespace Automation

open Schema

/-- A form with its title. -/
structure Form where
  title : String
  check : Value → Checked Value

namespace Form

/-- The form of a codec. -/
def of {α : Type} (title : String) (c : Codec α) : Form where
  title
  check x := (c.read x).map (c.write .full)

/-! ## Nodes -/

/-- The title of the nodes of a kind: the words of its name, each with a capital. -/
def nodeTitle (kind : String) : String :=
  String.join ((kind.splitOn "_").map String.capitalize) ++ "Node"

/-- The nodes of a kind. -/
def node (kind : String) : Form :=
  let title := nodeTitle kind
  of title (.record title (Node.fields kind))

/-! ## All forms -/

/-- The forms of definitions and of their parts. -/
def ofDefinitions : List Form :=
  [of "WorkflowDefinition" Definition.codec, of "WorkflowTrigger" Trigger.codec,
   of "TriggerConditions" TriggerConditions.codec, of "TriggerSchedule" TriggerSchedule.codec,
   of "NodePosition" Position.codec]
  ++ Work.kindNames.map node

/-- The forms of what nodes are given to do. -/
def ofConfigurations : List Form :=
  [of "SendSmsConfig" SendSms.codec, of "SendEmailConfig" SendEmail.codec,
   of "MakeCallConfig" MakeCall.codec, of "SendSlackConfig" SendSlack.codec,
   of "CreateLeadConfig" CreateLead.codec, of "UpdateLeadConfig" UpdateLead.codec,
   of "CreateTaskConfig" CreateTask.codec, of "UpdateDealConfig" UpdateDeal.codec,
   of "AddNoteConfig" AddNote.codec, of "CalendarEventConfig" CalendarEvent.codec,
   of "GoogleSheetsRowConfig" SheetRow.codec, of "HttpActionConfig" HttpAction.codec,
   of "DelayConfig" Delay.codec, of "ConditionConfig" Branch.codec, of "LoopConfig" Loop.codec]

/-- The forms of requests. -/
def ofRequests : List Form :=
  [of "WorkflowCreate" NewWorkflow.codec, of "WorkflowUpdate" WorkflowChanges.codec,
   of "TemplateInstantiate" TemplateUse.codec, of "TriggerEvent" Event.codec]

/-- The forms of what runs leave. -/
def ofRuns : List Form :=
  [of "StepResult" StepResult.codec, of "RunContinuation" (Continuation.codec (τ := Float)),
   of "ExecutionResult" (RunResult.codec (τ := Float))]

/-- The forms of reports. -/
def ofReports : List Form :=
  [of "ExecutionStats" (RunRecord.codec (τ := Float)),
   of "WorkflowResponse" (WorkflowView.codec (τ := Float)),
   of "WorkflowSummary" WorkflowSummary.codec, of "WorkflowList" workflowPages,
   of "ValidationReport" Judgement.codec, of "EventDispatchResponse" Dispatched.codec,
   of "RunResponse" RunView.codec, of "RunList" runPages]

/-- All forms. -/
def all : List Form := ofDefinitions ++ ofConfigurations ++ ofRequests ++ ofRuns ++ ofReports

/-- The form of a title. -/
def find? (title : String) : Option Form := all.find? (·.title = title)

end Form

end Automation
