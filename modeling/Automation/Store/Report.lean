import Automation.Store.Basic

/-!
# Reports on what is stored

Stored workflows and runs as they are answered: in full, in short, in pages, and the record of the
runs of a workflow on its own.
-/

namespace Automation

open Schema

variable {τ : Type}

/-! ## Records of runs -/

/-- The percentage of the runs that succeeded, with two decimal places; zero if there was no run. -/
def successRate (total successful : Int) : Float :=
  if total = 0 then 0.0 else Number.roundPlaces 2 (Number.divide successful total * 100.0)

/-- The record of the runs of a workflow. -/
structure RunRecord (τ : Type) where
  totalRuns : Int := 0
  successfulRuns : Int := 0
  failedRuns : Int := 0
  lastRunAt : Option Time.Stamp := none
  lastRunStatus : Option String := none
  lastRunError : Option String := none
  averageMs : Option τ := none
  successRate : Float := Automation.successRate totalRuns successfulRuns
deriving DecidableEq

/-- Records of runs. -/
def RunRecord.codec [ActiveTime τ] : Codec (RunRecord τ) := .record "ExecutionStats" <|
  RunRecord.mk
    <$> .default ⟨"total_runs", "totalRuns"⟩ (·.totalRuns) .integer 0
    <*> .default ⟨"successful_runs", "successfulRuns"⟩ (·.successfulRuns) .integer 0
    <*> .default ⟨"failed_runs", "failedRuns"⟩ (·.failedRuns) .integer 0
    <*> .optional ⟨"last_run_at", "lastRunAt"⟩ (·.lastRunAt) .time
    <*> .optional ⟨"last_run_status", "lastRunStatus"⟩ (·.lastRunStatus) .text
    <*> .optional ⟨"last_run_error", "lastRunError"⟩ (·.lastRunError) .text
    <*> .optional ⟨"average_execution_time", "averageExecutionTime"⟩ (·.averageMs)
        ActiveTime.codec
    <*> .default ⟨"success_rate", "successRate"⟩ (·.successRate) .number 0.0

/-- A record as it is answered. -/
def RunRecord.toValue [ActiveTime τ] (r : RunRecord τ) : Value := RunRecord.codec.write .full r

/-- The record of a stored workflow. -/
def WorkflowRow.record (r : WorkflowRow τ) : RunRecord τ :=
  { totalRuns := r.totalRuns, successfulRuns := r.successfulRuns, failedRuns := r.failedRuns
    lastRunAt := r.lastRunAt, lastRunStatus := r.lastRunStatus, lastRunError := r.lastRunError
    averageMs := r.averageMs }

/-! ## Workflows in full -/

/-- A workflow in full: its definition, and what the store knows about it besides. -/
structure WorkflowView (τ : Type) where
  id : String
  tenantId : String
  definition : Definition
  record : RunRecord τ
  isTemplate : Bool := false
  templateId : Option String := none
  createdAt : Time.Stamp
  updatedAt : Option Time.Stamp := none
deriving DecidableEq

/-- The fields of a workflow in full. -/
def WorkflowView.fields [ActiveTime τ] : Fields (WorkflowView τ) (WorkflowView τ) :=
  (fun id tenantId body => WorkflowView.mk id tenantId (body (some id) (some tenantId)))
    <$> .required (.plain "id") (·.id) .text
    <*> .required ⟨"tenant_id", "tenantId"⟩ (·.tenantId) .text
    <*> Definition.bodyFields.on (·.definition)
    <*> .required (.plain "execution") (·.record) RunRecord.codec
    <*> .default ⟨"is_template", "isTemplate"⟩ (·.isTemplate) .flag false
    <*> .optional ⟨"template_id", "templateId"⟩ (·.templateId) .text
    <*> .required ⟨"created_at", "createdAt"⟩ (·.createdAt) .time
    <*> .optional ⟨"updated_at", "updatedAt"⟩ (·.updatedAt) .time

/-- Workflows in full. -/
def WorkflowView.codec [ActiveTime τ] : Codec (WorkflowView τ) :=
  .record "WorkflowResponse" WorkflowView.fields

/-- A workflow in full as it is answered. -/
def WorkflowView.toValue [ActiveTime τ] (v : WorkflowView τ) : Value :=
  WorkflowView.codec.write .full v

/-- A stored workflow in full, if its definition can be rebuilt. -/
def WorkflowRow.view (r : WorkflowRow τ) : Except Failed (WorkflowView τ) :=
  match r.definition with
  | .ok definition => .ok
    { id := r.id, tenantId := r.tenantId, definition, record := r.record, isTemplate := r.isTemplate
      templateId := r.templateId, createdAt := r.createdAt, updatedAt := r.updatedAt }
  | .error fault => .error (.unreadable fault)

/-! ## Workflows in short -/

/-- A stored workflow in short. -/
structure WorkflowSummary where
  id : String
  name : String
  description : Option String := none
  enabled : Bool
  triggerKind : TriggerKind
  category : Category
  version : Int
  totalRuns : Int
  lastRunStatus : Option String := none
  createdAt : Time.Stamp
deriving DecidableEq

/-- Workflows in short. -/
def WorkflowSummary.codec : Codec WorkflowSummary := .record "WorkflowSummary" <|
  WorkflowSummary.mk
    <$> .required (.plain "id") (·.id) .text
    <*> .required (.plain "name") (·.name) .text
    <*> .optional (.plain "description") (·.description) .text
    <*> .required (.plain "enabled") (·.enabled) .flag
    <*> .required ⟨"trigger_type", "triggerType"⟩ (·.triggerKind) TriggerKind.codec
    <*> .required (.plain "category") (·.category) Category.codec
    <*> .required (.plain "version") (·.version) .integer
    <*> .required ⟨"total_runs", "totalRuns"⟩ (·.totalRuns) .integer
    <*> .optional ⟨"last_run_status", "lastRunStatus"⟩ (·.lastRunStatus) .text
    <*> .required ⟨"created_at", "createdAt"⟩ (·.createdAt) .time

/-- A stored workflow in short, if its trigger and its category exist. -/
def WorkflowRow.summary (r : WorkflowRow τ) : Except Failed WorkflowSummary :=
  match TriggerKind.ofName? r.triggerKind with
  | none => .error (.noTriggerKind r.triggerKind)
  | some triggerKind =>
    match (Category.codec.read (Value.text r.category)).under (.field "category") with
    | .bad issues => .error (.badRecord "WorkflowSummary" issues)
    | .ok category => .ok
      { id := r.id, name := r.name, description := r.description, enabled := r.enabled, triggerKind
        category, version := r.version, totalRuns := r.totalRuns, lastRunStatus := r.lastRunStatus
        createdAt := r.createdAt }

/-! ## Runs -/

/-- A stored run with its documents. -/
structure RunView where
  id : String
  workflowId : String
  tenantId : String
  triggerKind : String
  status : String
  event : Option (Entries Value) := none
  stepResults : List (Entries Value) := []
  error : Option String := none
  startedAt : Time.Stamp
  completedAt : Option Time.Stamp := none
  durationMs : Option Int := none
  isTest : Bool := false
deriving DecidableEq

/-- The document of an event, if there is one. -/
def eventDocument : Codec (Option (Entries Value)) := (Codec.dictionary .any).optional

/-- The documents of step results. -/
def stepDocuments : Codec (List (Entries Value)) := .list (.dictionary .any)

/-- Stored runs. -/
def RunView.codec : Codec RunView := .attributes <|
  RunView.mk
    <$> .required (.plain "id") (·.id) .text
    <*> .required ⟨"workflow_id", "workflowId"⟩ (·.workflowId) .text
    <*> .required ⟨"tenant_id", "tenantId"⟩ (·.tenantId) .text
    <*> .required ⟨"trigger_type", "triggerType"⟩ (·.triggerKind) .text
    <*> .required (.plain "status") (·.status) .text
    <*> .default (.plain "event") (·.event) eventDocument none
    <*> .default ⟨"step_results", "stepResults"⟩ (·.stepResults) stepDocuments []
    <*> .optional (.plain "error") (·.error) .text
    <*> .required ⟨"started_at", "startedAt"⟩ (·.startedAt) .time
    <*> .optional ⟨"completed_at", "completedAt"⟩ (·.completedAt) .time
    <*> .optional ⟨"duration_ms", "durationMs"⟩ (·.durationMs) .integer
    <*> .default ⟨"is_test", "isTest"⟩ (·.isTest) .flag false

/-- A run as it is answered. -/
def RunView.toValue (r : RunView) : Value := RunView.codec.write .full r

/-- A stored run, if its documents have their shapes. -/
def RunRow.view (r : RunRow) : Except Failed RunView :=
  let event := (eventDocument.read r.event).under (.field "event")
  let steps := (stepDocuments.read r.stepResults).under (.field "step_results")
  match Prod.mk <$> event <*> steps with
  | .ok (event, stepResults) => .ok
    { id := r.id, workflowId := r.workflowId, tenantId := r.tenantId, triggerKind := r.triggerKind
      status := r.status, event, stepResults, error := r.error, startedAt := r.startedAt
      completedAt := r.completedAt, durationMs := r.durationMs, isTest := r.isTest }
  | .bad issues => .error (.badRecord "RunResponse" issues)

/-! ## Pages -/

/-- Some of the members of a list, and how many there are in all. -/
structure Page (α : Type) where
  members : List α
  total : Int
  page : Int
  size : Int
deriving DecidableEq

/-- Pages, their members under a name. -/
def Page.codec {α : Type} (title name : String) (c : Codec α) : Codec (Page α) := .record title <|
  Page.mk
    <$> .required (.plain name) (·.members) (.list c)
    <*> .required (.plain "total") (·.total) .integer
    <*> .required (.plain "page") (·.page) .integer
    <*> .required (.plain "size") (·.size) .integer

/-- Pages of workflows in short. -/
def workflowPages : Codec (Page WorkflowSummary) :=
  Page.codec "WorkflowList" "workflows" WorkflowSummary.codec

/-- Pages of runs. -/
def runPages : Codec (Page RunView) := Page.codec "RunList" "runs" RunView.codec

/-- The members of a page of a list. Pages are counted from one; a negative size is no limit. -/
def pageOf {α : Type} (page size : Int) (all : List α) : Except StoreFault (List α) := do
  let offset ← stored ((page - 1) * size)
  let limit ← stored size
  let rest := all.drop offset.toNat
  return if limit < 0 then rest else rest.take limit.toNat

/-- The latest first; what has the same time stays in its order. -/
def newestFirst {α : Type} (time : α → Time.Stamp) (all : List α) : List α :=
  all.mergeSort fun a b => decide ((time b).wall ≤ (time a).wall)

end Automation
