import Automation.Definition.Reading
import Automation.Store.Column
import Automation.Store.Mean

/-!
# Rows

The store has two tables: workflows, each with its definition in parts and the record of its runs,
and runs, each with its event and what its steps did. Documents in rows are values in their written
form, and a definition has to be rebuilt from them. Times are naive and at UTC.
-/

namespace Automation

open Schema

/-! ## Workflows -/

/-- A stored workflow. -/
structure WorkflowRow (τ : Type) where
  id : String
  tenantId : String
  name : String
  description : Option String := none
  enabled : Bool := false
  category : String
  version : Int := 1
  tags : Value := .list []
  triggerKind : String
  /-- The trigger without its kind. -/
  triggerConfig : Value
  actions : Value
  vars : Value
  isTemplate : Bool := false
  templateId : Option String := none
  totalRuns : Int := 0
  successfulRuns : Int := 0
  failedRuns : Int := 0
  lastRunAt : Option Time.Stamp := none
  lastRunStatus : Option String := none
  lastRunError : Option String := none
  /-- The mean duration of the runs in milliseconds. -/
  averageMs : Option τ := none
  createdAt : Time.Stamp
  updatedAt : Option Time.Stamp
  createdBy : Option String := none
  updatedBy : Option String := none
deriving DecidableEq

/-- A column of means. -/
def Column.mean {ρ τ : Type} [ActiveTime τ] (name : String) (get : ρ → Option τ)
    (set : Option τ → ρ → ρ) : Column ρ :=
  ⟨name, fun r => Value.ofOption (ActiveTime.codec.write .plain) (get r),
    Column.putOptional (Column.readPartial fun v => (ActiveTime.codec.read v).toOption) set⟩

namespace WorkflowRow

variable {τ : Type}

/-- The columns of stored workflows. -/
def columns [ActiveTime τ] : List (Column (WorkflowRow τ)) :=
  [.text "id" (·.id) fun v r => { r with id := v },
   .text "tenant_id" (·.tenantId) fun v r => { r with tenantId := v },
   .text "name" (·.name) fun v r => { r with name := v },
   .optText "description" (·.description) fun v r => { r with description := v },
   .flag "enabled" (·.enabled) fun v r => { r with enabled := v },
   .text "category" (·.category) fun v r => { r with category := v },
   .integer "version" (·.version) fun v r => { r with version := v },
   .optDocument "tags" (·.tags) fun v r => { r with tags := v },
   .text "trigger_type" (·.triggerKind) fun v r => { r with triggerKind := v },
   .document "trigger_config" (·.triggerConfig) fun v r => { r with triggerConfig := v },
   .document "actions" (·.actions) fun v r => { r with actions := v },
   .document "variables" (·.vars) fun v r => { r with vars := v },
   .flag "is_template" (·.isTemplate) fun v r => { r with isTemplate := v },
   .optText "template_id" (·.templateId) fun v r => { r with templateId := v },
   .integer "total_runs" (·.totalRuns) fun v r => { r with totalRuns := v },
   .integer "successful_runs" (·.successfulRuns) fun v r => { r with successfulRuns := v },
   .integer "failed_runs" (·.failedRuns) fun v r => { r with failedRuns := v },
   .optTime "last_run_at" (·.lastRunAt) fun v r => { r with lastRunAt := v },
   .optText "last_run_status" (·.lastRunStatus) fun v r => { r with lastRunStatus := v },
   .optText "last_run_error" (·.lastRunError) fun v r => { r with lastRunError := v },
   .mean "average_execution_time" (·.averageMs) fun v r => { r with averageMs := v },
   .time "created_at" (·.createdAt) fun v r => { r with createdAt := v },
   .optTime "updated_at" (·.updatedAt) fun v r => { r with updatedAt := v },
   .optText "created_by" (·.createdBy) fun v r => { r with createdBy := v },
   .optText "updated_by" (·.updatedBy) fun v r => { r with updatedBy := v }]

/-! ### Definitions in parts -/

/-- A trigger in its stored form, without its kind. -/
def triggerConfigOf (t : Trigger) : Value :=
  .object (Entries.erase "type" ((Trigger.codec.write .wire t).fields?.getD []))

/-- Actions in their stored form. -/
def actionsOf (actions : List Node) : Value := (Codec.list Node.codec).write .wire actions

/-- Why a row has no definition. -/
inductive Unreadable where
  /-- The configuration of the trigger is no mapping but another kind of value. -/
  | noMapping (kind : String)
  | refused (refusal : Refusal)
deriving DecidableEq, Repr

/-- Why a row has no definition, in words. -/
def Unreadable.message : Unreadable → String
  | .noMapping kind => s!"'{kind}' object is not a mapping"
  | .refused refusal => refusal.message

/-- A value, or another one in place of what counts as nothing. -/
def orElse (fallback v : Value) : Value := if v.isEmptyLike then fallback else v

/-- The trigger that the parts of a row make up. -/
def triggerData (r : WorkflowRow τ) : Except Unreadable Value :=
  match orElse (.object []) r.triggerConfig with
  | .object config => .ok (.object (Entries.merge [("type", .text r.triggerKind)] config))
  | v => .error (.noMapping v.kindWord)

/-- All parts of a row as the data of a definition. -/
def definitionData (r : WorkflowRow τ) : Except Unreadable Value :=
  r.triggerData.map fun trigger => .object
    [("id", .text r.id), ("tenantId", .text r.tenantId), ("name", .text r.name),
     ("description", .optText r.description), ("enabled", .bool r.enabled), ("trigger", trigger),
     ("actions", orElse (.list []) r.actions), ("variables", orElse (.object []) r.vars),
     ("category", .text r.category), ("version", .int (if r.version = 0 then 1 else r.version)),
     ("tags", orElse (.list []) r.tags)]

/-- The definition that is stored in a row. -/
def definition (r : WorkflowRow τ) : Except Unreadable Definition := do
  let data ← r.definitionData
  (Definition.read data).mapError .refused

end WorkflowRow

/-! ## Runs -/

/-- A stored run. -/
structure RunRow where
  id : String
  workflowId : String
  tenantId : String
  triggerKind : String
  status : String
  event : Value := .null
  stepResults : Value := .list []
  error : Option String := none
  isTest : Bool := false
  startedAt : Time.Stamp
  completedAt : Option Time.Stamp := none
  durationMs : Option Int := none
deriving DecidableEq

namespace RunRow

/-- The columns of stored runs. -/
def columns : List (Column RunRow) :=
  [.text "id" (·.id) fun v r => { r with id := v },
   .text "workflow_id" (·.workflowId) fun v r => { r with workflowId := v },
   .text "tenant_id" (·.tenantId) fun v r => { r with tenantId := v },
   .text "trigger_type" (·.triggerKind) fun v r => { r with triggerKind := v },
   .text "status" (·.status) fun v r => { r with status := v },
   .optDocument "event" (·.event) fun v r => { r with event := v },
   .optDocument "step_results" (·.stepResults) fun v r => { r with stepResults := v },
   .optText "error" (·.error) fun v r => { r with error := v },
   .flag "is_test" (·.isTest) fun v r => { r with isTest := v },
   .time "started_at" (·.startedAt) fun v r => { r with startedAt := v },
   .optTime "completed_at" (·.completedAt) fun v r => { r with completedAt := v },
   .optInteger "duration_ms" (·.durationMs) fun v r => { r with durationMs := v }]

end RunRow

end Automation
