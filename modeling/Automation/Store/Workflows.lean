import Automation.Store.Report
import Automation.Store.Request

/-!
# Operations on workflows

What a tenant can do with its workflows. A workflow is only stored if its definition can be run, and
only its own tenant sees it; templates are there for everyone to copy.
-/

namespace Automation

variable {τ : Type}

/-- A definition with changes. -/
def WorkflowChanges.apply (c : WorkflowChanges) (d : Definition) : Definition :=
  { d with
    name := c.name.getD d.name
    description := c.description.getD d.description
    trigger := c.trigger.getD d.trigger
    actions := c.actions.getD d.actions
    vars := c.vars.getD d.vars
    category := c.category.getD d.category
    tags := c.tags.getD d.tags }

/-- The definition that a new workflow has. -/
def NewWorkflow.definition (w : NewWorkflow) : Definition :=
  { name := w.name, description := w.description, enabled := w.enabled, trigger := w.trigger
    actions := w.actions, vars := w.vars, category := w.category, tags := w.tags }

/-- The row of a new workflow. -/
def NewWorkflow.row (w : NewWorkflow) (id tenant user : String) (now : Time.Stamp) :
    WorkflowRow τ :=
  { id, tenantId := tenant, name := w.name, description := w.description, enabled := w.enabled
    category := w.category.name, tags := .texts w.tags, triggerKind := w.trigger.kind.name
    triggerConfig := WorkflowRow.triggerConfigOf w.trigger
    actions := WorkflowRow.actionsOf w.actions
    vars := .object (w.vars.mapValues .text), isTemplate := w.isTemplate
    createdAt := now, updatedAt := some now, createdBy := some user, updatedBy := some user }

/-- The new workflow that a template makes. It starts disabled, and variables of its own replace
those of the template. -/
def TemplateUse.workflow (u : TemplateUse) (template : Definition) : NewWorkflow :=
  { name := u.name.getD template.name, description := template.description, enabled := false
    trigger := template.trigger, actions := template.actions
    vars := template.vars.merge (u.vars.getD []), category := template.category
    tags := template.tags }

/-- What a list of workflows is narrowed to. An empty text narrows nothing. -/
structure WorkflowFilter where
  enabled : Option Bool := none
  category : String := ""
  triggerKind : String := ""
deriving DecidableEq, Repr

/-- Whether a text is wanted. -/
def wanted (filter s : String) : Bool := filter.isEmpty || s == filter

/-- Whether a workflow passes a filter. -/
def WorkflowFilter.passes (f : WorkflowFilter) (r : WorkflowRow τ) : Bool :=
  f.enabled.all (· == r.enabled) && wanted f.category r.category
    && wanted f.triggerKind r.triggerKind

namespace Workflows

open Operation

/-- Fail unless a definition can be run. -/
def judge (d : Definition) : Operation τ Unit := do
  let problems ← lifted .longInteger d.problems
  unless problems.isEmpty do throw (.invalid problems)

/-- The row of a workflow, which must belong to the tenant. -/
def owned (id tenant : String) : Operation τ (WorkflowRow τ) := do
  let row ← found (← query (·.workflow? id)) (.noWorkflow id)
  if row.tenantId = tenant then return row else throw (.foreignWorkflow id tenant)

/-- The definition that is stored in a row. -/
def definitionOf (row : WorkflowRow τ) : Operation τ Definition := lifted .unreadable row.definition

/-- A workflow in full, as it is now. -/
def viewed (id : String) : Operation τ (WorkflowView τ) := do
  let row ← found ((← get).workflow? id) (.noWorkflow id)
  of row.view

/-- Create a workflow. -/
def create (w : NewWorkflow) (tenant user : String) (now : Time.Stamp) :
    Operation τ (WorkflowView τ) := do
  judge w.definition
  let id ← freshId
  commit fun s =>
    if (s.workflow? id).isSome then .error .integrity
    else .ok (s.insertWorkflow (w.row id tenant user now.naiveUtc))
  viewed id

/-- A workflow in full. -/
def fetch (id tenant : String) : Operation τ (WorkflowView τ) := do
  of (← owned id tenant).view

/-- The definition of a workflow. -/
def definition (id tenant : String) : Operation τ Definition := do definitionOf (← owned id tenant)

/-- The workflows of a tenant that pass a filter, the newest first. -/
def list (tenant : String) (page size : Int) (filter : WorkflowFilter) :
    Operation τ (Page WorkflowSummary) := do
  let rows ← query fun s =>
    s.workflows.filter fun r => r.tenantId == tenant && !r.isTemplate && filter.passes r
  let members ← lifted .store (pageOf page size (newestFirst (·.createdAt) rows))
  let summaries ← of (members.mapM (·.summary))
  return { members := summaries, total := rows.length, page, size }

/-- The version behind a version. Where none is stored it counts as the first. -/
def nextVersion (version : Int) : Int := (if version = 0 then 1 else version) + 1

/-- Change a workflow. Runs that were started before go on with the definition they were started
with. -/
def update (id : String) (changes : WorkflowChanges) (tenant user : String) (now : Time.Stamp) :
    Operation τ (WorkflowView τ) := do
  let row ← owned id tenant
  let updated := changes.apply (← definitionOf row)
  judge updated
  commit fun s => do
    let version ← stored (nextVersion row.version)
    return s.changeWorkflow id fun r =>
      { r with
        name := updated.name, description := updated.description, category := updated.category.name
        tags := .texts updated.tags, triggerKind := updated.trigger.kind.name
        triggerConfig := WorkflowRow.triggerConfigOf updated.trigger
        actions := WorkflowRow.actionsOf updated.actions
        vars := .object (updated.vars.mapValues .text), version
        updatedBy := some user, updatedAt := some now.naiveUtc }
  viewed id

/-- Delete a workflow. Its runs are kept. -/
def delete (id tenant : String) : Operation τ Unit := do
  let _ ← owned id tenant
  commit fun s => .ok (s.removeWorkflow id)

/-- Enable or disable a workflow. A workflow is only enabled if it can be run. -/
def setEnabled (id tenant : String) (enabled : Bool) (now : Time.Stamp) :
    Operation τ (WorkflowView τ) := do
  let row ← owned id tenant
  if enabled then judge (← definitionOf row)
  commit fun s => .ok <| s.changeWorkflow id fun r =>
    { r with enabled, updatedAt := some now.naiveUtc }
  viewed id

/-- The record of the runs of a workflow. -/
def record (id tenant : String) : Operation τ (RunRecord τ) := do return (← owned id tenant).record

/-- The definitions of all enabled workflows, narrowed to a tenant and to a kind of trigger unless
these are empty. A workflow that cannot be read is passed over. -/
def enabledDefinitions (tenant kind : String) : Operation τ (List Definition) :=
  query fun s =>
    (s.workflows.filter fun r =>
      r.enabled && !r.isTemplate && wanted tenant r.tenantId && wanted kind r.triggerKind).filterMap
        (·.definition.toOption)

/-- All templates of a category, or of every one if it is empty, the newest first. -/
def templates (category : String) : Operation τ (List WorkflowSummary) := do
  let rows ← query fun s => s.workflows.filter fun r => r.isTemplate && wanted category r.category
  of ((newestFirst (·.createdAt) rows).mapM (·.summary))

/-- Create a workflow from a template. -/
def instantiate (templateId : String) (use : TemplateUse) (tenant user : String)
    (now : Time.Stamp) : Operation τ (WorkflowView τ) := do
  let template? ← query fun s => s.workflows.find? fun r => r.id = templateId && r.isTemplate
  let template ← found template? (.noTemplate templateId)
  let made ← create (use.workflow (← definitionOf template)) tenant user now
  -- The new workflow is looked up once more, which may be what the store refuses.
  let _ ← query fun s => s.workflow? made.id
  commit fun s => .ok <| s.changeWorkflow made.id fun r =>
    { r with templateId := some templateId, updatedAt := some now.naiveUtc }
  viewed made.id

end Workflows

end Automation
