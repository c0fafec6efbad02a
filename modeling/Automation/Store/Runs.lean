import Automation.Store.Workflows

/-!
# Operations on runs

A run is inserted when it starts and is given its outcome when it ends or is suspended. With its
outcome it is added to the record of its workflow: a suspended run only marks the workflow as
running, and a test counts for nothing. A run is counted when it ends, whatever became of its
workflow.
-/

namespace Automation

variable {τ : Type}

/-- A duration as a float would hold it: below about `1.8 * 10 ^ 308`. -/
def floatHolds (n : Int) : Bool := (Number.floatOfInt n).isFinite

/-- A workflow whose run has been suspended. -/
def WorkflowRow.markRunning (r : WorkflowRow τ) (now : Time.Stamp) : WorkflowRow τ :=
  { r with
    lastRunStatus := some RunStatus.running.name, lastRunAt := some now.naiveUtc
    updatedAt := some now.naiveUtc }

/-- The mean duration with one more run; there is none if that makes the count zero. -/
def WorkflowRow.pushMean [RunningMean τ] (r : WorkflowRow τ) (durationMs : Int) : Option τ :=
  match r.averageMs with
  | none => some (RunningMean.single durationMs)
  | some mean =>
    if r.totalRuns + 1 = 0 then none else some (RunningMean.push mean durationMs (r.totalRuns + 1))

/-- A workflow with one more run in its record. -/
def WorkflowRow.count [RunningMean τ] (r : WorkflowRow τ) (result : RunResult τ)
    (now : Time.Stamp) : WorkflowRow τ :=
  let succeeded := result.status = .success
  { r with
    totalRuns := r.totalRuns + 1
    successfulRuns := r.successfulRuns + (if succeeded then 1 else 0)
    failedRuns := r.failedRuns + (if succeeded then 0 else 1)
    averageMs := r.pushMean result.durationMs
    lastRunAt := some now.naiveUtc, lastRunStatus := some result.status.name
    lastRunError := if succeeded then none else result.error
    updatedAt := some now.naiveUtc }

namespace Runs

open Operation

/-- The row of a run that starts. -/
def newRow (d : Definition) (event : Event) (id : String) (isTest : Bool) (startedAt : Time.Stamp)
    (workflowId tenantId : String) : RunRow :=
  { id, workflowId, tenantId, triggerKind := d.trigger.kind.name, status := RunStatus.running.name
    event := Event.codec.write .full event, isTest, startedAt := startedAt.naiveUtc }

/-- A row for a run, if its workflow and its tenant are known. -/
def rowFor (d : Definition) (event : Event) (id : String) (isTest : Bool) (startedAt : Time.Stamp) :
    Except StoreFault RunRow :=
  match d.id, d.tenantId with
  | some workflowId, some tenantId => .ok (newRow d event id isTest startedAt workflowId tenantId)
  | _, _ => .error .integrity

/-- The row of a run as it is now. -/
def current (id : String) : Operation τ RunRow := do
  found ((← get).run? id) (.noRun id)

/-- Insert a run that starts now. -/
def start (d : Definition) (event : Event) (id : String) (isTest : Bool) (now : Time.Stamp) :
    Operation τ RunRow := do
  commit fun s => do
    let row ← rowFor d event id isTest now
    if (s.run? id).isSome then throw .integrity
    return s.insertRun row
  current id

/-- The row of a run with its outcome. -/
def outcome [ActiveTime τ] (row : RunRow) (result : RunResult τ) (now : Time.Stamp) : RunRow :=
  { row with
    status := result.status.name
    stepResults := .list (result.stepResults.map (StepResult.codec.write .full))
    error := result.error, durationMs := some result.durationMs
    completedAt := if result.status = .suspended then none else some now.naiveUtc }

/-- The store with the outcome of a run in its row, which is inserted if it is not there. -/
def saved [ActiveTime τ] (s : Store τ) (d : Definition) (event : Event) (result : RunResult τ)
    (isTest : Bool) (now : Time.Stamp) : Except StoreFault (Store τ) := do
  let _ ← stored result.durationMs
  match s.run? result.runId with
  | some _ => return s.changeRun result.runId fun row => outcome row result now
  | none =>
    let row ← rowFor d event result.runId isTest result.startedAt
    return s.insertRun (outcome row result now)

/-- The store with the outcome of a run in the record of its workflow. -/
def counted [RunningMean τ] (s : Store τ) (workflowId : String) (result : RunResult τ)
    (now : Time.Stamp) : Store τ :=
  s.changeWorkflow workflowId fun r =>
    if result.status = .suspended then r.markRunning now else r.count result now

/-- The workflow in whose record a run counts, if there is one. -/
def countsFor (d : Definition) (isTest : Bool) : Option String :=
  if isTest then none else d.id.filter (!·.isEmpty)

/-- Record the outcome of a run. -/
def record [ActiveTime τ] [RunningMean τ] (d : Definition) (event : Event) (result : RunResult τ)
    (isTest : Bool) (now : Time.Stamp) : Operation τ RunRow := do
  let workflowId := countsFor d isTest
  -- The mean could not take such a duration in, so nothing of the outcome is stored.
  if workflowId.isSome && result.status ≠ .suspended && !floatHolds result.durationMs then
    throw (.store .hugeDuration)
  commit fun s => do
    let s ← saved s d event result isTest now
    return match workflowId with
      | some id => counted s id result now
      | none => s
  current result.runId

/-- The runs of a workflow, perhaps only those of a status, the latest first. -/
def list (workflowId tenant : String) (page size : Int) (status : String) :
    Operation τ (Page RunView) := do
  let _ ← Workflows.owned workflowId tenant
  let rows ← query fun s => s.runs.filter fun r =>
    r.workflowId == workflowId && r.tenantId == tenant && wanted status r.status
  let members ← lifted .store (pageOf page size (newestFirst (·.startedAt) rows))
  let members ← of (members.mapM (·.view))
  return { members, total := rows.length, page, size }

/-- The row of a run, which must belong to the tenant. -/
def owned (runId tenant : String) : Operation τ RunRow := do
  let row ← found (← query (·.run? runId)) (.noRun runId)
  if row.tenantId = tenant then return row else throw (.foreignRun runId tenant)

/-- A run of a tenant. -/
def fetch (runId tenant : String) : Operation τ RunView := do of (← owned runId tenant).view

end Runs

end Automation
