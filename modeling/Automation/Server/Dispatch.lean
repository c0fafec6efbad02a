import Automation.Server.Turn
import Automation.Trigger.Matching
import Automation.Schedule.Due

/-!
# Dispatching runs

Events and ticks of the clock start runs, one for each workflow that they concern. A run goes by the
definition that its workflow had when it was dispatched. Runs can be tried out, resumed and aborted.
-/

namespace Automation

open Schema

variable {τ : Type}

/-- What an event has started. -/
structure Dispatched where
  eventType : String
  workflows : List String
  runIds : List String
deriving DecidableEq, Repr

/-- What events have started. -/
def Dispatched.codec : Codec Dispatched := .record "EventDispatchResponse" <|
  Dispatched.mk
    <$> .required ⟨"event_type", "eventType"⟩ (·.eventType) .text
    <*> .required ⟨"matched_workflows", "matchedWorkflows"⟩ (·.workflows) (.list .text)
    <*> .required ⟨"run_ids", "runIds"⟩ (·.runIds) (.list .text)

/-- The runs that an event has started, as they are answered. -/
def Dispatched.toValue (d : Dispatched) : Value := Dispatched.codec.write .full d

namespace Service

variable [ActiveTime τ]

/-- A task that is about to take its first turn. -/
def newTask (kind : TaskKind) (d : Dispatcher) (runId : String) (workflow : Definition)
    (event : Event) (rest : Dialogue (Except Escape (RunResult τ))) : Service τ (Task τ) := do
  let s ← get
  set { s with turns := s.turns + 1 }
  return {
    number := s.turns, kind, dispatcher := d, runId, workflow, event
    started := kind ≠ .background, wakesAt := s.elapsed, turn := s.turns, rest }

/-- Start a run that nobody waits for, and give its id. -/
def spawn (d : Dispatcher) (workflow : Definition) (event : Event) : Service τ String := do
  let runId ← store Operation.freshId
  let rest := ((← get).engine d).run workflow event runId
  let task ← newTask .background d runId workflow event rest
  modify fun s => { s with tasks := s.tasks ++ [task] }
  return runId

/-- Start a run for every enabled workflow of a tenant that the event concerns. -/
def dispatchEvent (d : Dispatcher) (tenant : String) (event : Event) : Service τ Dispatched := do
  let candidates ← store (Workflows.enabledDefinitions tenant event.type)
  let concerned := candidates.filter (·.startsOn event)
  let runIds ← concerned.mapM fun workflow => spawn d workflow event
  return { eventType := event.type, workflows := concerned.filterMap (·.id), runIds }

/-- The event of a tick of the clock. -/
def tickEvent (now : Time.Stamp) : Event :=
  { type := TriggerKind.schedule.name, occurredAt := some now
    payload := [("scheduled_at", .text now.iso)] }

/-- Start a run for every enabled workflow whose schedule is due in the minute of a time. -/
def dispatchTick (d : Dispatcher) (now : Time.Stamp) : Service τ (List String) := do
  -- The clock ticks for all tenants at once.
  let candidates ← store (Workflows.enabledDefinitions "" TriggerKind.schedule.name)
  let due := candidates.filter fun workflow => TriggerSchedule.due workflow.trigger.schedule now
  due.mapM fun workflow => spawn d workflow (tickEvent now)

/-- Ask for the end of a run, and say whether it will come. A suspended run is resumed at once, for
it would not see the request before. -/
def abortRun (d : Dispatcher) (runId tenant : String) : Service τ Bool := do
  let row ← store (Runs.owned runId tenant)
  let suspended := row.status = RunStatus.suspended.name
  if !(suspended || row.status = RunStatus.running.name) || !d.aborts then return false
  let s ← get
  let (accepted, flags) := s.flags.request runId s.elapsed
  set { s with flags }
  if accepted && suspended && d.suspends then
    modify fun s => { s with scheduler := (s.scheduler.expediteResume runId s.now).2 }
  return accepted

variable [RunningMean τ]

/-- Wait for the end of a task. -/
def await (t : Task τ) : Service τ (RunResult τ) := fun s => s.await t

/-- Try a workflow out on an event, whether it is enabled or not. -/
def testRun (d : Dispatcher) (workflowId tenant : String) (event : Event) :
    Service τ (RunResult τ) := do
  let workflow ← store (Workflows.definition workflowId tenant)
  let runId ← store Operation.freshId
  let _ ← store (Runs.start workflow event runId true (← get).now)
  await (← newTask .test d runId workflow event (((← get).testEngine d).run workflow event runId))

/-- A part of a continuation, which must have its shape. -/
def restoredPart {α : Type} (name : String) (part : Checked α) : Service τ α :=
  match part with
  | .ok a => return a
  | .bad issues => throw (.badRecord name issues)

/-- Go on with a suspended run. -/
def resume (d : Dispatcher) (c : Continuation τ) : Service τ (RunResult τ) := do
  let workflow ← restoredPart "WorkflowDefinition" (Definition.codec.read (Value.object c.workflow))
  let event ← restoredPart "TriggerEvent" (Event.codec.read (Value.object c.event))
  await (← newTask .resumption d c.runId workflow event (((← get).engine d).resume c))

/-- Do what a job is for. -/
def doJob (work : JobWork τ) : Service τ Unit := do
  let d ← dispatcher
  match work with
  | .tick => let _ ← dispatchTick d (← get).now
  | .resume c => let _ ← resume d c

/-- Do a job when it is time, or now if it is late, and take it off the list. -/
def doJobOf (id : String) : Service τ Unit := do
  let some job := (← get).scheduler.job? id | throw (.noJob id)
  -- The job is off the list before it is done: should it fail, it is not done again.
  modify fun s =>
    let scheduler := s.scheduler.remove id
    match job.time with
    | .everyMinute => { s with scheduler }
    | .once t => { s with scheduler, elapsed := max s.elapsed (t.instant - s.origin).toNat }
  doJob job.work

end Service

end Automation
