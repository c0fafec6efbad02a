import Automation.Run.Engine

/-!
# Runs and resumed runs

A run starts at the entry of a definition that has no problems. A resumed run goes on from its
continuation. Both end with a result; what a continuation holds is enough to go on as if the run had
never been suspended.
-/

namespace Automation

open Schema

/-- Why there is no result at all. -/
inductive Escape where
  /-- The definition cannot be judged. -/
  | longInteger (fault : LongInteger)
  /-- The stored context names no run. -/
  | noRunId
  /-- The start of the run has no offset, so that its length cannot be told. -/
  | naiveStart
  /-- The result does not have its shape. -/
  | badResult (issues : List Issue)
deriving DecidableEq, Repr

/-- The escape in words. -/
def Escape.message : Escape → String
  | .longInteger fault => fault.message
  | .noRunId => Value.quoted "run_id"
  | .naiveStart => "can't subtract offset-naive and offset-aware datetimes"
  | .badResult issues => summary "ExecutionResult" issues

namespace Engine

variable {τ : Type}

/-! ## Results -/

/-- The whole milliseconds from a stamp to a reading of the clock. -/
def elapsedMs (e : Engine) (startedAt : Time.Stamp) (reading : Nat) : Except Escape Int :=
  match startedAt.offset with
  | none => .error .naiveStart
  | some _ =>
    let micros := e.origin + reading - startedAt.instant
    .ok (max 0 ((Number.truncate? (Number.divide micros 1000000 * 1000.0)).getD 0))

/-- The result of a run that ends now. -/
def finish (e : Engine) (runId : String) (workflowId : Option String) (startedAt : Time.Stamp)
    (stepResults : List StepResult) (status : RunStatus) (error : Option String)
    (continuation : Option (Continuation τ)) : Dialogue (Except Escape (RunResult τ)) := do
  let reading ← Dialogue.clock
  return (e.elapsedMs startedAt reading).map fun durationMs =>
    { runId, workflowId, status, stepResults, error, durationMs, startedAt, continuation }

/-- All that is needed to go on with a run later. -/
def continuationOf [ActiveTime τ] (s : RunState τ) (resumeNode : Option String)
    (resumeAt : Time.Stamp) (reading : Nat) : Continuation τ :=
  let fields (v : Value) : Entries Value := v.fields?.getD []
  { runId := s.runId
    workflow := fields s.workflow.wire
    event := fields (Event.codec.write .full s.context.event)
    resumeNode, resumeAt
    context := fields s.context.toValue
    stepResults := s.stepResults.map fun step => fields (StepResult.codec.write .plain step)
    stepsVisited := s.stepsVisited
    activeMs := ActiveTime.toMillis (s.active reading)
    startedAt := s.startedAt }

/-- Walk from a node to the end of the run or of this segment of it. -/
def execute [ActiveTime τ] (e : Engine) (s : RunState τ) (start : Option String) :
    Dialogue (Except Escape (RunResult τ)) := do
  let (result, s) ← (e.walk (e.fuel s.stepsVisited) start s.context.locals true).run s
  let finish := e.finish s.runId s.workflow.id s.startedAt s.stepResults
  match result with
  | .ok () => finish .success none none
  | .error (.suspended resumeNode resumeAt) =>
    -- The active time is taken before the run is finished, at a reading of its own.
    let reading ← Dialogue.clock
    finish .suspended none (some (continuationOf s resumeNode resumeAt reading))
  | .error halt => finish .failed (some halt.message) none

/-! ## Starting -/

/-- Run a definition on an event. -/
def run [ActiveTime τ] (e : Engine) (d : Definition) (event : Event) (runId : String) :
    Dialogue (Except Escape (RunResult τ)) := do
  let reading ← Dialogue.clock
  let startedAt := e.stamp reading
  match d.problems, d.entry? with
  | .error fault, _ => return .error (.longInteger fault)
  | .ok [], some entry =>
    let vars := d.vars.mapValues Value.text
    e.execute
      { runId, workflow := d
        context := .create runId event d.id d.tenantId vars startedAt
        startedAt, activeBefore := ActiveTime.zero, segmentStart := reading
        paused := ActiveTime.zero }
      (some entry.id)
  | .ok problems, _ =>
    e.finish runId d.id startedAt [] .failed (some (Definition.problemsMessage problems)) none

/-! ## Resuming -/

/-- Why a continuation cannot be restored. -/
inductive RestoreIssue where
  | noRunId
  /-- The name of the shape that does not fit, and the issues. -/
  | shape (name : String) (issues : List Issue)
deriving DecidableEq, Repr

/-- A part of a continuation. -/
def restored {α : Type} (name : String) (part : Checked α) : Except RestoreIssue α :=
  part.toExcept.mapError (.shape name)

/-- The context of a continuation. -/
def restoredContext (data : Entries Value) : Except RestoreIssue Context :=
  match Context.ofEntries data with
  | .ok c => .ok c
  | .error .noRunId => .error .noRunId
  | .error (.badEvent issues) => .error (.shape "TriggerEvent" issues)

/-- The state of a suspended run, as it goes on at a reading of the clock. -/
def restore [ActiveTime τ] (c : Continuation τ) (reading : Nat) :
    Except RestoreIssue (RunState τ) := do
  let workflow ← restored "WorkflowDefinition" (Definition.codec.read (Value.object c.workflow))
  let context ← restoredContext c.context
  let stepResults ← c.stepResults.mapM fun step =>
    restored "StepResult" (StepResult.codec.read (Value.object step))
  return {
    runId := c.runId, workflow, context, startedAt := c.startedAt, stepResults
    stepsVisited := c.stepsVisited, activeBefore := ActiveTime.ofMillis c.activeMs
    segmentStart := reading, paused := ActiveTime.zero }

/-- The stored id of the workflow of a continuation, which must be a text or null. -/
def storedWorkflowId (c : Continuation τ) : Except Escape (Option String) :=
  let id := (c.workflow.get? "id").getD .null
  ((Codec.optional .text).read id).under (.field "workflow_id") |>.toExcept.mapError .badResult

/-- Go on with a suspended run. -/
def resume [ActiveTime τ] (e : Engine) (c : Continuation τ) :
    Dialogue (Except Escape (RunResult τ)) := do
  let reading ← Dialogue.clock
  match restore c reading with
  | .ok s => e.execute s c.resumeNode
  | .error .noRunId => return .error .noRunId
  | .error (.shape name issues) =>
    -- What could not be restored is told with the id as it stands in the stored workflow.
    match storedWorkflowId c with
    | .error escape =>
      -- How long the run took is asked before the id is looked at.
      return .error (if c.startedAt.offset = none then .naiveStart else escape)
    | .ok workflowId =>
      e.finish c.runId workflowId c.startedAt [] .failed
        (some ("Suspended run could not be restored: " ++ summary name issues)) none

end Engine

end Automation
