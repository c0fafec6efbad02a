import Automation.Run.ActiveTime

/-!
# Results of runs

A run leaves one result for every node that it visits. It ends, or it is suspended with all that is
needed to go on later, possibly in another process. The type of active times is a parameter.
-/

namespace Automation

open Schema

/-! ## Steps -/

/-- How a visit of a node ended. -/
inductive StepStatus where
  | success
  | failed
deriving DecidableEq, Repr, Inhabited

namespace StepStatus

/-- All statuses. -/
def all : List StepStatus := [.success, .failed]

/-- The name of a status. -/
def name : StepStatus → String
  | .success => "success"
  | .failed => "failed"

/-- Statuses by name. -/
def codec : Codec StepStatus := .choice (all.map name) (fun s => all.find? (·.name = s)) name

end StepStatus

/-- What a visit of a node did. -/
structure StepResult where
  nodeId : String
  nodeKind : String
  status : StepStatus
  input : Option (Entries Value) := none
  output : Option (Entries Value) := none
  error : Option String := none
  errorKind : Option String := none
  attempts : Int := 1
  /-- The index of the loop iteration around the node. -/
  iteration : Option Int := none
  startedAt : Time.Stamp
  durationMs : Int := 0
deriving DecidableEq, Inhabited

/-- Step results. -/
def StepResult.codec : Codec StepResult := .record "StepResult" <|
  StepResult.mk
    <$> .required ⟨"node_id", "nodeId"⟩ (·.nodeId) .text
    <*> .required ⟨"node_type", "nodeType"⟩ (·.nodeKind) .text
    <*> .required (.plain "status") (·.status) StepStatus.codec
    <*> .optional (.plain "input") (·.input) (.dictionary .any)
    <*> .optional (.plain "output") (·.output) (.dictionary .any)
    <*> .optional (.plain "error") (·.error) .text
    <*> .optional ⟨"error_kind", "errorKind"⟩ (·.errorKind) .text
    <*> .default (.plain "attempts") (·.attempts) .integer 1
    <*> .optional (.plain "iteration") (·.iteration) .integer
    <*> .required ⟨"started_at", "startedAt"⟩ (·.startedAt) .time
    <*> .default ⟨"duration_ms", "durationMs"⟩ (·.durationMs) .integer 0

/-! ## Continuations -/

/-- All that is needed to go on with a suspended run. -/
structure Continuation (τ : Type) where
  runId : String
  workflow : Entries Value
  event : Entries Value
  resumeNode : Option String := none
  resumeAt : Time.Stamp
  context : Entries Value
  stepResults : List (Entries Value) := []
  stepsVisited : Int := 0
  activeMs : τ
  startedAt : Time.Stamp
deriving DecidableEq, Inhabited

/-- Continuations. -/
def Continuation.codec {τ : Type} [ActiveTime τ] : Codec (Continuation τ) :=
  .record "RunContinuation" <|
  Continuation.mk
    <$> .required ⟨"run_id", "runId"⟩ (·.runId) .text
    <*> .required (.plain "workflow") (·.workflow) (.dictionary .any)
    <*> .required (.plain "event") (·.event) (.dictionary .any)
    <*> .optional ⟨"resume_node_id", "resumeNodeId"⟩ (·.resumeNode) .text
    <*> .required ⟨"resume_at", "resumeAt"⟩ (·.resumeAt) .time
    <*> .required (.plain "context") (·.context) (.dictionary .any)
    <*> .default ⟨"step_results", "stepResults"⟩ (·.stepResults) (.list (.dictionary .any)) []
    <*> .default ⟨"steps_visited", "stepsVisited"⟩ (·.stepsVisited) .integer 0
    <*> .default ⟨"active_ms", "activeMs"⟩ (·.activeMs) ActiveTime.codec
        ActiveTime.zero
    <*> .required ⟨"started_at", "startedAt"⟩ (·.startedAt) .time

/-! ## Runs -/

/-- How a run stands. -/
inductive RunStatus where
  | success
  | failed
  | suspended
  | running
deriving DecidableEq, Repr, Inhabited

namespace RunStatus

/-- All statuses. -/
def all : List RunStatus := [.success, .failed, .suspended, .running]

/-- The name of a status. -/
def name : RunStatus → String
  | .success => "success"
  | .failed => "failed"
  | .suspended => "suspended"
  | .running => "running"

/-- Statuses by name. -/
def codec : Codec RunStatus := .choice (all.map name) (fun s => all.find? (·.name = s)) name

end RunStatus

/-- The result of a run or of a resumed part of one. -/
structure RunResult (τ : Type) where
  runId : String
  workflowId : Option String := none
  status : RunStatus
  stepResults : List StepResult := []
  error : Option String := none
  durationMs : Int := 0
  startedAt : Time.Stamp
  continuation : Option (Continuation τ) := none
deriving DecidableEq, Inhabited

/-- Results of runs. -/
def RunResult.codec {τ : Type} [ActiveTime τ] : Codec (RunResult τ) := .record "ExecutionResult" <|
  RunResult.mk
    <$> .required ⟨"run_id", "runId"⟩ (·.runId) .text
    <*> .optional ⟨"workflow_id", "workflowId"⟩ (·.workflowId) .text
    <*> .required (.plain "status") (·.status) RunStatus.codec
    <*> .default ⟨"step_results", "stepResults"⟩ (·.stepResults) (.list StepResult.codec) []
    <*> .optional (.plain "error") (·.error) .text
    <*> .default ⟨"duration_ms", "durationMs"⟩ (·.durationMs) .integer 0
    <*> .required ⟨"started_at", "startedAt"⟩ (·.startedAt) .time
    <*> .optional (.plain "continuation") (·.continuation) Continuation.codec

end Automation
