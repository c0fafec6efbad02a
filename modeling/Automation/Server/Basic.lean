import Automation.Aborts
import Automation.Jobs
import Automation.Rehearsal
import Automation.Settings
import Automation.Store.Runs

/-!
# Servers

A server holds the store, the jobs, the abort flags and the tasks of the runs that are under way.
Its clock moves only when a task has nothing to do but to wait, and the systems around it follow a
script.
-/

namespace Automation

variable {τ : Type}

/-! ## Tasks -/

/-- How runs are dispatched. -/
structure Dispatcher where
  retry : RetryPolicy := {}
  /-- Whether long pauses suspend runs until a job resumes them. -/
  suspends : Bool := true
  /-- Whether runs can be aborted. -/
  aborts : Bool := true

/-- What a task is for. -/
inductive TaskKind where
  /-- A run that nobody waits for. -/
  | background
  /-- A run that is tried out. -/
  | test
  /-- The rest of a suspended run. -/
  | resumption
deriving DecidableEq, Repr

/-- A run that is under way. -/
structure Task (τ : Type) where
  number : Nat
  kind : TaskKind
  dispatcher : Dispatcher
  runId : String
  workflow : Definition
  event : Event
  /-- Whether the run has been inserted into the store. -/
  started : Bool
  /-- The reading of the clock up to which the task waits. -/
  wakesAt : Nat
  /-- When it began to wait, as a count of all tasks that did. -/
  turn : Nat
  /-- What is left of the run. -/
  rest : Dialogue (Except Escape (RunResult τ))

/-- Whether one task goes on before another: it wakes earlier, or has waited longer. -/
def Task.precedes (t u : Task τ) : Bool :=
  t.wakesAt < u.wakesAt || (t.wakesAt == u.wakesAt && t.turn < u.turn)

/-! ## Servers -/

/-- A server. -/
structure Server (τ : Type) where
  settings : Settings
  /-- The moment at which the clock reads zero. -/
  origin : Int
  /-- The reading of the clock, in microseconds. -/
  elapsed : Nat := 0
  store : Store τ := {}
  flags : AbortFlags := {}
  scheduler : Scheduler τ := {}
  dispatcher : Option Dispatcher := none
  tasks : List (Task τ) := []
  /-- How many times a task began to wait. -/
  turns : Nat := 0
  script : Script := {}
  /-- The calls so far, the last first, each with its time. -/
  calls : List (Nat × Call) := []

namespace Server

/-- The present. -/
def now (s : Server τ) : Time.Stamp := Time.Stamp.ofInstant (s.origin + s.elapsed)

/-- Begin to serve: jobs are done from now on, and runs are dispatched. -/
def serve (s : Server τ) : Server τ :=
  { s with scheduler := s.scheduler.start, dispatcher := some { retry := s.settings.retry } }

/-- The engine of a dispatcher. -/
def engine (s : Server τ) (d : Dispatcher) : Engine where
  origin := s.origin
  places := s.settings.places
  retry := d.retry
  watchesAborts := d.aborts
  suspendFrom := if d.suspends then some s.settings.suspendFrom else none
  maxSteps := s.settings.maxSteps
  maxActive := .float s.settings.maxActiveSeconds
  maxDepth := s.settings.maxDepth

/-- The engine of a dispatcher for tests, in which pauses are told and not waited for. -/
def testEngine (s : Server τ) (d : Dispatcher) : Engine :=
  { s.engine d with skipsPauses := true, suspendFrom := none }

/-- Make a call. Its answer is there at the reading that is given with it. -/
def call (s : Server τ) (c : Call) (timeout : Float) : Option Answer × Nat × Server τ :=
  let (answer, span, script) := s.script.reply c timeout
  (answer, s.elapsed + span, { s with script, calls := (s.elapsed, c) :: s.calls })

end Server

/-! ## Services -/

/-- A computation on a server that may fail. -/
abbrev Service (τ α : Type) := ExceptT Failed (StateM (Server τ)) α

namespace Service

variable {α : Type}

/-- An operation on the store of a server. -/
def store (op : Operation τ α) : Service τ α := fun s =>
  let (result, store) := op.run s.store
  (result, { s with store })

/-- The dispatcher of a server, if runs are dispatched. -/
def dispatcher : Service τ Dispatcher := do
  match (← get).dispatcher with
  | some d => return d
  | none => throw .notReady

end Service

end Automation
