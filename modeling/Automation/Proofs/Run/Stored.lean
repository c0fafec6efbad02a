import Automation.Proofs.Definition.Reading
import Automation.Proofs.Definition.RoundTrip
import Automation.Proofs.Time.WireReading
import Automation.Run.Start

/-!
# What is stored of a run

A suspended run lies in the store as a continuation. Whatever the run has been up to then can be
stored, and the state that is restored is the old one: only the clock of the segment starts anew
(`Engine.restore_continuationOf`). Active time comes back as it was if its arithmetic is exact
(`RunState.revive_eq_wake`).
-/

namespace Automation

open Schema Schema.Fields

variable {layout : Layout} {τ : Type}

/-! ## Events -/

/-- The time of an event, if it has one, can be stored. -/
def Event.Storable (e : Event) : Prop := ∀ t ∈ e.occurredAt, t.Storable

theorem Event.codec_restores {e : Event} (h : e.Storable) : Event.codec.Restores layout e :=
  .record (by decide)
    (Restores.map (.required (.text _))
      |>.seq (.optional fun _ _ => .text _)
      |>.seq (.optional fun _ _ => .text _)
      |>.seq (.optional fun _ _ => .flag _)
      |>.seq (.optional fun _ _ => .flag _)
      |>.seq (.optional fun _ _ => .flag _)
      |>.seq (.optional fun _ _ => .text _)
      |>.seq (.optional fun _ _ => .number _)
      |>.seq (.default (.anyDictionary _))
      |>.seq (.default (.anyDictionary _))
      |>.seq (.optional fun t ht => .time (h t ht)))
    rfl

/-- Whatever is read as an event can be stored. -/
theorem Event.codec_ensures : Event.codec.Ensures Event.Storable :=
  .record <|
    (Ensures.map (.any _)
      |>.seq (.any _)
      |>.seq (.any _)
      |>.seq (.any _)
      |>.seq (.any _)
      |>.seq (.any _)
      |>.seq (.any _)
      |>.seq (.any _)
      |>.seq (.any _)
      |>.seq (.any _)
      |>.seq (.optional .time)).mono (by
        rintro e ⟨_, occurredAt, ⟨_, _, ⟨_, _, ⟨_, _, ⟨_, _, ⟨_, _, ⟨_, _, ⟨_, _, ⟨_, _, ⟨_, _,
          ⟨_, _, rfl⟩, _, rfl⟩, _, rfl⟩, _, rfl⟩, _, rfl⟩, _, rfl⟩, _, rfl⟩, _, rfl⟩, _, rfl⟩, _,
          rfl⟩, htime, rfl⟩
        exact htime)

/-! ## Steps -/

theorem StepStatus.codec_restores (s : StepStatus) : StepStatus.codec.Restores layout s :=
  .choice (by cases s <;> rfl)

theorem StepResult.codec_restores {r : StepResult} (h : r.startedAt.Storable) :
    StepResult.codec.Restores layout r :=
  .record (by decide)
    (Restores.map (.required (.text _))
      |>.seq (.required (.text _))
      |>.seq (.required (StepStatus.codec_restores _))
      |>.seq (.optional fun _ _ => .anyDictionary _)
      |>.seq (.optional fun _ _ => .anyDictionary _)
      |>.seq (.optional fun _ _ => .text _)
      |>.seq (.optional fun _ _ => .text _)
      |>.seq (.default (.integer _))
      |>.seq (.optional fun _ _ => .integer _)
      |>.seq (.required (.time h))
      |>.seq (.default (.integer _)))
    rfl

/-! ## Continuations -/

/-- Active time that the store gives back as it was put there. -/
class ActiveTime.Storable (τ : Type) [ActiveTime τ] : Prop where
  codec_restores (layout : Layout) (x : τ) : (ActiveTime.codec (τ := τ)).Restores layout x

/-- Active time of which nothing is lost when it is changed into milliseconds and back. -/
class ActiveTime.Exact (τ : Type) [ActiveTime τ] : Prop extends ActiveTime.Storable τ where
  ofMillis_toMillis (x : τ) : ActiveTime.ofMillis (ActiveTime.toMillis x) = x

instance : ActiveTime.Storable Float := ⟨fun _ x => .number x⟩

section Continuations

variable [ActiveTime τ]

/-- The continuation that is read from the store where this one was put. -/
def Continuation.reload (c : Continuation τ) : Checked (Continuation τ) :=
  Continuation.codec.read (Continuation.codec.write .plain c)

theorem Continuation.names_separate :
    Separate [⟨"run_id", "runId"⟩, .plain "workflow", .plain "event",
      ⟨"resume_node_id", "resumeNodeId"⟩, ⟨"resume_at", "resumeAt"⟩, .plain "context",
      ⟨"step_results", "stepResults"⟩, ⟨"steps_visited", "stepsVisited"⟩,
      ⟨"active_ms", "activeMs"⟩, ⟨"started_at", "startedAt"⟩] := by
  decide

theorem Continuation.codec_restores [ActiveTime.Storable τ] {c : Continuation τ}
    (hresume : c.resumeAt.Storable) (hstart : c.startedAt.Storable) :
    Continuation.codec.Restores layout c :=
  .record names_separate
    (Restores.map (.required (.text _))
      |>.seq (.required (.anyDictionary _))
      |>.seq (.required (.anyDictionary _))
      |>.seq (.optional fun _ _ => .text _)
      |>.seq (.required (.time hresume))
      |>.seq (.required (.anyDictionary _))
      |>.seq (.default (.list fun _ _ => .anyDictionary _))
      |>.seq (.default (.integer _))
      |>.seq (.default (ActiveTime.Storable.codec_restores layout _))
      |>.seq (.required (.time hstart)))
    rfl

end Continuations

/-! ## Contexts -/

/-- What is written of an event has fields, so it is not taken for nothing. -/
theorem Event.write_full (e : Event) :
    (Event.codec.write .full e).isEmptyLike = false := rfl

/-- A context of mappings is restored as it was stored. -/
theorem Context.ofEntries_toValue {c : Context} (h : c.event.Storable) (hodd : c.odd = {}) :
    Context.ofEntries (c.toValue.fields?.getD []) = .ok c := by
  have hevent : Event.codec.read (Event.codec.write .full c.event) = .ok c.event :=
    (Event.codec_restores h).read
  have hget : Entries.get? "event" (c.toValue.fields?.getD [])
      = some (Event.codec.write .full c.event) := rfl
  have hrun : Entries.get? "run_id" (c.toValue.fields?.getD []) = some c.runId := rfl
  unfold Context.ofEntries
  simp only [hrun, hget, Option.getD_some, Event.write_full, Bool.false_eq_true, if_false, hevent]
  clear hevent hget hrun
  obtain ⟨runId, event, workflowId, tenantId, vars, outputs, locals, system, odd⟩ := c
  obtain rfl : odd = {} := hodd
  rfl

/-! ## States -/

/-- A state of which all can be stored. -/
structure RunState.Storable (s : RunState τ) : Prop where
  workflow : s.workflow.WellFormed
  event : s.context.event.Storable
  regular : s.context.odd = {}
  startedAt : s.startedAt.Storable
  steps : ∀ step ∈ s.stepResults, step.startedAt.Storable

/-- The state in which a run that was suspended at one reading of the clock goes on in memory at
another: no walk is around the one that goes on, and the time between the two does not count. -/
def RunState.wake [ActiveTime τ] (s : RunState τ) (suspended woken : Nat) : RunState τ where
  runId := s.runId
  workflow := s.workflow
  context := { s.context with locals := [] }
  startedAt := s.startedAt
  stepResults := s.stepResults
  stepsVisited := s.stepsVisited
  activeBefore := s.active suspended
  segmentStart := woken
  paused := ActiveTime.zero

/-- The same with the active time changed into milliseconds and back, as the store does it. -/
def RunState.revive [ActiveTime τ] (s : RunState τ) (suspended woken : Nat) : RunState τ :=
  { s.wake suspended woken with
    activeBefore := ActiveTime.ofMillis (ActiveTime.toMillis (s.active suspended)) }

theorem RunState.revive_eq_wake [ActiveTime τ] [ActiveTime.Exact τ] (s : RunState τ)
    (suspended woken : Nat) : s.revive suspended woken = s.wake suspended woken := by
  rw [revive, ActiveTime.Exact.ofMillis_toMillis]
  rfl

namespace Engine

variable [ActiveTime τ] {s : RunState τ} {next : Option String} {resumeAt : Time.Stamp}

theorem reload_continuationOf [ActiveTime.Storable τ] {reading : Nat} (h : s.startedAt.Storable)
    (hresume : resumeAt.Storable) :
    (continuationOf s next resumeAt reading).reload = .ok (continuationOf s next resumeAt reading) :=
  (Continuation.codec_restores hresume h).read

/-- The entries of a step as they are stored. -/
def storedStep (step : StepResult) : Entries Value :=
  (StepResult.codec.write .plain step).fields?.getD []

theorem restored_steps {steps : List StepResult} (h : ∀ step ∈ steps, step.startedAt.Storable) :
    (steps.map storedStep).mapM (fun step =>
      restored "StepResult" (StepResult.codec.read (Value.object step))) = .ok steps := by
  induction steps with
  | nil => rfl
  | cons step steps ih =>
    have hfields : Value.object (storedStep step) = StepResult.codec.write .plain step := rfl
    have hread : StepResult.codec.read (StepResult.codec.write .plain step) = .ok step :=
      (StepResult.codec_restores (h step List.mem_cons_self)).read
    rw [List.map_cons, List.mapM_cons, hfields, hread, ih fun x hx => h x (List.mem_cons_of_mem step hx)]
    rfl

/-- A suspended run is restored as it was. -/
theorem restore_continuationOf {suspended woken : Nat} (h : s.Storable)
    (hlocals : s.context.locals = []) :
    restore (continuationOf s next resumeAt suspended) woken = .ok (s.revive suspended woken) := by
  have hfields : Value.object (s.workflow.wire.fields?.getD []) = s.workflow.wire := rfl
  have hworkflow : Definition.codec.read s.workflow.wire = .ok s.workflow :=
    (Definition.codec_restores h.workflow).read
  have hsteps := restored_steps h.steps
  unfold storedStep at hsteps
  unfold restore continuationOf
  dsimp only
  rw [hfields, hworkflow]
  unfold restoredContext
  rw [Context.ofEntries_toValue h.event h.regular, hsteps]
  -- The locals are not stored: what is restored has none, and neither had the suspended run.
  unfold RunState.revive RunState.wake
  rw [← hlocals]
  rfl

end Engine

end Automation
