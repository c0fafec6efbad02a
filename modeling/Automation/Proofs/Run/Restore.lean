import Automation.Proofs.Run.Escape

/-!
# What can be restored

The parts of a continuation come back from the store as plain maps, and each is read when the run goes
on. What cannot be read is told as a failure of the run, but three things come out of it as they are:
a context that names no run, a start without an offset, and an id of the workflow that is no text
(`Engine.resume_escapes_iff`).
-/

namespace Automation

open Schema

variable {τ : Type}

/-! ## Stored contexts -/

namespace Context

/-- The event of a stored context, as it stands there. A context that was stored without its event has
one that was started by hand. -/
def storedEvent (data : Entries Value) : Value :=
  let stored := (data.get? "event").getD .null
  if stored.isEmptyLike then .object [("type", .text "manual")] else stored

theorem ofEntries_noRunId {data : Entries Value} :
    ofEntries data = .error .noRunId ↔ data.get? "run_id" = none := by
  unfold ofEntries
  split
  · simp [*]
  · rename_i hid
    dsimp only
    split <;> simp [hid]

theorem ofEntries_badEvent {data : Entries Value} {issues : List Issue} :
    ofEntries data = .error (.badEvent issues) ↔ data.get? "run_id" ≠ none ∧
      Codec.read Event.codec (storedEvent data) = .bad issues := by
  unfold ofEntries storedEvent
  split
  · simp [*]
  · rename_i hid
    dsimp only
    split <;> rename_i hread <;> simp [hid, hread]

theorem ofEntries_isOk {data : Entries Value} :
    (∃ c, ofEntries data = .ok c) ↔ data.get? "run_id" ≠ none ∧
      ∃ event, Codec.read Event.codec (storedEvent data) = .ok event := by
  unfold ofEntries storedEvent
  split
  · simp [*]
  · rename_i hid
    dsimp only
    split <;> rename_i hread <;> simp [hid, hread]

end Context

/-! ## Parts of continuations -/

/-- The definition of a continuation can be read. -/
def Continuation.Defined (c : Continuation τ) : Prop :=
  ∃ d, Codec.read Definition.codec (Value.object c.workflow) = .ok d

/-- The context of a continuation names a run. -/
def Continuation.Named (c : Continuation τ) : Prop := c.context.get? "run_id" ≠ none

/-- A step of a continuation can be read. -/
def StepResult.Readable (step : Entries Value) : Prop :=
  ∃ r, Codec.read StepResult.codec (Value.object step) = .ok r

/-- All that is read of a continuation can be read. -/
structure Continuation.Restorable (c : Continuation τ) : Prop where
  workflow : c.Defined
  named : c.Named
  event : ∃ event, Codec.read Event.codec (Context.storedEvent c.context) = .ok event
  steps : ∀ step ∈ c.stepResults, StepResult.Readable step

/-- The first part of a continuation that cannot be read, by the name of its shape, and its issues. -/
inductive Continuation.Misshapen (c : Continuation τ) : String → List Issue → Prop where
  | workflow {issues : List Issue}
      (h : Codec.read Definition.codec (Value.object c.workflow) = .bad issues) :
      Misshapen c "WorkflowDefinition" issues
  | event {issues : List Issue} (hworkflow : c.Defined) (hnamed : c.Named)
      (h : Codec.read Event.codec (Context.storedEvent c.context) = .bad issues) :
      Misshapen c "TriggerEvent" issues
  | step {issues : List Issue} {before after : List (Entries Value)} {step : Entries Value}
      (hworkflow : c.Defined) (hnamed : c.Named)
      (hevent : ∃ event, Codec.read Event.codec (Context.storedEvent c.context) = .ok event)
      (hsteps : c.stepResults = before ++ step :: after)
      (hbefore : ∀ step ∈ before, StepResult.Readable step)
      (h : Codec.read StepResult.codec (Value.object step) = .bad issues) :
      Misshapen c "StepResult" issues

/-- What comes out of a run that should go on. -/
inductive Continuation.Escapes (c : Continuation τ) : Escape → Prop where
  | noRunId (hworkflow : c.Defined) (hnamed : ¬c.Named) : Escapes c .noRunId
  | naiveStart (hnamed : c.Defined → c.Named) (hstart : c.startedAt.offset = none) :
      Escapes c .naiveStart
  /-- The failure of what cannot be restored is told with an id that is no text. -/
  | badId {name : String} {issues : List Issue} {id : Value} (hshape : c.Misshapen name issues)
      (hstart : c.startedAt.offset ≠ none) (hid : c.workflow.get? "id" = some id)
      (hnull : id ≠ .null) (htext : ∀ s, id ≠ .text s) :
      Escapes c (.badResult [⟨[.field "workflow_id"], .text⟩])

section Parts

variable {c : Continuation τ} {name : String} {issues : List Issue}

theorem Continuation.Misshapen.not_restorable (h : c.Misshapen name issues) : ¬c.Restorable := by
  rintro ⟨⟨d, hworkflow⟩, -, ⟨event, hevent⟩, hsteps⟩
  cases h with
  | workflow h =>
    rw [hworkflow] at h
    cases h
  | event _ _ h =>
    rw [hevent] at h
    cases h
  | step _ _ _ hsplit _ h =>
    have hmem := hsplit ▸ List.mem_append_cons_self
    obtain ⟨r, hr⟩ := hsteps _ hmem
    rw [hr] at h
    cases h

theorem Continuation.Misshapen.named (h : c.Misshapen name issues) (hd : c.Defined) : c.Named := by
  cases h with
  | workflow h =>
    obtain ⟨d, hread⟩ := hd
    rw [hread] at h
    cases h
  | event _ hnamed => exact hnamed
  | step _ hnamed => exact hnamed

theorem Continuation.Escapes.unique {x y : Escape} (hx : c.Escapes x) (hy : c.Escapes y) :
    x = y := by
  cases hx with
  | noRunId hd hc =>
    cases hy with
    | noRunId => rfl
    | naiveStart hnamed => exact absurd (hnamed hd) hc
    | badId hshape => exact absurd (hshape.named hd) hc
  | naiveStart hnamed hnone =>
    cases hy with
    | noRunId hd hc => exact absurd (hnamed hd) hc
    | naiveStart => rfl
    | badId _ hsome => exact absurd hnone hsome
  | badId hshape hsome =>
    cases hy with
    | noRunId hd hc => exact absurd (hshape.named hd) hc
    | naiveStart _ hnone => exact absurd hnone hsome
    | badId => rfl

/-- A continuation that names its run, its start and its workflow as it should is always told. -/
theorem Continuation.not_escapes (workflowId : Option String) (hnamed : c.Named)
    (hstart : c.startedAt.offset ≠ none)
    (hid : (c.workflow.get? "id").getD .null = Value.optText workflowId) (x : Escape) :
    ¬c.Escapes x := by
  intro h
  cases h with
  | noRunId _ hunnamed => exact hunnamed hnamed
  | naiveStart _ hnone => exact hstart hnone
  | badId _ _ hfound hnull htext =>
    rw [hfound] at hid
    cases workflowId with
    | none => exact hnull hid
    | some s => exact htext s hid

end Parts

namespace Engine

/-! ## Restoring -/

/-- The steps of a continuation, one after the other. -/
def restoredSteps (steps : List (Entries Value)) : Except RestoreIssue (List StepResult) :=
  steps.mapM fun step => restored "StepResult" (StepResult.codec.read (Value.object step))

/-- Either all steps are read, or there is a first one that is not. -/
theorem restoredSteps_cases (steps : List (Entries Value)) :
    (∃ rs, restoredSteps steps = .ok rs ∧ ∀ step ∈ steps, StepResult.Readable step) ∨
      ∃ issues before step after, restoredSteps steps = .error (.shape "StepResult" issues) ∧
        steps = before ++ step :: after ∧ (∀ step ∈ before, StepResult.Readable step) ∧
        Codec.read StepResult.codec (Value.object step) = .bad issues := by
  induction steps with
  | nil => exact .inl ⟨[], rfl, List.forall_mem_nil _⟩
  | cons step steps ih =>
    have hcons : restoredSteps (step :: steps) = do
        let r ← restored "StepResult" (StepResult.codec.read (Value.object step))
        return r :: (← restoredSteps steps) := List.mapM_cons
    cases hread : Codec.read StepResult.codec (Value.object step) with
    | bad issues =>
      refine .inr ⟨issues, [], step, steps, ?_, rfl, List.forall_mem_nil _, hread⟩
      rw [hcons, hread]
      rfl
    | ok r =>
      rw [hcons, hread]
      rcases ih with ⟨rs, hrs, hall⟩ | ⟨issues, before, bad, after, hrs, rfl, hbefore, hbad⟩
      · refine .inl ⟨r :: rs, ?_, List.forall_mem_cons.mpr ⟨⟨r, hread⟩, hall⟩⟩
        rw [hrs]
        rfl
      · refine .inr ⟨issues, step :: before, bad, after, ?_, rfl,
          List.forall_mem_cons.mpr ⟨⟨r, hread⟩, hbefore⟩, hbad⟩
        rw [hrs]
        rfl

variable [ActiveTime τ] {e : Engine} {c : Continuation τ} {t : List Exchange}
  {result : Except Escape (RunResult τ)}

/-- A continuation is restored, or it names no run, or some part of it is misshapen. -/
theorem restore_cases (c : Continuation τ) (reading : Nat) :
    (c.Restorable ∧ ∃ s, restore c reading = .ok s) ∨
    ((c.Defined ∧ ¬c.Named) ∧ restore c reading = .error .noRunId) ∨
    ∃ name issues, c.Misshapen name issues ∧
      restore c reading = .error (.shape name issues) := by
  have hrestore : restore c reading = do
      let workflow ← restored "WorkflowDefinition" (Definition.codec.read (Value.object c.workflow))
      let context ← restoredContext c.context
      let stepResults ← restoredSteps c.stepResults
      return { runId := c.runId, workflow, context, startedAt := c.startedAt, stepResults
               stepsVisited := c.stepsVisited, activeBefore := ActiveTime.ofMillis c.activeMs
               segmentStart := reading, paused := ActiveTime.zero } := rfl
  -- The parts are read in this order, and the first one that cannot be read decides.
  cases hworkflow : Codec.read Definition.codec (Value.object c.workflow) with
  | bad issues =>
    refine .inr (.inr ⟨_, issues, .workflow hworkflow, ?_⟩)
    rw [hrestore, hworkflow]
    rfl
  | ok d =>
    rw [hworkflow] at hrestore
    cases hcontext : Context.ofEntries c.context with
    | error fault =>
      cases fault with
      | noRunId =>
        have hnamed : ¬c.Named := not_not.mpr (Context.ofEntries_noRunId.mp hcontext)
        refine .inr (.inl ⟨⟨⟨d, hworkflow⟩, hnamed⟩, ?_⟩)
        rw [hrestore, restoredContext, hcontext]
        rfl
      | badEvent issues =>
        obtain ⟨hnamed, hevent⟩ := Context.ofEntries_badEvent.mp hcontext
        refine .inr (.inr ⟨_, issues, .event ⟨d, hworkflow⟩ hnamed hevent, ?_⟩)
        rw [hrestore, restoredContext, hcontext]
        rfl
    | ok context =>
      obtain ⟨hnamed, hevent⟩ := Context.ofEntries_isOk.mp ⟨context, hcontext⟩
      rw [restoredContext, hcontext] at hrestore
      rcases restoredSteps_cases c.stepResults with
        ⟨rs, hrs, hall⟩ | ⟨issues, before, step, after, hrs, hsplit, hbefore, hbad⟩
      · refine .inl ⟨⟨⟨d, hworkflow⟩, hnamed, hevent, hall⟩, ?_⟩
        rw [hrs] at hrestore
        exact ⟨_, hrestore⟩
      · refine .inr (.inr ⟨_, issues, .step ⟨d, hworkflow⟩ hnamed hevent hsplit hbefore hbad, ?_⟩)
        rw [hrestore, hrs]
        rfl

/-! ## Going on -/

omit [ActiveTime τ] in
theorem storedWorkflowId_cases (c : Continuation τ) :
    (∃ id, c.workflow.get? "id" = some id ∧ id ≠ .null ∧ (∀ s, id ≠ .text s) ∧
      storedWorkflowId c = .error (.badResult [⟨[.field "workflow_id"], .text⟩])) ∨
    ∃ workflowId, (c.workflow.get? "id").getD .null = Value.optText workflowId ∧
      storedWorkflowId c = .ok workflowId := by
  unfold storedWorkflowId
  cases hid : c.workflow.get? "id" with
  | none => exact .inr ⟨none, rfl, rfl⟩
  | some id =>
    cases id with
    | null => exact .inr ⟨none, rfl, rfl⟩
    | text s => exact .inr ⟨some s, rfl, rfl⟩
    | _ => exact .inl ⟨_, rfl, nofun, nofun, rfl⟩

omit [ActiveTime τ] in
theorem elapsedMs_cases (e : Engine) (startedAt : Time.Stamp) (reading : Nat) :
    (startedAt.offset = none ∧ e.elapsedMs startedAt reading = .error .naiveStart) ∨
      startedAt.offset ≠ none ∧ ∃ durationMs, e.elapsedMs startedAt reading = .ok durationMs := by
  unfold elapsedMs
  split <;> rename_i h <;> simp [h]

omit [ActiveTime τ] in
/-- A result is told if its length can be. -/
theorem finish_cases {runId : String} {workflowId : Option String} {startedAt : Time.Stamp}
    {steps : List StepResult} {status : RunStatus} {error : Option String}
    {continuation : Option (Continuation τ)}
    (h : (e.finish runId workflowId startedAt steps status error continuation).Course t result) :
    (startedAt.offset = none ∧ result = .error .naiveStart) ∨
      startedAt.offset ≠ none ∧ ∃ durationMs, result = .ok
        { runId, workflowId, status, stepResults := steps, error, durationMs, startedAt,
          continuation } := by
  obtain ⟨reading, t₁, t₂, rfl, hclock, hpure⟩ := Dialogue.course_bind.mp h
  obtain ⟨rfl, rfl⟩ := Dialogue.course_pure.mp hpure
  rcases elapsedMs_cases e startedAt reading with ⟨hstart, hms⟩ | ⟨hstart, durationMs, hms⟩
  · exact .inl ⟨hstart, by rw [hms]; rfl⟩
  · exact .inr ⟨hstart, durationMs, by rw [hms]; rfl⟩

/-- A segment is told if its length can be, whatever its walk comes to. -/
theorem execute_cases {s : RunState τ} {start : Option String}
    (h : (e.execute s start).Course t result) :
    (s.startedAt.offset = none ∧ result = .error .naiveStart) ∨
      s.startedAt.offset ≠ none ∧ ∃ told, result = .ok told := by
  obtain ⟨held, hgoes⟩ := execute_course.mp h
  have hclose : ∃ (s' : RunState τ) (status : RunStatus) (error : Option String)
      (continuation : Option (Continuation τ)) (t' : List Exchange),
      s'.startedAt = s.startedAt ∧ (e.close s' status error continuation).Course t' result := by
    cases hgoes with
    | finished hw hc => exact ⟨_, _, _, _, _, walks_startedAt hw, hc⟩
    | failed hw _ hc => exact ⟨_, _, _, _, _, walks_startedAt hw, hc⟩
    | suspended held hw hc => exact ⟨_, _, _, _, _, walks_startedAt hw, hc⟩
  obtain ⟨s', status, error, continuation, t', hstart, hc⟩ := hclose
  rw [← hstart]
  exact (finish_cases hc).imp_right fun ⟨hsome, _, htold⟩ => ⟨hsome, _, htold⟩

/-- What is told of a continuation that cannot be restored. -/
structure TellsUnrestored (c : Continuation τ) (told : RunResult τ) : Prop where
  id : told.runId = c.runId
  workflowId : (c.workflow.get? "id").getD .null = Value.optText told.workflowId
  status : told.status = .failed
  steps : told.stepResults = []
  startedAt : told.startedAt = c.startedAt
  continuation : told.continuation = none
  error : ∃ name issues, c.Misshapen name issues ∧
    told.error = some ("Suspended run could not be restored: " ++ summary name issues)

theorem restore_startedAt {s : RunState τ} {reading : Nat} (h : restore c reading = .ok s) :
    s.startedAt = c.startedAt := by
  obtain ⟨workflow, -, h⟩ := Except.bind_eq_ok.mp h
  obtain ⟨context, -, h⟩ := Except.bind_eq_ok.mp h
  obtain ⟨steps, -, h⟩ := Except.bind_eq_ok.mp h
  obtain rfl := Except.ok.inj h
  rfl

/-- The ways in which a run can be asked to go on. -/
inductive Resumes (e : Engine) (c : Continuation τ) :
    List Exchange → Except Escape (RunResult τ) → Prop where
  | restored {t : List Exchange} {result : Except Escape (RunResult τ)} {s : RunState τ}
      (hc : c.Restorable) (hstart : s.startedAt = c.startedAt)
      (h : (e.execute s c.resumeNode).Course t result) : Resumes e c t result
  | unnamed (hd : c.Defined) (hc : ¬c.Named) : Resumes e c [] (.error .noRunId)
  | untold {name : String} {issues : List Issue} {id : Value} (hc : c.Misshapen name issues)
      (hid : c.workflow.get? "id" = some id) (hnull : id ≠ .null) (htext : ∀ s, id ≠ .text s) :
      Resumes e c [] (.error (if c.startedAt.offset = none then .naiveStart
        else .badResult [⟨[.field "workflow_id"], .text⟩]))
  | told {t : List Exchange} {result : Except Escape (RunResult τ)} {name : String}
      {issues : List Issue} {workflowId : Option String} (hc : c.Misshapen name issues)
      (hid : (c.workflow.get? "id").getD .null = Value.optText workflowId)
      (h : (e.finish c.runId workflowId c.startedAt [] .failed
        (some ("Suspended run could not be restored: " ++ summary name issues)) none).Course
          t result) : Resumes e c t result

theorem resume_cases (h : (e.resume c).Course t result) :
    ∃ (reading : Nat) (t' : List Exchange), t = ⟨.clock, reading⟩ :: t' ∧
      e.Resumes c t' result := by
  unfold resume at h
  obtain ⟨reading, t₁, t', rfl, hclock, hrest⟩ := Dialogue.course_bind.mp h
  obtain rfl := Dialogue.course_clock.mp hclock
  refine ⟨reading, t', rfl, ?_⟩
  rcases restore_cases c reading with ⟨hc, s, hs⟩ | ⟨⟨hd, hc⟩, hs⟩ | ⟨name, issues, hc, hs⟩
  · rw [hs] at hrest
    exact .restored hc (restore_startedAt hs) hrest
  · rw [hs] at hrest
    obtain ⟨rfl, rfl⟩ := Dialogue.course_done.mp hrest
    exact .unnamed hd hc
  · rw [hs] at hrest
    dsimp only at hrest
    rcases storedWorkflowId_cases c with ⟨id, hid, hnull, htext, hbad⟩ | ⟨workflowId, hid, hok⟩
    · rw [hbad] at hrest
      obtain ⟨rfl, rfl⟩ := Dialogue.course_done.mp hrest
      exact .untold hc hid hnull htext
    · rw [hok] at hrest
      exact .told hc hid hrest

/-- What goes on is told, or it does not go on for one of the reasons why it cannot. -/
theorem Resumes.outcome (h : e.Resumes c t result) :
    (∃ escape, result = .error escape ∧ c.Escapes escape) ∨
      ∃ told, result = .ok told ∧ (∀ escape, ¬c.Escapes escape) ∧
        (¬c.Restorable → TellsUnrestored c told ∧ ∀ x ∈ t, x.IsClock) := by
  cases h with
  | restored hc hstart h =>
    rcases execute_cases h with ⟨hnone, rfl⟩ | ⟨hsome, told, rfl⟩
    · exact .inl ⟨_, rfl, .naiveStart (fun _ => hc.named) (hstart ▸ hnone)⟩
    · refine .inr ⟨told, rfl, fun escape hescape => ?_, absurd hc⟩
      cases hescape with
      | noRunId _ hnamed => exact hnamed hc.named
      | naiveStart _ hnone => exact hsome (hstart ▸ hnone)
      | badId hshape => exact hshape.not_restorable hc
  | unnamed hd hc => exact .inl ⟨_, rfl, .noRunId hd hc⟩
  | untold hc hid hnull htext =>
    refine .inl ⟨_, rfl, ?_⟩
    split
    · exact .naiveStart hc.named ‹_›
    · exact .badId hc ‹_› hid hnull htext
  | @told _ _ _ _ workflowId hc hid h =>
    rcases finish_cases h with ⟨hnone, rfl⟩ | ⟨hsome, durationMs, rfl⟩
    · exact .inl ⟨_, rfl, .naiveStart hc.named hnone⟩
    · refine .inr ⟨_, rfl, fun escape hescape => ?_, fun _ =>
        ⟨⟨rfl, hid, rfl, rfl, rfl, rfl, _, _, hc, rfl⟩, (finish_course h).1⟩⟩
      cases hescape with
      | noRunId hd hnamed => exact hnamed (hc.named hd)
      | naiveStart _ hnone => exact hsome hnone
      | badId _ _ hfound hnull htext =>
        rw [hfound] at hid
        cases workflowId with
        | none => exact hnull hid
        | some s => exact htext s hid

/-- In every world a run that should go on comes to an end. It is told how, unless the context names
no run, the start has no offset, or what cannot be restored would be told with an id that is no text;
then just this fault comes out of it. What is restored is told as a run of its definition, and what
cannot be restored as a failure, without steps and without a request but for the clock. -/
theorem resume_escapes_iff (e : Engine) (c : Continuation τ) :
    (∀ w : World, ∃ (t : List Exchange) (result : Except Escape (RunResult τ)),
      w.Answers [] t ∧ (e.resume c).Course t result) ∧
    ∀ t (result : Except Escape (RunResult τ)), (e.resume c).Course t result →
      ((∃ told, result = .ok told) ↔ ∀ escape, ¬c.Escapes escape) ∧
      (∀ escape, result = .error escape ↔ c.Escapes escape) ∧
      (∀ told, result = .ok told → c.Restorable → ∃ d,
        Codec.read Definition.codec (Value.object c.workflow) = .ok d ∧ e.Tells c.runId d told) ∧
      (∀ told, result = .ok told → ¬c.Restorable → TellsUnrestored c told ∧ ∀ x ∈ t, x.IsClock) := by
  refine ⟨fun w => ⟨_, _, Dialogue.lived_answers w [] _, Dialogue.lived_course w [] _⟩,
    fun t result h => ?_⟩
  obtain ⟨reading, t', rfl, hresumes⟩ := resume_cases h
  rcases hresumes.outcome with ⟨escape, rfl, hescape⟩ | ⟨told, rfl, hnone, hunrestored⟩
  · refine ⟨⟨by rintro ⟨_, ⟨⟩⟩, fun hnone => absurd hescape (hnone escape)⟩, fun other => ?_,
      by rintro _ ⟨⟩, by rintro _ ⟨⟩⟩
    constructor
    · rintro ⟨⟩
      exact hescape
    · intro hother
      rw [hescape.unique hother]
  · refine ⟨⟨fun _ => hnone, fun _ => ⟨told, rfl⟩⟩, fun other => ?_, ?_, ?_⟩
    · exact ⟨by rintro ⟨⟩, fun hother => absurd hother (hnone other)⟩
    · rintro _ ⟨⟩ hc
      obtain ⟨d, hread⟩ := hc.workflow
      exact ⟨d, hread, (Pursues.resume c rfl hread).tells h⟩
    · rintro _ ⟨⟩ hc
      obtain ⟨htells, hclock⟩ := hunrestored hc
      exact ⟨htells, List.forall_mem_cons.mpr ⟨rfl, hclock⟩⟩

/-- What is left of a run, but for its context. -/
def bare : Continuation Float where
  runId := "run-1"
  workflow := (Definition.checking "true").wire.fields?.getD []
  event := []
  resumeAt := alone.stamp 0
  context := []
  activeMs := 0
  startedAt := alone.stamp 0

/-- A continuation that can be read, and a run that does not go on with it and is not told. -/
theorem bare_escapes :
    Codec.read Continuation.codec (Continuation.codec.write .full bare) = .ok bare ∧
      (alone.resume bare).Course [⟨.clock, (0 : Nat)⟩] (.error .noRunId) := by
  have hstamp : (alone.stamp 0).Storable := by decide
  have hfields : Value.object bare.workflow = (Definition.checking "true").wire := rfl
  have hread : Definition.codec.read (Definition.checking "true").wire = .ok _ :=
    (Definition.codec_restores (Definition.checking_wellFormed "true")).read
  have hdefined : bare.Defined := ⟨_, hfields ▸ hread⟩
  have hrestore (reading : Nat) : restore bare reading = .error .noRunId := by
    rcases restore_cases bare reading with ⟨hc, -⟩ | ⟨-, hs⟩ | ⟨name, issues, hc, -⟩
    · exact absurd rfl hc.named
    · exact hs
    · exact absurd rfl (hc.named hdefined)
  refine ⟨(Continuation.codec_restores hstamp hstamp).read, ?_⟩
  unfold resume
  simp only [hrestore]
  exact .ask (r := .clock) (0 : Nat) (.done _)

end Engine

end Automation
