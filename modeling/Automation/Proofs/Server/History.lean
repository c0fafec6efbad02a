import Automation.Proofs.Server.Moves

/-!
# Histories of servers

A history is what a server goes through: workflows are edited, events and ticks start runs, runs are
tried out, resumed and aborted, and the tasks have their turns, in any order. Each of these is made
of moves (`Server.History.moves`), so what all moves keep, all histories keep. What is asked of a
service as a whole, and what is done when it is time for a job, are histories in turn.
-/

namespace Automation

open Schema

variable {τ : Type}

/-! ## Tasks that are waited for -/

namespace Service

variable [ActiveTime τ]

/-- The task of a workflow that is tried out, with its run in the store. -/
def testTask (d : Dispatcher) (workflowId tenant : String) (event : Event) :
    Service τ (Task τ) := do
  let workflow ← store (Workflows.definition workflowId tenant)
  let runId ← store Operation.freshId
  let _ ← store (Runs.start workflow event runId true (← get).now)
  newTask .test d runId workflow event (((← get).testEngine d).run workflow event runId)

/-- The task of a suspended run that goes on. -/
def resumeTask (d : Dispatcher) (c : Continuation τ) : Service τ (Task τ) := do
  let workflow ← restoredPart "WorkflowDefinition" (Definition.codec.read (Value.object c.workflow))
  let event ← restoredPart "TriggerEvent" (Event.codec.read (Value.object c.event))
  newTask .resumption d c.runId workflow event (((← get).engine d).resume c)

variable [RunningMean τ]

theorem testRun_eq (d : Dispatcher) (workflowId tenant : String) (event : Event) :
    (testRun d workflowId tenant event : Service τ _)
      = testTask d workflowId tenant event >>= await := by
  simp only [testRun, testTask, bind_assoc]

theorem resume_eq (d : Dispatcher) (c : Continuation τ) :
    resume d c = resumeTask d c >>= await := by
  simp only [resume, resumeTask, bind_assoc]

end Service

/-! ## Acts -/

namespace Server

/-- A server at another time. Nothing has happened to the rows, the tasks and the queue. -/
structure Idles (s s' : Server τ) : Prop extends s.Flows s' where
  store : ∃ outage, s'.store = { s.store with outage }
  tasks : s'.tasks = s.tasks
  queue : s'.scheduler.resumptions = s.scheduler.resumptions

/-- A server with a task that is about to take its first turn, if there is one. -/
def joined (s : Server τ) (t : Except Failed (Task τ)) : Server τ :=
  { s with tasks := t.toOption.toList ++ s.tasks }

variable [ActiveTime τ] [RunningMean τ]

/-- What can happen to a server in one step, and what is noted of it. -/
inductive Act : Server τ → List (Noted τ) → Server τ → Prop where
  /-- Time passes; flags, calls and jobs come and go, and so do outages of the store. -/
  | passes {s s' : Server τ} (h : s.Idles s') : Act s [] s'
  | looks {s : Server τ} {α : Type} (op : Operation τ α) (h : op.Quiet) :
      Act s [] ((Service.store op).run s).2
  | creates {s : Server τ} (w : NewWorkflow) (tenant user : String) (now : Time.Stamp)
      (h : NewWorkflow.codec.Accepts w) :
      Act s [] ((Service.store (Workflows.create w tenant user now)).run s).2
  | updates {s : Server τ} (id : String) (changes : WorkflowChanges) (tenant user : String)
      (now : Time.Stamp) (h : WorkflowChanges.codec.Accepts changes) :
      Act s [] ((Service.store (Workflows.update id changes tenant user now)).run s).2
  | deletes {s : Server τ} (id tenant : String) :
      Act s [] ((Service.store (Workflows.delete id tenant)).run s).2
  | enables {s : Server τ} (id tenant : String) (enabled : Bool) (now : Time.Stamp) :
      Act s [] ((Service.store (Workflows.setEnabled id tenant enabled now)).run s).2
  | instantiates {s : Server τ} (templateId : String) (u : TemplateUse) (tenant user : String)
      (now : Time.Stamp) (h : TemplateUse.codec.Accepts u) :
      Act s [] ((Service.store (Workflows.instantiate templateId u tenant user now)).run s).2
  | dispatches {s s' : Server τ} (d : Dispatcher) (tenant : String) (event : Event)
      {result : Except Failed Dispatched} (h : Event.codec.Accepts event)
      (hrun : (Service.dispatchEvent d tenant event).run s = (result, s')) :
      Act s ((result.toOption.elim [] (·.runIds)).map .dispatched) s'
  | ticks {s s' : Server τ} (d : Dispatcher) (now : Time.Stamp)
      {result : Except Failed (List String)} (h : now.Storable)
      (hrun : (Service.dispatchTick d now).run s = (result, s')) :
      Act s ((result.toOption.getD []).map .dispatched) s'
  | aborts {s : Server τ} (d : Dispatcher) (runId tenant : String) :
      Act s [] ((Service.abortRun d runId tenant).run s).2
  /-- A workflow is tried out. -/
  | tries {s s' : Server τ} (d : Dispatcher) (workflowId tenant : String) (event : Event)
      {result : Except Failed (Task τ)} (h : Event.codec.Accepts event)
      (hrun : (Service.testTask d workflowId tenant event).run s = (result, s')) :
      Act s [] (s'.joined result)
  /-- The job of a suspended run is taken off the list and done. -/
  | resumes {s s' : Server τ} (d : Dispatcher) (id : String) (c : Continuation τ)
      {result : Except Failed (Task τ)} (h : (id, c) ∈ s.scheduler.resumptions)
      (hrun : (Service.resumeTask d c).run { s with scheduler := s.scheduler.remove id }
        = (result, s')) : Act s [] (s'.joined result)
  /-- A task has its turn, which need not be the next one. -/
  | turn {s : Server τ} (before : List (Task τ)) (t : Task τ) (behind : List (Task τ))
      (h : s.tasks = before ++ t :: behind) :
      Act s ((s.turn before t behind).1.toList.map (.ended t.runId)) (s.turn before t behind).2

/-- What a server goes through, and what is noted on the way. -/
inductive History (s₀ : Server τ) : List (Noted τ) → Server τ → Prop where
  | start : History s₀ [] s₀
  | act {log more : List (Noted τ)} {s s' : Server τ} (h : History s₀ log s) (hs : Act s more s') :
      History s₀ (log ++ more) s'

theorem History.trans {s₀ s s' : Server τ} {log more : List (Noted τ)} (h : s₀.History log s)
    (h' : s.History more s') : s₀.History (log ++ more) s' := by
  induction h' with
  | start => exact (List.append_nil log).symm ▸ h
  | act _ hs ih => exact List.append_assoc .. ▸ ih.act hs

/-- A server on which nothing has happened. -/
structure New (s : Server τ) : Prop where
  workflows : s.store.workflows = []
  runs : s.store.runs = []
  tasks : s.tasks = []
  queue : s.scheduler.resumptions = []

/-! ## Acts are moves -/

section Acts

omit [ActiveTime τ] [RunningMean τ] in
/-- What is found for an event or a tick is stored, and it is the tenant's if there is one. -/
theorem enabledDefinitions_cases (tenant kind : String) (s : Store τ) :
    (∃ definitions outage, (Workflows.enabledDefinitions tenant kind).run s
        = (.ok definitions, { s with outage }) ∧
      ∀ d ∈ definitions, ∃ row ∈ s.workflows, row.definition = .ok d ∧
        (tenant ≠ "" → row.tenantId = tenant)) ∨
    ∃ failure, (Workflows.enabledDefinitions tenant kind).run s = (.error failure, s) := by
  unfold Workflows.enabledDefinitions
  rcases Operation.query_cases (fun s : Store τ => (s.workflows.filter fun r =>
      r.enabled && !r.isTemplate && wanted tenant r.tenantId && wanted kind r.triggerKind).filterMap
        (·.definition.toOption)) s with ⟨outage, hrun⟩ | ⟨message, hrun⟩
  · refine .inl ⟨_, outage, hrun, fun d hd => ?_⟩
    obtain ⟨row, hrow, hd⟩ := List.mem_filterMap.mp hd
    obtain ⟨hrow, hwanted⟩ := List.mem_filter.mp hrow
    refine ⟨row, hrow, Except.toOption_eq_some.mp hd, fun htenant => ?_⟩
    simp only [wanted, Bool.and_eq_true, Bool.or_eq_true, String.isEmpty_iff, beq_iff_eq] at hwanted
    exact hwanted.1.2.resolve_left htenant
  · exact .inr ⟨_, hrun⟩

variable {s s' : Server τ} {d : Dispatcher} {event : Event}

omit [ActiveTime τ] [RunningMean τ] in
theorem engine_suspends (h : (s.engine d).suspendFrom.isSome = true) : d.suspends = true := by
  unfold engine at h
  dsimp only at h
  split at h
  · assumption
  · cases h

/-- A server is looked at, and no more. -/
theorem idle_moves {s s' : Server τ} (hflows : s.Flows s')
    (hstore : ∃ outage, s'.store = { s.store with outage }) (htasks : s'.tasks = s.tasks)
    (hqueue : s'.scheduler.resumptions = s.scheduler.resumptions) : s.Moves [] s' := by
  obtain ⟨outage, hstore⟩ := hstore
  exact Move.moves (.idles _ outage (Nat.le_refl _) hstore htasks hqueue) hflows

theorem edit_moves {s : Server τ} {α : Type} {tenant : String} {op : Operation τ α}
    (h : op.Edits tenant) : s.Moves [] ((Service.store op).run s).2 :=
  Move.moves (.edits tenant (h s.store trivial) rfl rfl) ⟨Nat.le_refl _, rfl⟩

/-- A run that is started for a stored workflow begins. -/
theorem spawn_moves {workflow : Definition} {row : WorkflowRow τ} (hrow : row ∈ s.store.workflows)
    (hworkflow : row.definition = .ok workflow) (hevent : event.Storable) :
    ∃ s', (Service.spawn d workflow event).run s = (.ok (idOf (s.store.given + 1)), s') ∧
      s.Moves [.dispatched (idOf (s.store.given + 1))] s' ∧
      s'.store.workflows = s.store.workflows := by
  let runId := idOf (s.store.given + 1)
  let t : Task τ := {
    number := s.turns, kind := .background, dispatcher := d, runId, workflow, event, started := false
    wakesAt := s.elapsed, turn := s.turns, rest := (s.engine d).run workflow event runId }
  refine ⟨_, rfl, Move.moves ?_ ⟨Nat.le_refl _, rfl⟩, rfl⟩
  exact .joins t (s.engine d) row s.store.outage rfl (List.perm_append_singleton t s.tasks) rfl rfl
    rfl nofun hrow hworkflow hevent rfl (fun h => ⟨nofun, engine_suspends h⟩) rfl

/-- Runs that are started for stored workflows begin one after another. -/
theorem spawns_moves (hevent : event.Storable) {workflows : List Definition}
    (h : ∀ workflow ∈ workflows, ∃ row ∈ s.store.workflows, row.definition = .ok workflow) :
    ∃ ids s', (workflows.mapM fun workflow => Service.spawn d workflow event).run s = (.ok ids, s') ∧
      s.Moves (ids.map .dispatched) s' := by
  induction workflows generalizing s with
  | nil => exact ⟨[], s, rfl, .start⟩
  | cons workflow workflows ih =>
    obtain ⟨⟨row, hrow, hworkflow⟩, hrest⟩ := List.forall_mem_cons.mp h
    obtain ⟨s₁, hspawn, hmoves, hsame⟩ := spawn_moves (d := d) hrow hworkflow hevent
    obtain ⟨ids, s₂, hspawns, hmoves'⟩ := ih (hsame ▸ hrest)
    refine ⟨_ :: ids, s₂, ?_, hmoves.trans hmoves'⟩
    rw [List.mapM_cons, run_bind, hspawn]
    dsimp only
    rw [run_bind, hspawns]
    rfl

/-- Runs are started for some of the definitions that are found, and the answer gives their ids. -/
theorem found_moves {α : Type} {result : Except Failed α} (d : Dispatcher) (tenant kind : String)
    (concerned : Definition → Bool) (answer : List Definition → List String → α)
    (ids : α → List String)
    (hids : ∀ definitions started, ids (answer definitions started) = started)
    (hevent : event.Storable)
    (hrun : (do
        let candidates ← Service.store (Workflows.enabledDefinitions tenant kind)
        let started ← (candidates.filter concerned).mapM fun w => Service.spawn d w event
        return answer (candidates.filter concerned) started : Service τ α).run s = (result, s')) :
    s.Moves ((result.toOption.elim [] ids).map .dispatched) s' := by
  rw [Service.store_bind_run] at hrun
  rcases enabledDefinitions_cases tenant kind s.store with ⟨definitions, outage, hfind, hstored⟩ |
    ⟨failure, hfind⟩ <;> rw [hfind] at hrun
  · have hlooks : s.Moves [] { s with store := { s.store with outage } } :=
      idle_moves ⟨Nat.le_refl _, rfl⟩ ⟨outage, rfl⟩ rfl rfl
    obtain ⟨started, s₁, hspawns, hmoves⟩ :=
      spawns_moves (s := { s with store := { s.store with outage } }) (d := d) hevent
        fun workflow hworkflow => by
          obtain ⟨row, hrow, hd, -⟩ := hstored workflow (List.mem_of_mem_filter hworkflow)
          exact ⟨row, hrow, hd⟩
    dsimp only at hrun
    rw [run_bind, hspawns] at hrun
    cases hrun
    have hstarted : (Except.ok (answer (definitions.filter concerned) started)
        : Except Failed α).toOption.elim [] ids = started := hids _ _
    rw [hstarted]
    exact hlooks.trans hmoves
  · cases hrun
    exact .start

theorem dispatchEvent_moves {tenant : String} {result : Except Failed Dispatched}
    (hevent : event.Storable) (hrun : (Service.dispatchEvent d tenant event).run s = (result, s')) :
    s.Moves ((result.toOption.elim [] (·.runIds)).map .dispatched) s' :=
  found_moves d tenant event.type (·.startsOn event)
    (fun concerned => Dispatched.mk event.type (concerned.filterMap Definition.id)) (·.runIds)
    (fun _ _ => rfl) hevent hrun

theorem dispatchTick_moves {now : Time.Stamp} {result : Except Failed (List String)}
    (hnow : now.Storable) (hrun : (Service.dispatchTick d now).run s = (result, s')) :
    s.Moves ((result.toOption.getD []).map .dispatched) s' := by
  have hevent : (Service.tickEvent now).Storable := by
    rintro _ ⟨⟩
    exact hnow
  have hmoves : s.Moves ((result.toOption.elim [] id).map .dispatched) s' := by
    refine found_moves d "" TriggerKind.schedule.name
      (fun w => TriggerSchedule.due w.trigger.schedule now) (fun _ started => started) id
      (fun _ _ => rfl) hevent (Eq.trans ?_ hrun)
    simp only [bind_pure]
    rfl
  cases result <;> exact hmoves

omit [ActiveTime τ] [RunningMean τ] in
/-- The definition of a workflow is that of a stored row of the tenant. -/
theorem definition_cases (id tenant : String) (s : Store τ) :
    (∃ d row outage, (Workflows.definition id tenant).run s = (.ok d, { s with outage }) ∧
      row ∈ s.workflows ∧ row.definition = .ok d ∧ row.tenantId = tenant) ∨
    ∃ failure outage, (Workflows.definition id tenant).run s = (.error failure, { s with outage }) := by
  unfold Workflows.definition
  rw [run_bind]
  rcases Workflows.owned_cases id tenant s with ⟨row, outage, hrun, hrow, htenant⟩ |
    ⟨failure, outage, hrun⟩ <;> rw [hrun]
  · dsimp only
    rcases Workflows.definitionOf_cases row with ⟨d, hd, hread⟩ | ⟨failure, hread⟩ <;> rw [hread]
    · exact .inl ⟨d, row, outage, rfl, List.mem_of_find?_eq_some hrow, hd, htenant⟩
    · exact .inr ⟨failure, outage, rfl⟩
  · exact .inr ⟨failure, outage, rfl⟩

/-- A run that is tried out begins and is put into the store, or no run begins. -/
theorem testTask_moves {workflowId tenant : String} {result : Except Failed (Task τ)}
    (hevent : event.Storable)
    (hrun : (Service.testTask d workflowId tenant event).run s = (result, s')) :
    s.Moves [] (s'.joined result) := by
  have hflows {s' : Server τ} (helapsed : s'.elapsed = s.elapsed) (horigin : s'.origin = s.origin) :
      s.Flows s' := ⟨Nat.le_of_eq helapsed.symm, horigin⟩
  unfold Service.testTask at hrun
  rw [Service.store_bind_run] at hrun
  rcases definition_cases workflowId tenant s.store with
    ⟨workflow, row, outage, hread, hrow, hd, -⟩ | ⟨failure, outage, hread⟩ <;> rw [hread] at hrun
  · let runId := idOf (s.store.given + 1)
    let store₁ : Store τ := { s.store with given := s.store.given + 1, outage }
    have hfresh : (Operation.freshId : Operation τ String).run { s.store with outage }
        = (.ok runId, store₁) := rfl
    dsimp only at hrun
    rw [Service.store_bind_run, hfresh] at hrun
    dsimp only at hrun
    rw [Service.get_bind_run, Service.store_bind_run] at hrun
    dsimp only at hrun
    rcases Runs.start_cases workflow event runId true s.now store₁ with
      ⟨run, outage', -, -, hstart⟩ | ⟨fault, outage', hstart, -⟩
    · -- The run is in the store before its task is there, but it begins before it is stored.
      let t : Task τ := {
        number := s.turns, kind := .test, dispatcher := d, runId, workflow, event, started := false
        wakesAt := s.elapsed, turn := s.turns
        rest := (s.testEngine d).run workflow event runId }
      let s₁ : Server τ := { s with store := store₁, turns := s.turns + 1, tasks := t :: s.tasks }
      have hjoins : s.Moves [] s₁ := Move.moves (.joins t (s.testEngine d) row outage rfl (.refl _)
        rfl rfl rfl nofun hrow hd hevent rfl nofun rfl) (hflows rfl rfl)
      have hs' : s'.joined result = { s₁ with
          store := { store₁.insertRun run with outage := outage' }
          tasks := { t with started := true } :: s.tasks } := by
        have hnow : ({ s with store := store₁ } : Server τ).now = s.now := rfl
        rw [hnow, hstart] at hrun
        cases hrun
        rfl
      rw [hs']
      exact hjoins.trans (Move.moves (.starts t s.tasks s.now rfl (.refl _) hstart (.refl _) rfl)
        ⟨Nat.le_refl _, rfl⟩)
    · have hs' : s'.joined result = { s with store := { store₁ with outage := outage' } } := by
        have hnow : ({ s with store := store₁ } : Server τ).now = s.now := rfl
        rw [hnow, hstart] at hrun
        cases hrun
        rfl
      rw [hs']
      exact Move.moves (.idles _ outage' (Nat.le_succ _) rfl rfl rfl) (hflows rfl rfl)
  · cases hrun
    exact idle_moves (hflows rfl rfl) ⟨outage, rfl⟩ rfl rfl

/-- A queued run is resumed, unless it cannot be read. -/
theorem resumeTask_moves {id : String} {c : Continuation τ} {result : Except Failed (Task τ)}
    (hjob : (id, c) ∈ s.scheduler.resumptions)
    (hrun : (Service.resumeTask d c).run { s with scheduler := s.scheduler.remove id }
      = (result, s')) : s.Moves [] (s'.joined result) := by
  have hqueue := s.scheduler.resumptions_remove id
  unfold Service.resumeTask at hrun
  rcases hworkflow : Definition.codec.read (Value.object c.workflow) with workflow | issues <;>
    rw [hworkflow] at hrun
  · rcases hevent : Event.codec.read (Value.object c.event) with event | issues <;>
      rw [hevent] at hrun
    · let t : Task τ := {
        number := s.turns, kind := .resumption, dispatcher := d, runId := c.runId, workflow, event
        started := true, wakesAt := s.elapsed, turn := s.turns, rest := (s.engine d).resume c }
      have hs' : s'.joined result = { s with
          scheduler := s.scheduler.remove id, turns := s.turns + 1, tasks := t :: s.tasks } := by
        cases hrun
        rfl
      rw [hs']
      exact Move.moves (.resumes t (s.engine d) id c hjob hqueue hworkflow rfl (.refl _) rfl rfl rfl
        rfl engine_suspends rfl) ⟨Nat.le_refl _, rfl⟩
    · cases hrun
      exact Move.moves (.loses id c hjob hqueue (.inr fun event h => by rw [hevent] at h; cases h)
        rfl rfl) ⟨Nat.le_refl _, rfl⟩
  · cases hrun
    exact Move.moves (.loses id c hjob hqueue (.inl fun d h => by rw [hworkflow] at h; cases h)
      rfl rfl) ⟨Nat.le_refl _, rfl⟩

omit [ActiveTime τ] [RunningMean τ] in
/-- A request to abort a run changes at most the flags and the time of a job. -/
theorem abortRun_frame (s : Server τ) (d : Dispatcher) (runId tenant : String) :
    ∃ outage flags scheduler, ((Service.abortRun d runId tenant : Service τ Bool).run s).2
        = { s with store := { s.store with outage }, flags, scheduler } ∧
      scheduler.resumptions = s.scheduler.resumptions := by
  unfold Service.abortRun
  rw [Service.store_bind_run]
  obtain ⟨outage, hquiet⟩ := Runs.owned_quiet runId tenant s.store
  rcases hop : (Runs.owned runId tenant).run s.store with ⟨failure | row, store⟩ <;>
    rw [hop] at hquiet <;> obtain rfl := hquiet <;> dsimp only
  · exact ⟨outage, s.flags, s.scheduler, rfl, rfl⟩
  · split
    · exact ⟨outage, s.flags, s.scheduler, rfl, rfl⟩
    · rw [Service.get_bind_run]
      dsimp only
      rw [Service.set_bind_run]
      split
      · exact ⟨outage, _, _, rfl, s.scheduler.resumptions_expedite _ _⟩
      · exact ⟨outage, _, s.scheduler, rfl, rfl⟩

theorem abortRun_moves {runId tenant : String} :
    s.Moves [] ((Service.abortRun d runId tenant : Service τ Bool).run s).2 := by
  obtain ⟨outage, flags, scheduler, hrun, hqueue⟩ := abortRun_frame s d runId tenant
  rw [hrun]
  exact idle_moves ⟨Nat.le_refl _, rfl⟩ ⟨outage, rfl⟩ rfl hqueue

theorem Act.moves {log : List (Noted τ)} (h : s.Act log s') : s.Moves log s' := by
  cases h with
  | passes h => exact idle_moves h.toFlows h.store h.tasks h.queue
  | looks op h => exact idle_moves ⟨Nat.le_refl _, rfl⟩ (h s.store) rfl rfl
  | creates w tenant user now h =>
    exact edit_moves (Workflows.create_edits (NewWorkflow.codec_ensures.accepts h))
  | updates id changes tenant user now h =>
    exact edit_moves (Workflows.update_edits (WorkflowChanges.codec_ensures.accepts h))
  | deletes id tenant => exact edit_moves Workflows.delete_edits
  | enables id tenant enabled now => exact edit_moves Workflows.setEnabled_edits
  | instantiates templateId u tenant user now h =>
    exact edit_moves (Workflows.instantiate_edits (TemplateUse.codec_ensures.accepts h))
  | dispatches d tenant event h hrun =>
    exact dispatchEvent_moves (Event.codec_ensures.accepts h) hrun
  | ticks d now h hrun => exact dispatchTick_moves h hrun
  | aborts d runId tenant => exact abortRun_moves
  | tries d workflowId tenant event h hrun =>
    exact testTask_moves (Event.codec_ensures.accepts h) hrun
  | resumes d id c h hrun => exact resumeTask_moves h hrun
  | turn before t behind h => exact turn_moves h

/-- What happens to a server is made of moves. -/
theorem History.moves {s₀ : Server τ} {log : List (Noted τ)} (h : s₀.History log s) :
    s₀.Moves log s := by
  induction h with
  | start => exact .start
  | act _ hs ih => exact ih.trans hs.moves

end Acts

/-! ## What is done as a whole -/

section Wholes

variable {s : Server τ} {d : Dispatcher}

theorem Act.history {s' : Server τ} {log : List (Noted τ)} (h : s.Act log s') : s.History log s' :=
  .act .start h

theorem History.turn {s₀ : Server τ} (s : Server τ) (before : List (Task τ)) (t : Task τ)
    (behind : List (Task τ)) (htasks : s.tasks = before ++ t :: behind)
    (h : ∃ log, s₀.History log s) : ∃ log, s₀.History log (s.turn before t behind).2 := by
  obtain ⟨log, h⟩ := h
  exact ⟨_, h.act (.turn before t behind htasks)⟩

/-- To let time pass is a history. -/
theorem pass_history (micros : Nat) : ∃ log, s.History log (s.pass micros) := by
  refine pass_induct History.turn (fun s' reading ⟨log, h⟩ => ⟨_, h.act (.passes ?_)⟩) ⟨[], .start⟩
  exact ⟨⟨Nat.le_max_left _ _, rfl⟩, ⟨s'.store.outage, rfl⟩, rfl, rfl⟩

theorem finishAll_history : ∃ log, s.History log s.finishAll :=
  takeTurns_induct History.turn ⟨[], .start⟩

/-- Whoever waits for a task that was made lets the tasks have their turns. -/
theorem awaited_history {m : Service τ (Task τ)} {result : Except Failed (Task τ)}
    {s₁ s' : Server τ} (hm : m.run s₁ = (result, s')) {log : List (Noted τ)}
    (h : s.Act log (s'.joined result)) :
    ∃ log, s.History log ((m >>= Service.await).run s₁).2 := by
  rw [run_bind, hm]
  rcases result with failure | t
  · exact ⟨_, h.history⟩
  · exact await_induct History.turn ⟨_, h.history⟩

/-- To try a workflow out is a history. -/
theorem testRun_history {workflowId tenant : String} {event : Event}
    (h : Event.codec.Accepts event) :
    ∃ log, s.History log ((Service.testRun d workflowId tenant event).run s).2 := by
  rw [Service.testRun_eq]
  exact awaited_history rfl (.tries d workflowId tenant event h rfl)

/-- To resume a queued run is a history. -/
theorem resume_history {id : String} {c : Continuation τ}
    (h : (id, c) ∈ s.scheduler.resumptions) :
    ∃ log, s.History log
      ((Service.resume d c).run { s with scheduler := s.scheduler.remove id }).2 := by
  rw [Service.resume_eq]
  exact awaited_history rfl (.resumes d id c h rfl)

theorem doJob_run (work : JobWork τ) (hdispatcher : s.dispatcher = some d) :
    ((Service.doJob work).run s).2 = match work with
      | .tick => ((Service.dispatchTick d s.now).run s).2
      | .resume c => ((Service.resume d c).run s).2 := by
  unfold Service.doJob Service.dispatcher
  rw [bind_assoc, Service.get_bind_run, hdispatcher, pure_bind]
  cases work with
  | tick =>
    dsimp only
    rw [Service.get_bind_run, run_bind]
    rcases (Service.dispatchTick d s.now).run s with ⟨_ | _, _⟩ <;> rfl
  | resume c =>
    dsimp only
    rw [run_bind]
    rcases (Service.resume d c).run s with ⟨_ | _, _⟩ <;> rfl

/-- To do a job is a history, as long as the clock shows a moment that the calendar has. -/
theorem doJobOf_history (id : String) (hdispatcher : s.dispatcher = some d)
    (hids : (s.scheduler.jobs.map (·.id)).Nodup)
    (htick : ∀ job ∈ s.scheduler.jobs, job.work = .tick → job = .tick) (hnow : s.now.Storable) :
    ∃ log, s.History log ((Service.doJobOf id).run s).2 := by
  unfold Service.doJobOf
  rw [Service.get_bind_run]
  rcases hfound : s.scheduler.job? id with _ | job
  · exact ⟨[], .start⟩
  obtain rfl : job.id = id := by simpa using List.find?_some hfound
  have hjob : job ∈ s.scheduler.jobs := List.mem_of_find?_eq_some hfound
  dsimp only
  rw [Service.modify_bind_run]
  rcases hwork : job.work with _ | c
  · obtain rfl := htick job hjob hwork
    -- No queued run has the id of the tick.
    have hqueue : (s.scheduler.remove tickJobId).resumptions = s.scheduler.resumptions := by
      rw [Scheduler.resumptions_remove, List.filter_eq_self]
      intro p hp
      obtain ⟨other, hother, hresumption⟩ := List.mem_filterMap.mp hp
      rw [decide_eq_true_iff]
      intro hid
      have hsame : other.id = (Job.tick : Job τ).id := by
        unfold Job.resumption at hresumption
        split at hresumption <;> cases hresumption
        exact hid
      obtain rfl := List.inj_on_of_nodup_map hids hother hjob hsame
      cases hresumption
    have hpasses : s.Act [] { s with scheduler := s.scheduler.remove tickJobId } :=
      .passes ⟨⟨Nat.le_refl _, rfl⟩, ⟨s.store.outage, rfl⟩, rfl, hqueue⟩
    dsimp only [Job.tick]
    rw [doJob_run .tick]
    · exact ⟨_, hpasses.history.act (.ticks d s.now hnow rfl)⟩
    · exact hdispatcher
  · have hresumption : (job.id, c) ∈ s.scheduler.resumptions :=
      List.mem_filterMap.mpr ⟨job, hjob, by rw [Job.resumption, hwork]⟩
    have hdone (elapsed : Nat) (h : s.elapsed ≤ elapsed) : ∃ log, s.History log
        ((Service.doJob (.resume c)).run
          { s with elapsed, scheduler := s.scheduler.remove job.id }).2 := by
      have hpasses : s.Act [] { s with elapsed } :=
        .passes ⟨⟨h, rfl⟩, ⟨s.store.outage, rfl⟩, rfl, rfl⟩
      obtain ⟨log, hresume⟩ := resume_history (s := { s with elapsed }) (d := d) hresumption
      rw [doJob_run (.resume c)]
      · exact ⟨_, hpasses.history.trans hresume⟩
      · exact hdispatcher
    rcases job.time with _ | moment
    · exact hdone s.elapsed (Nat.le_refl _)
    · exact hdone _ (Nat.le_max_left _ _)

end Wholes

end Server

end Automation
