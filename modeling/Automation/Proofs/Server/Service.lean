import Automation.Proofs.Server.Trace

/-!
# Services are traces

What a dispatcher does on a server, it does in steps: events and ticks begin runs, jobs resume them,
requests to abort them are accepted or not, and whoever waits for a run lets the tasks have their
turns. So what holds on all traces holds whatever a dispatcher is asked for, and in between.
-/

namespace Automation

variable {τ : Type}

/-! ## Turns beside other tasks -/

section Beside

variable (s : Server τ) (tasks : List (Task τ))

theorem Service.begin_beside (t : Task τ) :
    (begin t).run { s with tasks } =
      (((begin t).run s).1, { ((begin t).run s).2 with tasks }) := by
  unfold begin
  by_cases h : t.started = true
  · simp [h]
  · rw [if_neg h, get_bind_run, get_bind_run, store_bind_run, store_bind_run]
    dsimp only [Server.now]
    split <;> rfl

theorem Server.converse_beside {α : Type} (d : Dialogue α) :
    ({ s with tasks } : Server τ).converse d =
      ((s.converse d).1, { (s.converse d).2 with tasks }) := by
  induction d with
  | done a => rfl
  | ask r next ih =>
    cases r with
    | clock => exact ih _
    | aborted runId => exact ih _
    | sleep seconds => rfl
    | call c timeout => rfl

theorem Service.afterRun_beside (d : Dispatcher) (told : RunResult τ) :
    (afterRun d told).run { s with tasks } =
      (((afterRun d told).run s).1, { ((afterRun d told).run s).2 with tasks }) := by
  unfold afterRun
  rw [modify_run, modify_run]
  split <;> split <;> rfl

variable [ActiveTime τ] [RunningMean τ]

theorem Service.conclude_beside (t : Task τ) (outcome : Except Escape (RunResult τ)) :
    (conclude t outcome).run { s with tasks } =
      (((conclude t outcome).run s).1, { ((conclude t outcome).run s).2 with tasks }) := by
  cases outcome with
  | error cause => rfl
  | ok told =>
    let isTest : Bool := t.kind = .test
    unfold conclude
    dsimp only
    rw [get_bind_run, get_bind_run, store_bind_run, store_bind_run]
    dsimp only [Server.now]
    rcases (Runs.record t.workflow t.event told isTest
      (Time.Stamp.ofInstant (s.origin + s.elapsed))).run s.store with ⟨failure | row, store⟩
    · rfl
    · dsimp only
      by_cases htest : isTest = true
      · rw [if_pos htest]
        rfl
      · rw [if_neg htest, run_bind, run_bind]
        have hbeside := afterRun_beside { s with store } tasks t.dispatcher told
        dsimp only at hbeside
        rw [hbeside]
        rcases (afterRun t.dispatcher told).run { s with store } with ⟨_ | _, _⟩ <;> rfl

/-- What a task does in its turn does not depend on the other tasks. -/
theorem Server.turn_beside (before : List (Task τ)) (t : Task τ) (behind : List (Task τ)) :
    ({ s with tasks } : Server τ).turn before t behind = s.turn before t behind := by
  let s₁ : Server τ := { s with elapsed := max s.elapsed t.wakesAt }
  have htake : ({ s with tasks } : Server τ).takeTurn t
      = ((s.takeTurn t).1, { (s.takeTurn t).2 with tasks }) := by
    unfold takeTurn
    dsimp only
    have hbegin := Service.begin_beside s₁ tasks t
    dsimp only [s₁] at hbegin
    rw [hbegin]
    rcases (Service.begin t).run { s with elapsed := max s.elapsed t.wakesAt } with
      ⟨failure | ⟨⟩, s₂⟩
    · rfl
    · dsimp only
      rw [converse_beside s₂]
      rcases s₂.converse t.rest with ⟨wakesAt | outcome, s₃⟩
      · rfl
      · dsimp only
        rw [Service.conclude_beside s₃]
        rfl
  unfold turn
  rw [htake]
  rcases s.takeTurn t with ⟨u | ending, s'⟩ <;> rfl

end Beside

/-! ## Waiting for tasks -/

namespace Server

variable {s s' : Server τ}

/-- As long as there are tasks, one of them is next. -/
theorem nextTask_isSome {tasks : List (Task τ)} (h : tasks ≠ []) : ∃ next, nextTask tasks = some next := by
  cases tasks with
  | nil => exact absurd rfl h
  | cons t tasks =>
    unfold nextTask
    split
    · exact ⟨_, rfl⟩
    · split <;> exact ⟨_, rfl⟩

theorem Calm.refl (s : Server τ) : s.Calm s :=
  ⟨Nat.le_refl _, Nat.le_refl _, rfl, rfl, .refl _⟩

variable [ActiveTime τ] [RunningMean τ]

theorem Step.trace {deeds : List Deed} (h : s.Step deeds s') : s.Trace deeds s' := .step .start h

section Turns

variable {P : Server τ → Prop}

/-- What every turn of a task keeps is kept while tasks take turns. -/
theorem takeTurns_induct (hturn : ∀ (s : Server τ) before t behind,
      s.tasks = before ++ t :: behind → P s → P (s.turn before t behind).2)
    {may : Task τ → Bool} {awaited : Option Nat} (h : P s) : P (s.takeTurns may awaited).2 := by
  have hkeeps {s s' : Server τ} {before behind : List (Task τ)} {t : Task τ}
      {ended : Option (Ending τ)} (hnext : nextTask s.tasks = some (before, t, behind))
      (hturned : s.turn before t behind = (ended, s')) (h : P s) : P s' := by
    have hafter := hturn s before t behind (nextTask_eq hnext) h
    rwa [hturned] at hafter
  fun_induction takeTurns s may awaited with
  | case1 s hnext => exact h
  | case2 s before t behind hnext hmay ending s' hturned hawaited => exact hkeeps hnext hturned h
  | case3 s before t behind hnext hmay ending s' hturned hawaited ih =>
    exact ih (hkeeps hnext hturned h)
  | case4 s before t behind hnext hmay s' hturned ih => exact ih (hkeeps hnext hturned h)
  | case5 s before t behind hnext hmay => exact h

/-- Whoever waits for a task lets the tasks have their turns, this one first. -/
theorem await_induct (hturn : ∀ (s : Server τ) before t behind,
      s.tasks = before ++ t :: behind → P s → P (s.turn before t behind).2)
    {t : Task τ} (h : P { s with tasks := t :: s.tasks }) : P (s.await t).2 := by
  -- The turn is taken before the task is on the list, which makes no difference to it.
  have hfirst := hturn { s with tasks := t :: s.tasks } [] t s.tasks rfl h
  rw [s.turn_beside (t :: s.tasks) [] t s.tasks] at hfirst
  unfold await
  rcases hturned : s.turn [] t s.tasks with ⟨_ | ending, s₁⟩ <;> rw [hturned] at hfirst
  · exact takeTurns_induct hturn hfirst
  · exact hfirst

/-- So do the tasks when time passes. -/
theorem pass_induct (hturn : ∀ (s : Server τ) before t behind,
      s.tasks = before ++ t :: behind → P s → P (s.turn before t behind).2)
    (hlater : ∀ (s : Server τ) (reading : Nat), P s → P { s with elapsed := max s.elapsed reading })
    {micros : Nat} (h : P s) : P (s.pass micros) :=
  hlater _ _ (takeTurns_induct hturn h)

end Turns

/-- The turns of tasks are steps. -/
theorem Trace.turn {s₀ : Server τ} (s : Server τ) (before : List (Task τ)) (t : Task τ)
    (behind : List (Task τ)) (htasks : s.tasks = before ++ t :: behind)
    (h : ∃ deeds, s₀.Trace deeds s) : ∃ deeds, s₀.Trace deeds (s.turn before t behind).2 := by
  obtain ⟨deeds, h⟩ := h
  exact ⟨_, h.step (.turn before t behind htasks)⟩

theorem await_trace (s : Server τ) (t : Task τ) :
    ∃ deeds, ({ s with tasks := t :: s.tasks } : Server τ).Trace deeds (s.await t).2 :=
  await_induct Trace.turn ⟨[], .start⟩

theorem pass_trace (s : Server τ) (micros : Nat) : ∃ deeds, s.Trace deeds (s.pass micros) := by
  refine pass_induct Trace.turn (fun s' reading ⟨deeds, h⟩ => ⟨_, h.step (.calm ?_)⟩) ⟨[], .start⟩
  exact ⟨Nat.le_max_left _ _, Nat.le_refl _, rfl, rfl, .refl _⟩

end Server

/-! ## Dispatching -/

namespace Service

theorem lifted_grows {ε α : Type} (cause : ε → Failed) (result : Except ε α) :
    (Operation.lifted cause result : Operation τ α).Grows := by
  cases result with
  | ok a => exact Operation.grows_pure a
  | error e => exact Operation.grows_throw (cause e)

theorem definition_grows (id tenant : String) :
    (Workflows.definition id tenant : Operation τ Definition).Grows := by
  have howned : (Workflows.owned id tenant : Operation τ (WorkflowRow τ)).Grows := by
    refine Operation.Grows.bind (Operation.query_grows _) fun row? => ?_
    refine (Operation.found_grows _ _).bind fun row => ?_
    split
    · exact Operation.grows_pure row
    · exact Operation.grows_throw _
  exact howned.bind fun row => lifted_grows _ _

theorem enabledDefinitions_grows (tenant kind : String) :
    (Workflows.enabledDefinitions tenant kind : Operation τ _).Grows := Operation.query_grows _

variable [ActiveTime τ] [RunningMean τ] {α β : Type} {m : Service τ α} {d : Dispatcher}

/-- What a service does, it does in steps, on whatever server. -/
def Traced (m : Service τ α) : Prop :=
  ∀ s : Server τ, ∃ deeds, s.Trace deeds (m.run s).2

theorem traced_pure (a : α) : (pure a : Service τ α).Traced := fun _ => ⟨[], .start⟩

theorem Traced.bind {f : α → Service τ β} (h : m.Traced) (hf : ∀ a, (f a).Traced) :
    (m >>= f).Traced := by
  intro s
  obtain ⟨deeds, hfirst⟩ := h s
  rw [run_bind]
  rcases hm : m.run s with ⟨failure | a, s'⟩ <;> rw [hm] at hfirst
  · exact ⟨deeds, hfirst⟩
  · obtain ⟨more, hrest⟩ := hf a s'
    exact ⟨deeds ++ more, hfirst.trans hrest⟩

theorem traced_mapM {f : β → Service τ α} (hf : ∀ b, (f b).Traced) (bs : List β) :
    (bs.mapM f).Traced := by
  induction bs with
  | nil => exact traced_pure []
  | cons b bs ih =>
    rw [List.mapM_cons]
    exact (hf b).bind fun a => ih.bind fun as => traced_pure _

theorem traced_store {op : Operation τ α} (h : op.Grows) : (store op).Traced := by
  intro s
  have hcalm : s.Calm ((store op).run s).2 := ⟨Nat.le_refl _, h s.store, rfl, rfl, .refl _⟩
  exact ⟨_, (Server.Step.calm hcalm).trace⟩

/-- A run that is started begins. -/
theorem spawn_step (haborts : d.aborts = true) (workflow : Definition) (event : Event)
    (s : Server τ) : s.Step [] ((spawn d workflow event).run s).2 := by
  let runId := idOf (s.store.given + 1)
  let t : Task τ := {
    number := s.turns, kind := .background, dispatcher := d, runId, workflow, event, started := false
    wakesAt := s.elapsed, turn := s.turns, rest := (s.engine d).run workflow event runId }
  let s' : Server τ := { s with
    store := { s.store with given := s.store.given + 1 }, turns := s.turns + 1
    tasks := s.tasks ++ [t] }
  have hrun : (spawn d workflow event : Service τ String).run s = (.ok runId, s') := rfl
  have hadmits : s.Admits t s' :=
    ⟨Nat.le_refl _, Nat.le_succ _, rfl, List.perm_append_singleton t s.tasks⟩
  rw [hrun]
  exact .begins t (s.engine d) workflow event (s.store.given + 1) hadmits rfl (Nat.lt_succ_self _)
    (Nat.le_refl _) rfl haborts rfl

theorem spawn_traced (haborts : d.aborts = true) (workflow : Definition) (event : Event) :
    (spawn d workflow event : Service τ String).Traced :=
  fun s => ⟨_, (spawn_step haborts workflow event s).trace⟩

theorem dispatchEvent_traced (haborts : d.aborts = true) (tenant : String) (event : Event) :
    (dispatchEvent d tenant event : Service τ Dispatched).Traced := by
  refine (traced_store (enabledDefinitions_grows _ _)).bind fun candidates => ?_
  refine (traced_mapM (fun workflow => spawn_traced haborts workflow event) _).bind fun ids => ?_
  exact traced_pure _

theorem dispatchTick_traced (haborts : d.aborts = true) (now : Time.Stamp) :
    (dispatchTick d now : Service τ (List String)).Traced := by
  refine (traced_store (enabledDefinitions_grows _ _)).bind fun candidates => ?_
  exact traced_mapM (fun workflow => spawn_traced haborts workflow _) _

/-- A request to abort a run is accepted, or it is nothing to a run. -/
theorem abortRun_traced (runId tenant : String) : (abortRun d runId tenant : Service τ Bool).Traced := by
  intro s
  obtain ⟨result, s', hrun, ⟨rfl, -⟩ | ⟨-, hcalm⟩⟩ := Server.abortRun_cases d runId tenant s
  · rw [hrun]
    exact ⟨_, (Server.Step.abort d runId tenant hrun).trace⟩
  · rw [hrun]
    exact ⟨_, (Server.Step.calm hcalm).trace⟩

/-- A workflow is tried out in a run that begins, and is waited for. -/
theorem testRun_traced (haborts : d.aborts = true) (workflowId tenant : String) (event : Event) :
    (testRun d workflowId tenant event : Service τ (RunResult τ)).Traced := by
  refine (traced_store (definition_grows _ _)).bind fun workflow s => ?_
  let runId := idOf (s.store.given + 1)
  let store₁ : Store τ := { s.store with given := s.store.given + 1 }
  have hfresh : (Operation.freshId : Operation τ String).run s.store = (.ok runId, store₁) := rfl
  have hstart := Runs.start_grows workflow event runId true s.now store₁
  rw [store_bind_run, hfresh]
  dsimp only
  rw [get_bind_run, store_bind_run]
  dsimp only [Server.now] at hstart ⊢
  rcases hop : (Runs.start workflow event runId true
    (Time.Stamp.ofInstant (s.origin + s.elapsed))).run store₁ with ⟨failure | row, store₂⟩ <;>
    rw [hop] at hstart
  · have hcalm : s.Calm { s with store := store₂ } :=
      ⟨Nat.le_refl _, Nat.le_of_succ_le hstart, rfl, rfl, .refl _⟩
    exact ⟨_, (Server.Step.calm hcalm).trace⟩
  · -- The run is in the store before its task is there, so the id is given before the run begins.
    let t : Task τ := {
      number := s.turns, kind := .test, dispatcher := d, runId, workflow, event, started := true
      wakesAt := s.elapsed, turn := s.turns, rest := (s.testEngine d).run workflow event runId }
    let s₁ : Server τ := { s with store := store₂, turns := s.turns + 1 }
    have hadmits : s.Admits t { s₁ with tasks := t :: s.tasks } :=
      ⟨Nat.le_refl _, Nat.le_of_succ_le hstart, rfl, .refl _⟩
    have hbegins := Server.Step.begins t (s.testEngine d) workflow event (s.store.given + 1) hadmits
      rfl (Nat.lt_succ_self _) hstart rfl haborts rfl
    obtain ⟨deeds, hawait⟩ := s₁.await_trace t
    exact ⟨_, hbegins.trace.trans hawait⟩

/-! ## Jobs -/

/-- A job is taken off the list of a server. -/
structure Takes (s : Server τ) (id : String) (s' : Server τ) : Prop where
  elapsed : s.elapsed ≤ s'.elapsed
  store : s'.store = s.store
  flags : s'.flags = s.flags
  tasks : s'.tasks = s.tasks
  scheduler : s'.scheduler = s.scheduler.remove id
  dispatcher : s'.dispatcher = s.dispatcher

omit [ActiveTime τ] [RunningMean τ] in
theorem Takes.calm {s s' : Server τ} {id : String} (h : Takes s id s') : s.Calm s' := by
  refine ⟨h.elapsed, Nat.le_of_eq (congrArg Store.given h.store.symm), ?_, h.tasks, ?_⟩
  · rw [h.flags]
  · rw [h.scheduler, Scheduler.resumptions_remove]
    exact List.filter_sublist

/-- A queued run is resumed and waited for, unless it cannot be read. -/
theorem resume_trace {s s' : Server τ} {id : String} {c : Continuation τ}
    (haborts : d.aborts = true) (h : Takes s id s') (hjob : (id, c) ∈ s.scheduler.resumptions) :
    ∃ deeds, s.Trace deeds ((resume d c).run s').2 := by
  have hcalm := h.calm
  unfold resume
  rcases Definition.codec.read (Value.object c.workflow) with workflow | issues
  · rcases Event.codec.read (Value.object c.event) with event | issues
    · let t : Task τ := {
        number := s'.turns, kind := .resumption, dispatcher := d, runId := c.runId, workflow, event
        started := true, wakesAt := s'.elapsed, turn := s'.turns, rest := (s'.engine d).resume c }
      let s₁ : Server τ := { s' with turns := s'.turns + 1 }
      have hadmits : s.Admits t { s₁ with tasks := t :: s₁.tasks } := by
        refine ⟨h.elapsed, hcalm.given, h.flags, ?_⟩
        rw [← h.tasks]
      -- The job is taken off the list and the run is under way in one step.
      have hresumes := Server.Step.resumes t (s'.engine d) id c hadmits hjob h.scheduler rfl
        haborts rfl
      obtain ⟨deeds, hawait⟩ := s₁.await_trace t
      exact ⟨_, hresumes.trace.trans hawait⟩
    · exact ⟨_, (Server.Step.calm hcalm).trace⟩
  · exact ⟨_, (Server.Step.calm hcalm).trace⟩

theorem doJob_trace {s s' : Server τ} {job : Job τ}
    (haborts : ∀ d, s'.dispatcher = some d → d.aborts = true) (h : Takes s job.id s')
    (hjob : job ∈ s.scheduler.jobs) : ∃ deeds, s.Trace deeds ((doJob job.work).run s').2 := by
  have hcalm := (Server.Step.calm h.calm).trace
  unfold doJob dispatcher
  rw [bind_assoc, get_bind_run]
  rcases hd : s'.dispatcher with _ | d
  · exact ⟨_, hcalm⟩
  · rw [pure_bind]
    rcases hwork : job.work with _ | c
    · have htick : (do let _ ← dispatchTick d s'.now : Service τ Unit).Traced :=
        (dispatchTick_traced (haborts d hd) s'.now).bind fun _ => traced_pure ()
      obtain ⟨deeds, htrace⟩ := htick s'
      dsimp only
      rw [get_bind_run]
      exact ⟨_, hcalm.trans htrace⟩
    · have hresumption : (job.id, c) ∈ s.scheduler.resumptions :=
        List.mem_filterMap.mpr ⟨job, hjob, by rw [Job.resumption, hwork]⟩
      obtain ⟨deeds, htrace⟩ := resume_trace (haborts d hd) h hresumption
      dsimp only
      rw [run_bind]
      rcases hresume : (resume d c).run s' with ⟨failure | told, s₂⟩ <;> rw [hresume] at htrace
      · exact ⟨_, htrace⟩
      · exact ⟨_, htrace⟩

/-- A job is done in steps, if runs are dispatched so that they can be aborted. -/
theorem doJobOf_trace (s : Server τ) (haborts : ∀ d, s.dispatcher = some d → d.aborts = true)
    (id : String) : ∃ deeds, s.Trace deeds ((doJobOf id).run s).2 := by
  unfold doJobOf
  rw [get_bind_run]
  rcases hfound : s.scheduler.job? id with _ | job
  · exact ⟨[], .start⟩
  · obtain rfl : job.id = id := by simpa using List.find?_some hfound
    have hjob : job ∈ s.scheduler.jobs := List.mem_of_find?_eq_some hfound
    dsimp only
    rw [modify_bind_run]
    rcases job.time with _ | moment
    · exact doJob_trace haborts ⟨Nat.le_refl _, rfl, rfl, rfl, rfl, rfl⟩ hjob
    · exact doJob_trace haborts ⟨Nat.le_max_left _ _, rfl, rfl, rfl, rfl, rfl⟩ hjob

end Service

end Automation
