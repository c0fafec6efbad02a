import Automation.Proofs.Run.Told
import Automation.Proofs.Server.Service
import Automation.Proofs.Store.Operations

/-!
# Moves of servers

Whatever happens to a server is made of a few moves of its store, its tasks and its queue: workflows
are edited, a run begins, it is put into the store, it waits, its result is recorded, it is resumed
(`Server.Move`). So who shows something of all that can happen has one case for each of them, and
needs to know neither how tasks take turns nor what dispatchers do.
-/

namespace Automation

open Schema

variable {τ : Type}

/-- What is noted of a server. -/
inductive Noted (τ : Type) where
  /-- A run is dispatched. -/
  | dispatched (runId : String)
  /-- The task of a run has ended. -/
  | ended (runId : String) (ending : Server.Ending τ)

namespace Server

/-- The clock of a server goes on. -/
structure Flows (s s' : Server τ) : Prop where
  elapsed : s.elapsed ≤ s'.elapsed
  origin : s'.origin = s.origin

variable [ActiveTime τ] [RunningMean τ]

/-- Why a task ends without a result. -/
inductive Fails (s : Server τ) (t : Task τ) (store : Store τ) : Failed → Prop where
  /-- Its run cannot be put into the store. -/
  | refused {failure : Failed} (now : Time.Stamp) (hstarted : t.started = false)
      (hrun : (Runs.start t.workflow t.event t.runId (t.kind = .test) now).run s.store
        = (.error failure, store)) : Fails s t store failure
  /-- Its run has no result. -/
  | escaped (talk : List Exchange) (cause : Escape) (hstarted : t.started = true)
      (hclock : ∀ reading : Nat, ⟨.clock, reading⟩ ∈ talk → reading = s.elapsed)
      (hrest : t.rest.Course talk (.error cause)) (hstore : store = s.store) :
      Fails s t store (.escape cause)
  /-- The result of its run cannot be stored. -/
  | unrecorded {failure : Failed} (talk : List Exchange) (told : RunResult τ) (now : Time.Stamp)
      (hstarted : t.started = true) (hrest : t.rest.Course talk (.ok told))
      (hrun : (Runs.record t.workflow t.event told (t.kind = .test) now).run s.store
        = (.error failure, store)) : Fails s t store failure

/-- What becomes of the queue when a result is recorded. -/
def queued (queue : List (String × Continuation τ)) (t : Task τ) (told : RunResult τ) :
    List (String × Continuation τ) :=
  match told.status, told.continuation with
  | .suspended, some c =>
    if t.kind ≠ .test ∧ t.dispatcher.suspends then
      queue.filter (·.1 ≠ resumeJobId c.runId) ++ [(resumeJobId c.runId, c)]
    else queue
  | _, _ => queue

/-- The least changes of which all acts are made: of the rows, of the tasks, and of the queue. -/
inductive Move (s s' : Server τ) : List (Noted τ) → Prop where
  | idles (given : Nat) (outage : Option Outage) (hgiven : s.store.given ≤ given)
      (hstore : s'.store = { s.store with given, outage }) (htasks : s'.tasks = s.tasks)
      (hqueue : s'.scheduler.resumptions = s.scheduler.resumptions) : Move s s' []
  | edits (tenant : String) (hstore : Store.Edits tenant s.store s'.store)
      (htasks : s'.tasks = s.tasks) (hqueue : s'.scheduler.resumptions = s.scheduler.resumptions) :
      Move s s' []
  /-- A run of a stored workflow begins. -/
  | joins (t : Task τ) (e : Engine) (row : WorkflowRow τ) (outage : Option Outage)
      (hstore : s'.store = { s.store with given := s.store.given + 1, outage })
      (htasks : s'.tasks.Perm (t :: s.tasks))
      (hqueue : s'.scheduler.resumptions = s.scheduler.resumptions)
      (hid : t.runId = idOf (s.store.given + 1)) (hstarted : t.started = false)
      (hkind : t.kind ≠ .resumption) (hrow : row ∈ s.store.workflows)
      (hworkflow : row.definition = .ok t.workflow) (hevent : t.event.Storable)
      (horigin : e.origin = s.origin)
      (hsuspends : e.suspendFrom.isSome = true → t.kind ≠ .test ∧ t.dispatcher.suspends = true)
      (hrest : t.rest = e.run t.workflow t.event t.runId) :
      Move s s' (if t.kind = .test then [] else [.dispatched t.runId])
  /-- The run of a task is put into the store. -/
  | starts (t : Task τ) (others : List (Task τ)) (now : Time.Stamp) {row : RunRow}
      (hstarted : t.started = false) (htasks : s.tasks.Perm (t :: others))
      (hrun : (Runs.start t.workflow t.event t.runId (t.kind = .test) now).run s.store
        = (.ok row, s'.store))
      (htasks' : s'.tasks.Perm ({ t with started := true } :: others))
      (hqueue : s'.scheduler.resumptions = s.scheduler.resumptions) : Move s s' []
  /-- A task comes to wait for something. -/
  | waits (t : Task τ) (others : List (Task τ)) (talk : List Exchange)
      (rest : Dialogue (Except Escape (RunResult τ))) (wakesAt turn : Nat)
      (hstarted : t.started = true) (htasks : s.tasks.Perm (t :: others))
      (hclock : ∀ reading : Nat, ⟨.clock, reading⟩ ∈ talk → reading = s'.elapsed)
      (hrest : t.rest.Reaches talk rest) (hstore : s'.store = s.store)
      (htasks' : s'.tasks.Perm ({ t with rest, wakesAt, turn } :: others))
      (hqueue : s'.scheduler.resumptions = s.scheduler.resumptions) : Move s s' []
  | fails (t : Task τ) (others : List (Task τ)) {failure : Failed}
      (h : s.Fails t s'.store failure) (htasks : s.tasks.Perm (t :: others))
      (htasks' : s'.tasks.Perm others)
      (hqueue : s'.scheduler.resumptions = s.scheduler.resumptions) :
      Move s s' [.ended t.runId (.error failure)]
  /-- A task ends, and its result is stored. -/
  | records (t : Task τ) (others : List (Task τ)) (talk : List Exchange) (told : RunResult τ)
      (now : Time.Stamp) {row : RunRow} (hstarted : t.started = true)
      (htasks : s.tasks.Perm (t :: others))
      (hclock : ∀ reading : Nat, ⟨.clock, reading⟩ ∈ talk → reading = s'.elapsed)
      (hrest : t.rest.Course talk (.ok told))
      (hrun : (Runs.record t.workflow t.event told (t.kind = .test) now).run s.store
        = (.ok row, s'.store))
      (htasks' : s'.tasks.Perm others)
      (hqueue : s'.scheduler.resumptions = queued s.scheduler.resumptions t told) :
      Move s s' [.ended t.runId (.ok told)]
  /-- A suspended run goes on. -/
  | resumes (t : Task τ) (e : Engine) (id : String) (c : Continuation τ)
      (hjob : (id, c) ∈ s.scheduler.resumptions)
      (hqueue : s'.scheduler.resumptions = s.scheduler.resumptions.filter (·.1 ≠ id))
      (hworkflow : Definition.codec.read (Value.object c.workflow) = .ok t.workflow)
      (hstore : s'.store = s.store) (htasks : s'.tasks.Perm (t :: s.tasks))
      (hid : t.runId = c.runId) (hstarted : t.started = true) (hkind : t.kind = .resumption)
      (horigin : e.origin = s.origin)
      (hsuspends : e.suspendFrom.isSome = true → t.dispatcher.suspends = true)
      (hrest : t.rest = e.resume c) : Move s s' []
  /-- A suspended run cannot be read and is given up. -/
  | loses (id : String) (c : Continuation τ) (hjob : (id, c) ∈ s.scheduler.resumptions)
      (hqueue : s'.scheduler.resumptions = s.scheduler.resumptions.filter (·.1 ≠ id))
      (hunread : (∀ d, Definition.codec.read (Value.object c.workflow) ≠ .ok d) ∨
        ∀ event, Event.codec.read (Value.object c.event) ≠ .ok event)
      (hstore : s'.store = s.store) (htasks : s'.tasks = s.tasks) : Move s s' []

/-- One move after another. -/
inductive Moves (s₀ : Server τ) : List (Noted τ) → Server τ → Prop where
  | start : Moves s₀ [] s₀
  | move {log more : List (Noted τ)} {s s' : Server τ} (h : Moves s₀ log s) (hmove : s.Move s' more)
      (hflows : s.Flows s') : Moves s₀ (log ++ more) s'

section Moves

variable {s₀ s s' : Server τ} {log more : List (Noted τ)}

theorem Move.moves (h : s.Move s' log) (hflows : s.Flows s') : s.Moves log s' :=
  .move .start h hflows

theorem Moves.trans (h : s₀.Moves log s) (h' : s.Moves more s') : s₀.Moves (log ++ more) s' := by
  induction h' with
  | start => exact (List.append_nil log).symm ▸ h
  | move _ hmove hflows ih => exact List.append_assoc .. ▸ ih.move hmove hflows

theorem Moves.flows (h : s.Moves log s') : s.Flows s' := by
  induction h with
  | start => exact ⟨Nat.le_refl _, rfl⟩
  | move _ _ hflows ih => exact ⟨Nat.le_trans ih.elapsed hflows.elapsed, hflows.origin.trans ih.origin⟩

end Moves

/-! ## Turns are moves -/

omit [ActiveTime τ] [RunningMean τ] in
/-- The clock shows the same time all through a talk. -/
theorem talk_clock {α : Type} {s : Server τ} {d : Dialogue α} {reading : Nat}
    (h : ⟨.clock, reading⟩ ∈ s.talk d) : reading = s.elapsed := by
  induction d with
  | done a => cases h
  | ask r next ih =>
    cases r with
    | clock =>
      rcases List.mem_cons.mp h with h | h
      · cases h
        rfl
      · exact ih _ h
    | aborted asked =>
      rcases List.mem_cons.mp h with h | h
      · cases h
      · exact ih _ h
    | sleep seconds => cases List.mem_singleton.mp h
    | call c timeout => cases List.mem_singleton.mp h

section Turns

variable {s : Server τ} {t : Task τ} {before behind : List (Task τ)}

omit [ActiveTime τ] [RunningMean τ] in
theorem talkOf_clock {reading : Nat} (h : ⟨.clock, reading⟩ ∈ s.talkOf t) :
    reading = max s.elapsed t.wakesAt := by
  obtain ⟨result, store, hbegin, -⟩ := Service.begin_run (s.awake t) t
  unfold talkOf at h
  rw [hbegin] at h
  rcases result with failure | ⟨⟩
  · cases h
  · exact talk_clock h

/-- A task that begins puts its run into the store, or it ends. -/
theorem begin_moves (htasks : s.tasks = before ++ t :: behind) :
    (∃ store, (Service.begin t).run s = (.ok (), { s with store }) ∧
      s.Moves [] { s with store, tasks := before ++ { t with started := true } :: behind }) ∨
    ∃ failure store, (Service.begin t).run s = (.error failure, { s with store }) ∧
      s.Moves [.ended t.runId (.error failure)] { s with store, tasks := before ++ behind } := by
  have hothers : s.tasks.Perm (t :: (before ++ behind)) := htasks ▸ List.perm_middle
  unfold Service.begin
  by_cases hstarted : t.started = true
  · refine .inl ⟨s.store, by simp [hstarted], ?_⟩
    have hsame : { t with started := true } = t := by rw [← hstarted]
    rw [hsame, ← htasks]
    exact .start
  · have hidle : t.started = false := Bool.eq_false_iff.mpr hstarted
    rw [if_neg hstarted, Service.get_bind_run, Service.store_bind_run]
    rcases hrun : (Runs.start t.workflow t.event t.runId (t.kind = .test) s.now).run s.store
      with ⟨failure | row, store⟩
    · refine .inr ⟨failure, store, rfl, Move.moves ?_ ⟨Nat.le_refl _, rfl⟩⟩
      exact .fails t _ (.refused s.now hidle hrun) hothers (.refl _) rfl
    · refine .inl ⟨store, rfl, Move.moves ?_ ⟨Nat.le_refl _, rfl⟩⟩
      exact .starts t _ s.now hidle hothers hrun List.perm_middle rfl

omit [ActiveTime τ] [RunningMean τ] in
/-- What follows a run that is recorded: it may be queued. -/
theorem afterRun_queued (s : Server τ) (told : RunResult τ) (h : t.kind ≠ .test) :
    ∃ flags scheduler, (Service.afterRun t.dispatcher told).run s
        = (.ok (), { s with flags, scheduler }) ∧
      scheduler.resumptions = queued s.scheduler.resumptions t told := by
  unfold Service.afterRun
  rw [Service.modify_run]
  -- Only a run that is told as suspended may be queued.
  have hover : ∃ flags scheduler, ((.ok (), if t.dispatcher.aborts then
        { s with flags := s.flags.clear told.runId } else s) : Except Failed Unit × Server τ)
        = (.ok (), { s with flags, scheduler }) ∧
      scheduler.resumptions = s.scheduler.resumptions := by
    split
    · exact ⟨_, _, rfl, rfl⟩
    · exact ⟨_, _, rfl, rfl⟩
  cases hstatus : told.status <;> cases hc : told.continuation <;> simp only [queued, hstatus, hc]
  case suspended.some c =>
    by_cases hsuspends : t.dispatcher.suspends = true
    · rw [if_pos hsuspends, if_pos ⟨h, hsuspends⟩]
      exact ⟨s.flags, _, rfl, s.scheduler.resumptions_add (.resume c)⟩
    · rw [if_neg hsuspends, if_neg fun hboth => hsuspends hboth.2]
      exact ⟨s.flags, s.scheduler, rfl, rfl⟩
  all_goals exact hover

/-- A run that ends is recorded, or its task fails. -/
theorem conclude_moves (before behind : List (Task τ)) {talk : List Exchange}
    {outcome : Except Escape (RunResult τ)} {ending : Ending τ} {s' : Server τ}
    (hclock : ∀ reading : Nat, ⟨.clock, reading⟩ ∈ talk → reading = s.elapsed)
    (hrest : t.rest.Course talk outcome)
    (hconclude : (Service.conclude t outcome).run s = (ending, s')) :
    ({ s with tasks := before ++ { t with started := true } :: behind } : Server τ).Moves
      [.ended t.runId ending] { s' with tasks := before ++ behind } := by
  let s₁ : Server τ := { s with tasks := before ++ { t with started := true } :: behind }
  let t₁ : Task τ := { t with started := true }
  have hothers : s₁.tasks.Perm (t₁ :: (before ++ behind)) := List.perm_middle
  have hflows (s' : Server τ) (h : s'.elapsed = s.elapsed) (h' : s'.origin = s.origin) :
      s₁.Flows s' := ⟨Nat.le_of_eq h.symm, h'⟩
  have hconcludes := Service.conclude_concludes s t outcome
  rw [hconclude] at hconcludes
  cases hconcludes with
  | escaped cause =>
    exact Move.moves (.fails t₁ _ (.escaped talk cause rfl hclock hrest rfl) hothers (.refl _) rfl)
      (hflows _ rfl rfl)
  | unrecorded told failure store hrun =>
    exact Move.moves (.fails t₁ _ (.unrecorded talk told s.now rfl hrest hrun) hothers (.refl _) rfl)
      (hflows _ rfl rfl)
  | tried told row store hkind hrun =>
    refine Move.moves (.records t₁ _ talk told s.now rfl hothers hclock hrest hrun (.refl _) ?_)
      (hflows _ rfl rfl)
    unfold queued
    simp only [hkind, t₁, ne_eq, not_true_eq_false, false_and, if_false]
    split <;> rfl
  | recorded told row store flags scheduler hkind hrun hafter =>
    obtain ⟨flags', scheduler', hafter', hqueue⟩ := afterRun_queued { s with store } told hkind
    cases hafter'.symm.trans hafter
    exact Move.moves (.records t₁ _ talk told s.now rfl hothers hclock hrest hrun (.refl _) hqueue)
      (hflows _ rfl rfl)

theorem turn_of_waits {u : Task τ} {s' : Server τ} (h : s.takeTurn t = (.inl u, s')) :
    s.turn before t behind = (none, { s' with tasks := before ++ u :: behind }) := by
  unfold turn
  rw [h]

theorem turn_of_ended {ending : Ending τ} {s' : Server τ} (h : s.takeTurn t = (.inr ending, s')) :
    s.turn before t behind = (some ending, { s' with tasks := before ++ behind }) := by
  unfold turn
  rw [h]

/-- In its turn a task begins if it has to, and it waits or it ends. -/
theorem turn_moves (htasks : s.tasks = before ++ t :: behind) :
    s.Moves ((s.turn before t behind).1.toList.map (.ended t.runId))
      (s.turn before t behind).2 := by
  have hawake : s.Moves [] (s.awake t) :=
    Move.moves (.idles _ _ (Nat.le_refl _) rfl rfl rfl) ⟨Nat.le_max_left _ _, rfl⟩
  have hbegins := begin_moves (s := s.awake t) htasks
  rcases htake : s.takeTurn t with ⟨became | ending, s'⟩ <;> have htakes := s.takeTurn_takes t <;>
    rw [htake] at htakes
  · rw [turn_of_waits htake]
    cases htakes with
    | waits s₁ store wakesAt rest script calls hs₁ hbegin hgiven htalk hconverse hrest hslow =>
      obtain ⟨store', hbegin', hbegun⟩ | ⟨failure, store', hbegin', -⟩ := hbegins <;>
        rw [hbegin'] at hbegin <;> cases hbegin
      let t₁ : Task τ := { t with started := true }
      let u : Task τ := { t₁ with wakesAt, turn := s.turns, rest }
      cases hs₁
      let s₁ : Server τ := { s.awake t with store }
      have hwaits : ({ s₁ with tasks := before ++ t₁ :: behind } : Server τ).Moves []
          { s₁ with script, calls, turns := s.turns + 1, tasks := before ++ u :: behind } :=
        Move.moves (.waits t₁ _ (s.talkOf t) rest wakesAt s.turns rfl List.perm_middle
          (fun _ => talkOf_clock) hrest rfl List.perm_middle rfl) ⟨Nat.le_refl _, rfl⟩
      exact hawake.trans (hbegun.trans hwaits)
  · rw [turn_of_ended htake]
    cases htakes with
    | refused failure store hbegin hgiven htalk =>
      obtain ⟨store', hbegin', -⟩ | ⟨failure, store', hbegin', hfails⟩ := hbegins <;>
        rw [hbegin'] at hbegin <;> cases hbegin
      exact hawake.trans hfails
    | ends s₁ s' store outcome ending hs₁ hbegin hgiven htalk hconverse hcourse hconclude =>
      obtain ⟨store', hbegin', hbegun⟩ | ⟨failure, store', hbegin', -⟩ := hbegins <;>
        rw [hbegin'] at hbegin <;> cases hbegin
      have hends := conclude_moves (s := { s.awake t with store := store' }) before behind
        (fun _ => talkOf_clock) hcourse hconclude
      exact hawake.trans (hbegun.trans hends)

end Turns

end Server

end Automation
