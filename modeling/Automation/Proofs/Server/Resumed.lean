import Automation.Proofs.Run.Restore
import Automation.Proofs.Server.Books
import Automation.Proofs.Server.Twins

/-!
# Runs that are resumed

A run that goes on is waited for, and what comes of it is recorded in its row and in the record of its
workflow, at the end of whatever turns the tasks take meanwhile (`Server.resume_recorded`). What is
looked at before the run goes on must be readable, though: a continuation whose definition or event
cannot be read is given up without a word in the row.
-/

namespace Automation

open Schema

variable {τ : Type}

/-! ## Stores in order -/

/-- The store is in order, and a run is there. -/
structure Store.Ready (s : Store τ) (runId : String) : Prop where
  outage : s.outage = none
  row : ∃ x, s.run? runId = some x

section Ready

variable {s : Store τ} {runId : String}

theorem Store.Ready.insertRun (h : s.Ready runId) (row : RunRow) : (s.insertRun row).Ready runId := by
  obtain ⟨x, hx⟩ := h.row
  refine ⟨h.outage, x, ?_⟩
  unfold Store.run? Store.insertRun at *
  rw [List.find?_append, hx]
  rfl

theorem Store.Ready.changeRun (h : s.Ready runId) (other : String) {f : RunRow → RunRow}
    (hf : ∀ r, (f r).id = r.id) : (s.changeRun other f).Ready runId := by
  obtain ⟨x, hx⟩ := h.row
  by_cases hid : runId = other
  · subst hid
    exact ⟨h.outage, _, Store.run?_change hf hx⟩
  · exact ⟨h.outage, x, (Store.run?_change_other hf hid).trans hx⟩

/-- A store that is in order makes a change, unless it is refused. -/
theorem Operation.commit_bind_ready {α : Type} (g : Store τ → Except StoreFault (Store τ))
    (next : Operation τ α) (h : s.outage = none) :
    (commit g >>= fun _ => next).run s = match g s with
      | .ok s' => next.run s'
      | .error fault => (.error (.store fault), s) := by
  have huse : (use .commit).run s = (.ok (), s) := by
    change (((s.use .commit).1.mapError Failed.store, (s.use .commit).2) : Except Failed Unit × _) = _
    unfold Store.use
    rw [h]
    rfl
  have hget : (get : Operation τ (Store τ)).run s = (.ok s, s) := rfl
  unfold commit
  rw [bind_assoc, run_bind, huse]
  dsimp only
  rw [bind_assoc, run_bind, hget]
  dsimp only
  cases g s <;> rfl

end Ready

namespace Runs

open Operation

variable {d : Definition} {event : Event} {isTest : Bool} {now : Time.Stamp} {runId : String}
  {s : Store τ}

theorem start_ready (d : Definition) (event : Event) (id : String) (isTest : Bool)
    (now : Time.Stamp) (h : s.Ready runId) :
    ((start d event id isTest now).run s).2.Ready runId := by
  unfold start
  rw [commit_bind_ready _ _ h.outage]
  split
  · rename_i s' hs'
    obtain ⟨row, -, hs'⟩ := Except.bind_eq_ok.mp hs'
    split at hs'
    · cases hs'
    · obtain rfl := Except.ok.inj hs'
      rw [current_store]
      exact h.insertRun row
  · exact h

variable [ActiveTime τ] [RunningMean τ] {result : RunResult τ}

omit [RunningMean τ] in
theorem saved_ready {s' : Store τ} (h : s.Ready runId)
    (hs' : saved s d event result isTest now = .ok s') : s'.Ready runId := by
  obtain ⟨_, -, hs'⟩ := Except.bind_eq_ok.mp hs'
  split at hs'
  · obtain rfl := Except.ok.inj hs'
    exact h.changeRun _ fun _ => rfl
  · obtain ⟨row, -, hs'⟩ := Except.bind_eq_ok.mp hs'
    obtain rfl := Except.ok.inj hs'
    exact h.insertRun _

theorem record_ready (d : Definition) (event : Event) (result : RunResult τ) (isTest : Bool)
    (now : Time.Stamp) (h : s.Ready runId) :
    ((record d event result isTest now).run s).2.Ready runId := by
  unfold record
  dsimp only
  split
  · exact h
  · rw [commit_bind_ready _ _ h.outage]
    split
    · rename_i s' hs'
      obtain ⟨s₁, hs₁, hs'⟩ := Except.bind_eq_ok.mp hs'
      obtain rfl := Except.ok.inj hs'
      have hready := saved_ready h hs₁
      rw [current_store]
      split
      · exact ⟨hready.outage, hready.row⟩
      · exact hready
    · exact h

/-- The store can hold how long a run took. -/
structure Fits (d : Definition) (isTest : Bool) (result : RunResult τ) : Prop where
  column : storable result.durationMs = true
  mean : (countsFor d isTest).isSome → result.status ≠ .suspended →
    floatHolds result.durationMs = true

/-- A store that is in order takes an outcome in, if it can hold how long the run took. -/
theorem record_ready_cases (d : Definition) (event : Event) (isTest : Bool) (now : Time.Stamp)
    (h : s.Ready result.runId) :
    (Fits d isTest result ∧ ∃ row, (record d event result isTest now).run s
      = (.ok row, recorded s d result isTest now)) ∨
    ¬Fits d isTest result ∧ ∃ fault, (record d event result isTest now).run s
      = (.error (.store fault), s) := by
  obtain ⟨x, hx⟩ := h.row
  have hcurrent : (current result.runId : Operation τ RunRow).run (recorded s d result isTest now)
      = (.ok (outcome x result now), recorded s d result isTest now) := current_run (recorded_run? hx)
  unfold record
  dsimp only
  split
  · rename_i hhuge
    refine .inr ⟨fun hfits => ?_, _, rfl⟩
    simp only [Bool.and_eq_true, decide_eq_true_eq, Bool.not_eq_true'] at hhuge
    obtain ⟨⟨hcounts, hstatus⟩, hfloat⟩ := hhuge
    rw [hfits.mean hcounts hstatus] at hfloat
    cases hfloat
  · rename_i hheld
    simp only [Bool.and_eq_true, decide_eq_true_eq, Bool.not_eq_true'] at hheld
    have hmean (hcounts : (countsFor d isTest).isSome) (hstatus : result.status ≠ .suspended) :
        floatHolds result.durationMs = true :=
      Bool.not_eq_false _ ▸ fun hfloat => hheld ⟨⟨hcounts, hstatus⟩, hfloat⟩
    rw [commit_bind_ready _ _ h.outage]
    unfold saved stored
    rw [hx]
    by_cases hcolumn : storable result.durationMs = true
    · refine .inl ⟨⟨hcolumn, hmean⟩, outcome x result now, ?_⟩
      rw [if_pos hcolumn]
      exact hcurrent
    · refine .inr ⟨fun hfits => hcolumn hfits.column, .longInteger, ?_⟩
      rw [if_neg hcolumn]
      rfl

end Runs

/-- A task is what is left of another. -/
def Task.Continues (u t : Task τ) : Prop :=
  ∃ (talk : List Exchange) (rest : Dialogue (Except Escape (RunResult τ))) (wakesAt turn : Nat),
    u = { t with rest, wakesAt, turn } ∧ t.rest.Reaches talk rest

theorem Task.Continues.trans {u v t : Task τ} (h : u.Continues v) (h' : v.Continues t) :
    u.Continues t := by
  obtain ⟨talk, rest, wakesAt, turn, rfl, hreach⟩ := h
  obtain ⟨talk', rest', _, _, rfl, hreach'⟩ := h'
  exact ⟨_, rest, wakesAt, turn, rfl, hreach'.trans hreach⟩

/-- What is looked at before the run of a continuation goes on. -/
structure Continuation.Reads (c : Continuation τ) (workflow : Definition)
    (event : Event) : Prop where
  workflow : Codec.read Definition.codec (Value.object c.workflow) = .ok workflow
  event : Codec.read Event.codec (Value.object c.event) = .ok event

/-! ## Turns on a store in order -/

namespace Server

variable [ActiveTime τ] [RunningMean τ] {s : Server τ} {runId : String}

omit [ActiveTime τ] [RunningMean τ] in
theorem begin_ready (t : Task τ) (h : s.store.Ready runId) :
    ((Service.begin t).run s).2.store.Ready runId := by
  unfold Service.begin
  split
  · exact h
  · rw [Service.get_bind_run, Service.store_bind_run]
    have hready := Runs.start_ready t.workflow t.event t.runId (t.kind = .test) s.now h
    split <;> rename_i hrun <;> rw [hrun] at hready <;> exact hready

theorem conclude_ready (t : Task τ) (outcome : Except Escape (RunResult τ))
    (h : s.store.Ready runId) : ((Service.conclude t outcome).run s).2.store.Ready runId := by
  rcases Service.conclude_store s t outcome with hstore | ⟨told, -, hstore⟩ <;> rw [hstore]
  · exact h
  · exact Runs.record_ready t.workflow t.event told (t.kind = .test) s.now h

/-- No turn puts the store out of order or takes a run away. -/
theorem turn_ready (before : List (Task τ)) (t : Task τ) (behind : List (Task τ))
    (h : s.store.Ready runId) : (s.turn before t behind).2.store.Ready runId := by
  have htake : (s.takeTurn t).2.store.Ready runId := by
    have hbegun := begin_ready (s := s.awake t) t h
    have htakes := s.takeTurn_takes t
    generalize s.takeTurn t = taken at htakes
    cases htakes with
    | refused failure store hbegin hgiven htalk =>
      rw [hbegin] at hbegun
      exact hbegun
    | waits s₁ store wakesAt rest script calls hs₁ hbegin hgiven htalk hconverse hrest hslow =>
      rw [hbegin] at hbegun
      exact hbegun
    | ends s₁ s' store outcome ending hs₁ hbegin hgiven htalk hconverse hcourse hconclude =>
      rw [hbegin] at hbegun
      have hconcluded := conclude_ready t outcome hbegun
      rwa [hconclude] at hconcluded
  unfold turn
  split <;> rename_i hrun <;> rw [hrun] at htake <;> exact htake

/-! ## Waiting for a task -/

section Await

variable {P : Server τ → Prop}

/-- What holds up to the turn in which an awaited task ends. -/
theorem takeTurns_ends (number : Nat) (hthere : ∀ s : Server τ, P s → s.tasks ≠ [])
    (hturn : ∀ (s : Server τ) before u behind, s.tasks = before ++ u :: behind → P s →
      (u.number = number → (s.turn before u behind).1 = none) → P (s.turn before u behind).2)
    (h : P s) : ∃ (s₁ : Server τ) (before : _) (u : Task τ) (behind : _) (ending : Ending τ),
      P s₁ ∧ s₁.tasks = before ++ u :: behind ∧ u.number = number ∧
      s₁.turn before u behind = (some ending, (s.takeTurns (fun _ => true) (some number)).2) ∧
      (s.takeTurns (fun _ => true) (some number)).1 = some ending := by
  fun_induction takeTurns s (fun _ => true) (some number) with
  | case1 s hnext =>
    obtain ⟨next, hsome⟩ := nextTask_isSome (hthere s h)
    rw [hsome] at hnext
    cases hnext
  | case2 s before u behind hnext hmay ending s' hturned hawaited =>
    exact ⟨s, before, u, behind, ending, h, nextTask_eq hnext, (Option.some.inj hawaited).symm,
      hturned, rfl⟩
  | case3 s before u behind hnext hmay ending s' hturned hawaited ih =>
    have hafter := hturn s before u behind (nextTask_eq hnext) h
      fun hnumber => absurd (congrArg some hnumber.symm) hawaited
    rw [hturned] at hafter
    exact ih hafter
  | case4 s before u behind hnext hmay s' hturned ih =>
    have hafter := hturn s before u behind (nextTask_eq hnext) h fun _ => congrArg Prod.fst hturned
    rw [hturned] at hafter
    exact ih hafter
  | case5 s before u behind hnext hmay => exact absurd rfl hmay

/-- Whoever waits for a task waits for a turn in which it ends. -/
theorem await_ends {t : Task τ} (hthere : ∀ s : Server τ, P s → s.tasks ≠ [])
    (hturn : ∀ (s : Server τ) before u behind, s.tasks = before ++ u :: behind → P s →
      (u.number = t.number → (s.turn before u behind).1 = none) → P (s.turn before u behind).2)
    (h : P { s with tasks := t :: s.tasks }) :
    ∃ (s₁ : Server τ) (before : _) (u : Task τ) (behind : _), P s₁ ∧
      s₁.tasks = before ++ u :: behind ∧ u.number = t.number ∧
      s₁.turn before u behind = (some (s.await t).1, (s.await t).2) := by
  have hfirst := hturn { s with tasks := t :: s.tasks } [] t s.tasks rfl h
  have hbeside := s.turn_beside (t :: s.tasks) [] t s.tasks
  rw [hbeside] at hfirst
  unfold await
  rcases hturned : s.turn [] t s.tasks with ⟨_ | ending, s₁⟩ <;> rw [hturned] at hfirst hbeside
  · obtain ⟨s₂, before, u, behind, ending, hP, htasks, hnumber, hlast, hending⟩ :=
      takeTurns_ends t.number hthere hturn (hfirst fun _ => rfl)
    refine ⟨s₂, before, u, behind, hP, htasks, hnumber, ?_⟩
    dsimp only
    rw [hending]
    exact hlast
  · exact ⟨_, [], t, s.tasks, h, rfl, rfl, hbeside⟩

end Await

/-! ## The turns of a task -/

section Turns

variable {t u : Task τ} {before behind : List (Task τ)}

/-- A task whose run is in the store waits, or it ends with what is concluded. -/
theorem turn_started (s : Server τ) (before behind : List (Task τ)) (hstarted : t.started = true) :
    (∃ u s', u.Continues t ∧ s.turn before t behind = (none, s') ∧
      s'.tasks = before ++ u :: behind) ∨
    ∃ talk outcome ending s', t.rest.Course talk outcome ∧
      (Service.conclude t outcome).run (s.awake t) = (ending, s') ∧
      s.turn before t behind = (some ending, { s' with tasks := before ++ behind }) := by
  have hbegun : (Service.begin t).run (s.awake t) = (.ok (), s.awake t) := by
    simp [Service.begin, hstarted]
  rcases htake : s.takeTurn t with ⟨u | ending, s'⟩ <;> have htakes := s.takeTurn_takes t <;>
    rw [htake] at htakes
  · refine .inl ⟨u, _, ?_, turn_of_waits htake, rfl⟩
    cases htakes with
    | waits s₁ store wakesAt rest script calls hs₁ hbegin hgiven htalk hconverse hrest hslow =>
      exact ⟨s.talkOf t, rest, wakesAt, s.turns, by rw [← hstarted], hrest⟩
  · cases htakes with
    | refused failure store hbegin hgiven htalk =>
      rw [hbegun] at hbegin
      cases hbegin
    | ends s₁ s' store outcome ending hs₁ hbegin hgiven htalk hconverse hcourse hconclude =>
      rw [hbegun] at hbegin
      obtain ⟨-, rfl⟩ := Prod.mk.inj hbegin
      exact .inr ⟨s.talkOf t, outcome, ending, s', hcourse, hconclude, turn_of_ended htake⟩

/-- A task is under way, and the store is in order. -/
structure Awaits (s : Server τ) (t : Task τ) : Prop where
  ready : s.store.Ready t.runId
  there : ∃ u ∈ s.tasks, u.number = t.number
  own : ∀ u ∈ s.tasks, u.number = t.number → u.Continues t

theorem Awaits.turn (h : s.Awaits t) (hstarted : t.started = true)
    (htasks : s.tasks = before ++ u :: behind)
    (hgoes : u.number = t.number → (s.turn before u behind).1 = none) :
    (s.turn before u behind).2.Awaits t := by
  have hready := turn_ready before u behind h.ready
  have hu : u ∈ s.tasks := htasks ▸ List.mem_append_cons_self
  -- Whatever comes in the place of the task, the others stay where they are.
  have hkeeps {s' : Server τ} (next : List (Task τ)) (hs' : s'.store.Ready t.runId)
      (htasks' : s'.tasks = before ++ next ++ behind)
      (hthere : u.number = t.number → ∃ v ∈ next, v.number = t.number)
      (hown : ∀ v ∈ next, v.number = t.number → v.Continues t) : s'.Awaits t := by
    refine ⟨hs', ?_, fun v hv hsame => ?_⟩
    · obtain ⟨v, hv, hsame⟩ := h.there
      rw [htasks, List.mem_append, List.mem_cons] at hv
      rcases hv with hv | rfl | hv
      · exact ⟨v, by simp [htasks', hv], hsame⟩
      · obtain ⟨w, hw, hwsame⟩ := hthere hsame
        exact ⟨w, by simp [htasks', hw], hwsame⟩
      · exact ⟨v, by simp [htasks', hv], hsame⟩
    · rw [htasks', List.mem_append, List.mem_append] at hv
      rcases hv with (hv | hv) | hv
      · exact h.own v (by simp [htasks, hv]) hsame
      · exact hown v hv hsame
      · exact h.own v (by simp [htasks, hv]) hsame
  by_cases hnumber : u.number = t.number
  · have hcontinues := h.own u hu hnumber
    have hstarted' : u.started = true := by
      obtain ⟨_, _, _, _, rfl, -⟩ := hcontinues
      exact hstarted
    rcases s.turn_started before behind hstarted' with ⟨v, s', hv, hturned, htasks'⟩ |
      ⟨_, _, _, _, _, _, hturned⟩
    · rw [hturned] at hready ⊢
      have hsame : v.number = t.number := by
        obtain ⟨_, _, _, _, rfl, -⟩ := hv
        exact hnumber
      refine hkeeps [v] hready (by simpa using htasks') (fun _ => ⟨v, List.mem_singleton_self v, hsame⟩)
        fun w hw _ => ?_
      obtain rfl := List.mem_singleton.mp hw
      exact hv.trans hcontinues
    · rw [hturned] at hgoes
      cases hgoes hnumber
  · obtain ⟨-, hafter, -⟩ := s.turn_cases before u behind
    have hgone (htasks' : (s.turn before u behind).2.tasks = before ++ behind) :
        (s.turn before u behind).2.Awaits t :=
      hkeeps [] hready (by simpa using htasks') (fun hsame => absurd hsame hnumber)
        (List.forall_mem_nil _)
    cases hafter with
    | waits v talk x hsame hrun hdispatcher hrest htalk hx htasks' =>
      refine hkeeps [v] hready (by simpa using htasks') (fun hsame => absurd hsame hnumber)
        fun w hw hw' => ?_
      obtain rfl := List.mem_singleton.mp hw
      exact absurd (hsame.symm.trans hw') hnumber
    | broke _ htasks' => exact hgone htasks'
    | ended _ _ htasks' => exact hgone htasks'
    | cleared _ _ htasks' => exact hgone htasks'
    | queued _ _ _ _ _ htasks' => exact hgone htasks'

end Turns

/-! ## What is recorded -/

/-- What was told of a resumed run is recorded: in its row, in the record of its workflow, and among
the jobs if it was suspended again. -/
structure Records (s : Server τ) (workflow : Definition) (told : RunResult τ) (s' : Server τ) :
    Prop where
  store : s'.store = Runs.recorded s.store workflow told false s'.now
  row : ∃ x, s.store.run? told.runId = some x ∧
    s'.store.run? told.runId = some (Runs.outcome x told s'.now)
  counted : ∀ id r, Runs.countsFor workflow false = some id → s.store.workflow? id = some r →
    s'.store.workflow? id
      = some (if told.status = .suspended then r.markRunning s'.now else r.count told s'.now)
  job : told.status = .suspended → ∃ c, told.continuation = some c ∧
    (resumeJobId c.runId, c) ∈ s'.scheduler.resumptions

theorem recorded_workflow? {store : Store τ} {workflow : Definition} {told : RunResult τ}
    {now : Time.Stamp} {id : String} {r : WorkflowRow τ}
    (hid : Runs.countsFor workflow false = some id) (hr : store.workflow? id = some r) :
    (Runs.recorded store workflow told false now).workflow? id
      = some (if told.status = .suspended then r.markRunning now else r.count told now) := by
  unfold Runs.recorded
  rw [hid]
  refine Store.workflow?_change (fun r => ?_) hr
  split <;> rfl

/-- The result of a resumption is recorded, unless the store cannot hold how long it took. -/
theorem conclude_resumption {s : Server τ} {t : Task τ} {told : RunResult τ}
    (hkind : t.kind = .resumption) (h : s.store.Ready told.runId) :
    (Runs.Fits t.workflow false told ∧ ∃ flags scheduler,
      (Service.conclude t (.ok told)).run s = (.ok told,
        { s with store := Runs.recorded s.store t.workflow told false s.now, flags, scheduler }) ∧
      scheduler.resumptions = queued s.scheduler.resumptions t told) ∨
    ¬Runs.Fits t.workflow false told ∧ ∃ fault,
      (Service.conclude t (.ok told)).run s = (.error (.store fault), s) := by
  have htest : decide (t.kind = .test) = false := by rw [hkind]; rfl
  unfold Service.conclude
  dsimp only
  rw [Service.get_bind_run, Service.store_bind_run, htest]
  rcases Runs.record_ready_cases t.workflow t.event false s.now h with ⟨hfits, row, hrun⟩ |
    ⟨hfits, fault, hrun⟩ <;> rw [hrun]
  · obtain ⟨flags, scheduler, hafter, hqueue⟩ :=
      afterRun_queued { s with store := Runs.recorded s.store t.workflow told false s.now } told
        (by rw [hkind]; nofun)
    refine .inl ⟨hfits, flags, scheduler, ?_, hqueue⟩
    dsimp only
    rw [if_neg Bool.false_ne_true, run_bind, hafter]
    rfl
  · exact .inr ⟨hfits, fault, rfl⟩

/-- The task of a run that goes on. -/
def resumption (s : Server τ) (d : Dispatcher) (c : Continuation τ) (workflow : Definition)
    (event : Event) : Task τ where
  number := s.turns
  kind := .resumption
  dispatcher := d
  runId := c.runId
  workflow
  event
  started := true
  wakesAt := s.elapsed
  turn := s.turns
  rest := (s.engine d).resume c

/-- A server on which a run has just gone on. -/
def resuming (s : Server τ) (t : Task τ) : Server τ :=
  { s with turns := s.turns + 1, tasks := t :: s.tasks }

theorem resume_reads {s : Server τ} {d : Dispatcher} {c : Continuation τ} {workflow : Definition}
    {event : Event} (h : c.Reads workflow event) :
    (Service.resume d c).run s
      = ({ s with turns := s.turns + 1 } : Server τ).await (s.resumption d c workflow event) := by
  rw [Service.resume_eq]
  unfold Service.resumeTask
  rw [h.workflow, h.event]
  rfl

theorem resume_unread {s : Server τ} {d : Dispatcher} {c : Continuation τ}
    (h : ∀ workflow event, ¬c.Reads workflow event) :
    ∃ name issues, (Service.resume d c).run s = (.error (.badRecord name issues), s) := by
  rw [Service.resume_eq]
  unfold Service.resumeTask
  rcases hworkflow : Definition.codec.read (Value.object c.workflow) with workflow | issues
  · rcases hevent : Event.codec.read (Value.object c.event) with event | issues
    · exact absurd ⟨hworkflow, hevent⟩ (h workflow event)
    · exact ⟨_, issues, rfl⟩
  · exact ⟨_, issues, rfl⟩

/-- What is told of a continuation that has a result. -/
structure Tells (s : Server τ) (d : Dispatcher) (c : Continuation τ) (told : RunResult τ) : Prop where
  course : ∃ talk, ((s.engine d).resume c).Course talk (.ok told)
  id : told.runId = c.runId
  unrestored : ¬c.Restorable → Engine.TellsUnrestored c told
  suspended : told.status = .suspended → d.suspends = true ∧ ∃ c', told.continuation = some c'

omit [RunningMean τ] in
theorem tells_of_course {s : Server τ} {d : Dispatcher} {c : Continuation τ}
    {talk : List Exchange} {outcome : Except Escape (RunResult τ)}
    (h : ((s.engine d).resume c).Course talk outcome) (hreturns : ∀ escape, ¬c.Escapes escape) :
    ∃ told, outcome = .ok told ∧ s.Tells d c told := by
  obtain ⟨-, htells⟩ := Engine.resume_escapes_iff (s.engine d) c
  obtain ⟨hiff, -, hrestored, hunrestored⟩ := htells _ _ h
  obtain ⟨told, rfl⟩ := hiff.mpr hreturns
  refine ⟨told, rfl, ?_⟩
  by_cases hc : c.Restorable
  · obtain ⟨_, -, htold⟩ := hrestored told rfl hc
    refine ⟨⟨talk, h⟩, htold.id, absurd hc, fun hstatus => ?_⟩
    rcases htold.ends with ⟨hover | hover, -⟩ | ⟨-, hsuspends, c', hcont, -⟩
    · rw [hover] at hstatus
      cases hstatus
    · rw [hover] at hstatus
      cases hstatus
    · exact ⟨engine_suspends hsuspends, c', hcont⟩
  · have htold := (hunrestored told rfl hc).1
    refine ⟨⟨talk, h⟩, htold.id, fun _ => htold, fun hstatus => ?_⟩
    rw [htold.status] at hstatus
    cases hstatus

/-- A run that goes on is told at the end of some turns, and then it is concluded. -/
theorem resume_told {s : Server τ} {d : Dispatcher} {c : Continuation τ} {workflow : Definition}
    {event : Event} (hready : s.store.Ready c.runId)
    (hnumbers : ∀ t ∈ s.tasks, t.number ≠ s.turns) (hreturns : ∀ escape, ¬c.Escapes escape)
    (hreads : c.Reads workflow event) :
    ∃ s₁ s' ending u told tasks,
      (∃ log, (s.resuming (s.resumption d c workflow event)).History log s₁) ∧
      u.Continues (s.resumption d c workflow event) ∧ s₁.store.Ready c.runId ∧ s.Tells d c told ∧
      (Service.conclude u (.ok told)).run (s₁.awake u) = (ending, s') ∧
      (Service.resume d c).run s = (ending, { s' with tasks }) := by
  let t := s.resumption d c workflow event
  let P (s₁ : Server τ) : Prop := s₁.Awaits t ∧ ∃ log, (s.resuming t).History log s₁
  have hbegins : P (s.resuming t) := by
    refine ⟨⟨hready, ⟨t, List.mem_cons_self, rfl⟩, fun u hu hsame => ?_⟩, [], .start⟩
    rcases List.mem_cons.mp hu with rfl | hu
    · exact ⟨[], _, _, _, rfl, .here _⟩
    · exact absurd hsame (hnumbers u hu)
  have hthere (s₁ : Server τ) (h : P s₁) : s₁.tasks ≠ [] := by
    obtain ⟨u, hu, -⟩ := h.1.there
    exact List.ne_nil_of_mem hu
  have hturn (s₁ : Server τ) (before : List (Task τ)) (u : Task τ) (behind : List (Task τ))
      (htasks : s₁.tasks = before ++ u :: behind) (h : P s₁)
      (hgoes : u.number = t.number → (s₁.turn before u behind).1 = none) :
      P (s₁.turn before u behind).2 :=
    ⟨h.1.turn rfl htasks hgoes, History.turn s₁ before u behind htasks h.2⟩
  -- All this is kept up to the turn in which the task ends, and that is the turn that is waited for.
  obtain ⟨s₁, before, u, behind, ⟨hawaits, hhistory⟩, htasks, hnumber, hturned⟩ :=
    await_ends (s := { s with turns := s.turns + 1 }) (t := t) hthere hturn hbegins
  have hcontinues := hawaits.own u (htasks ▸ List.mem_append_cons_self) hnumber
  obtain ⟨talk₀, rest, wakesAt, turn, rfl, hreach⟩ := hcontinues
  rcases s₁.turn_started (t := { t with rest, wakesAt, turn }) before behind rfl with
    ⟨v, s', -, hturned', -⟩ | ⟨talk, outcome, ending, s', hcourse, hconclude, hturned'⟩
  · rw [hturned'] at hturned
    cases hturned
  · rw [hturned'] at hturned
    obtain ⟨told, rfl, htells⟩ := tells_of_course (hreach.course hcourse) hreturns
    refine ⟨s₁, s', ending, _, told, before ++ behind, hhistory,
      ⟨talk₀, rest, wakesAt, turn, rfl, hreach⟩, hawaits.ready, htells, hconclude, ?_⟩
    rw [resume_reads hreads]
    exact Prod.ext (Option.some.inj (congrArg Prod.fst hturned)).symm
      (congrArg Prod.snd hturned).symm

/-- A suspended run goes on on a store that is in order. If its continuation has a result, and what is
looked at before can be read, the run is told after some turns of the tasks, and what is told is
recorded: its row has the status, the error and the steps, its workflow counts it, and if it is
suspended again there is a job for it. Only a duration that the store cannot hold is refused. But if
the definition or the event cannot be read, nothing is done at all. -/
theorem resume_recorded (s : Server τ) (d : Dispatcher) (c : Continuation τ)
    (hready : s.store.Ready c.runId) (hnumbers : ∀ t ∈ s.tasks, t.number ≠ s.turns)
    (hreturns : ∀ escape, ¬c.Escapes escape) :
    ((∀ workflow event, ¬c.Reads workflow event) →
      ∃ name issues, (Service.resume d c).run s = (.error (.badRecord name issues), s)) ∧
    ∀ workflow event, c.Reads workflow event → ∃ s₁ s' ending told,
      (∃ log, (s.resuming (s.resumption d c workflow event)).History log s₁) ∧
      (Service.resume d c).run s = (ending, s') ∧ s.Tells d c told ∧
      (Runs.Fits workflow false told → ending = .ok told ∧ s₁.Records workflow told s') ∧
      (¬Runs.Fits workflow false told → ∃ fault, ending = .error (.store fault) ∧
        s'.store = s₁.store) := by
  refine ⟨resume_unread, fun workflow event hreads => ?_⟩
  obtain ⟨s₁, s', ending, u, told, tasks, hhistory, ⟨talk, rest, wakesAt, turn, rfl, -⟩, hstore,
    htells, hconclude, hresumed⟩ := resume_told (d := d) hready hnumbers hreturns hreads
  let u : Task τ := { s.resumption d c workflow event with rest, wakesAt, turn }
  have hthere : (s₁.awake u).store.Ready told.runId := htells.id ▸ hstore
  refine ⟨s₁, _, ending, told, hhistory, hresumed, htells, ?_⟩
  rcases conclude_resumption (t := u) rfl hthere with ⟨hfits, flags, scheduler, hrun, hqueue⟩ |
    ⟨hfits, fault, hrun⟩ <;> obtain ⟨rfl, rfl⟩ := Prod.mk.inj (hrun.symm.trans hconclude)
  · obtain ⟨x, hx⟩ := hthere.row
    refine ⟨fun _ => ⟨rfl, rfl, ⟨x, hx, Runs.recorded_run? hx⟩, fun id r => recorded_workflow?,
      fun hstatus => ?_⟩, fun hnot => absurd hfits hnot⟩
    obtain ⟨hsuspends, c', hcont⟩ := htells.suspended hstatus
    refine ⟨c', hcont, ?_⟩
    have hkept : scheduler.resumptions = s₁.scheduler.resumptions.filter
        (·.1 ≠ resumeJobId c'.runId) ++ [(resumeJobId c'.runId, c')] := by
      rw [hqueue]
      unfold queued
      rw [hstatus, hcont]
      exact if_pos ⟨nofun, hsuspends⟩
    rw [hkept]
    exact List.mem_append_right _ (List.mem_singleton_self _)
  · exact ⟨fun h => absurd h hfits, fun _ => ⟨fault, rfl, rfl⟩⟩

/-! ### A run that cannot be restored -/

/-- What is left of a suspended run. -/
def pauseLeft : Continuation ℚ := (pauseQueued.scheduler.resumptions.map (·.2)).headD default

/-- What is left of it if its steps are lost. -/
def pauseBroken : Continuation ℚ := { pauseLeft with stepResults := [[]] }

theorem pauseBroken_recorded : ∃ told s',
    (Service.resume {} pauseBroken).run pauseQueued = (.ok told, s') ∧
    Engine.TellsUnrestored pauseBroken told ∧
    s'.store.runs.map (·.status) = ["failed"] ∧
    s'.store.workflows.map (fun r => (r.totalRuns, r.failedRuns)) = [(1, 1)] := by
  have hready : pauseQueued.store.Ready pauseBroken.runId :=
    ⟨by decide +kernel, Option.isSome_iff_exists.mp (by decide +kernel)⟩
  have hnumbers : ∀ t ∈ pauseQueued.tasks, t.number ≠ pauseQueued.turns := by decide +kernel
  have hreturns : ∀ escape, ¬pauseBroken.Escapes escape :=
    have hnamed : pauseBroken.context.get? "run_id" ≠ none := by decide +kernel
    Continuation.not_escapes (some (idOf 1)) hnamed (by decide +kernel)
      (by decide +kernel)
  have hread {α : Type} {x : Checked α} (h : x.toOption.isSome = true) : ∃ a, x = .ok a := by
    cases x with
    | ok a => exact ⟨a, rfl⟩
    | bad issues => cases h
  obtain ⟨workflow, hworkflow⟩ := hread (by decide +kernel :
    (Codec.read Definition.codec (Value.object pauseBroken.workflow)).toOption.isSome = true)
  obtain ⟨event, hevent⟩ := hread (by decide +kernel :
    (Codec.read Event.codec (Value.object pauseBroken.event)).toOption.isSome = true)
  have hbroken : ¬pauseBroken.Restorable := fun h => by
    obtain ⟨r, hr⟩ := h.steps [] List.mem_cons_self
    cases hr
  obtain ⟨-, hrecorded⟩ := resume_recorded pauseQueued {} pauseBroken hready hnumbers hreturns
  obtain ⟨s₁, s', ending, told, -, hrun, htells, hfits, hunfit⟩ :=
    hrecorded workflow event ⟨hworkflow, hevent⟩
  have hok : ((Service.resume {} pauseBroken).run pauseQueued).1.toOption.isSome = true := by
    decide +kernel
  have hruns : ((Service.resume {} pauseBroken).run pauseQueued).2.store.runs.map (·.status)
      = ["failed"] := by
    decide +kernel
  have hworkflows : ((Service.resume {} pauseBroken).run pauseQueued).2.store.workflows.map
      (fun r => (r.totalRuns, r.failedRuns)) = [(1, 1)] := by
    decide +kernel
  rw [hrun] at hok hruns hworkflows
  by_cases hfit : Runs.Fits workflow false told
  · obtain ⟨rfl, -⟩ := hfits hfit
    exact ⟨told, s', hrun, htells.unrestored hbroken, hruns, hworkflows⟩
  · obtain ⟨fault, rfl, -⟩ := hunfit hfit
    cases hok

/-- What is left of the run if its definition is lost. -/
def pauseLost : Continuation ℚ := { pauseLeft with workflow := [] }

/-- The server with no more than that of the run. -/
def pauseStranded : Server ℚ :=
  { pauseQueued with scheduler := pauseQueued.scheduler.scheduleResume pauseLost }

/-- The server when nothing can be written to its store. -/
def pauseOutage : Server ℚ :=
  { pauseQueued with store :=
      { pauseQueued.store with outage := some { place := .commit, message := "disk full" } } }

/-- A run is said to be suspended, and there is neither a job nor a task for it. -/
structure Stranded (s : Server ℚ) (runId : String) : Prop where
  row : (s.store.run? runId).map (·.status) = some RunStatus.suspended.name
  jobs : s.scheduler.jobs.map (·.id) = []
  tasks : s.tasks.map (·.runId) = []

/-- The run would be told, and its job is done. But its row still says that it is suspended: a
definition cannot be read that need not be read before, or the store is out of order for once. -/
theorem pauseStranded_given_up :
    (Codec.read Continuation.codec (Continuation.codec.write .full pauseLost) = .ok pauseLost ∧
      (∀ escape, ¬pauseLost.Escapes escape) ∧ ¬pauseLost.Restorable ∧
      ∃ issues s', (Service.doJobOf (resumeJobId pauseLost.runId)).run pauseStranded
        = (.error (.badRecord "WorkflowDefinition" issues), s') ∧ Stranded s' pauseLost.runId) ∧
    (∀ escape, ¬pauseLeft.Escapes escape) ∧
      ∃ s', (Service.doJobOf (resumeJobId pauseLeft.runId)).run pauseOutage
        = (.error (.store (.outage "disk full")), s') ∧ Stranded s' pauseLeft.runId := by
  have hstamps : pauseLost.resumeAt.Storable ∧ pauseLost.startedAt.Storable := by decide +kernel
  have hnamed : pauseLost.context.get? "run_id" ≠ none := by decide +kernel
  have hreturns : ∀ escape, ¬pauseLost.Escapes escape :=
    Continuation.not_escapes none hnamed (by decide +kernel) rfl
  have hunread : ¬pauseLost.Restorable := by
    rintro ⟨⟨d, hd⟩, -⟩
    cases hd
  have hresult : ((Service.doJobOf (resumeJobId pauseLost.runId)).run pauseStranded).1
      = .error (.badRecord "WorkflowDefinition"
          (Codec.read Definition.codec (Value.object pauseLost.workflow)).issues) := by
    decide +kernel
  have hreturns' : ∀ escape, ¬pauseLeft.Escapes escape :=
    Continuation.not_escapes (some (idOf 1)) hnamed (by decide +kernel)
      (by decide +kernel)
  have hresult' : ((Service.doJobOf (resumeJobId pauseLeft.runId)).run pauseOutage).1
      = .error (.store (.outage "disk full")) := by
    decide +kernel
  refine ⟨⟨(Continuation.codec_restores hstamps.1 hstamps.2).read, hreturns, hunread, _, _,
    Prod.ext hresult rfl, ?_⟩, hreturns', _, Prod.ext hresult' rfl, ?_⟩
  · exact ⟨by decide +kernel, by decide +kernel, by decide +kernel⟩
  · exact ⟨by decide +kernel, by decide +kernel, by decide +kernel⟩

end Server

end Automation
