import Automation.Proofs.Run.ExactTime
import Automation.Proofs.Server.History
import Automation.Proofs.Store.Tallies

/-!
# The books of a server

Between any two moves the rows in the store, the tasks and the queue fit together: each run that is
under way or queued is there once, and its row waits for its outcome (`Server.Standing`). So each run
is counted once in the record of its workflow, and in whatever order runs come to their ends, the
record tells what the rows of the runs tell (`Server.books_balance`).
-/

namespace Automation

variable {τ : Type}

theorem idOf_ne_empty (count : Nat) : (idOf count).isEmpty = false := by
  rw [Bool.eq_false_iff, ne_eq, String.isEmpty_iff]
  intro h
  have hlength := congrArg String.length h
  simp [idOf] at hlength

theorem resumeJobId_inj {runId other : String} :
    resumeJobId runId = resumeJobId other ↔ runId = other := String.append_right_inj _

/-! ## Runs that wait for their outcome -/

namespace Store

/-- The row of a run is there, and it is that of a run of a workflow, with a status. -/
def Holds (s : Store τ) (runId workflowId : String) (isTest : Bool) (status : RunStatus) : Prop :=
  ∃ x, s.run? runId = some x ∧ x.workflowId = workflowId ∧ x.isTest = isTest ∧
    x.status = status.name

/-- A definition was read from a row of a store. -/
structure Keeps (s : Store τ) (d : Definition) (workflowId : String) : Prop where
  wellFormed : d.WellFormed
  id : d.id = some workflowId
  tenant : ∃ tenant, d.tenantId = some tenant
  gave : s.Gave workflowId

/-- The runs of a stored workflow count for it unless they are tests. -/
theorem Keeps.countsFor {s : Store τ} {d : Definition} {workflowId : String}
    (h : s.Keeps d workflowId) (isTest : Bool) :
    Runs.countsFor d isTest = if isTest then none else some workflowId := by
  obtain ⟨count, -, rfl⟩ := h.gave
  unfold Runs.countsFor
  rw [h.id, Option.filter_some, idOf_ne_empty]
  rfl

theorem Keeps.rowFor {s : Store τ} {d : Definition} {workflowId : String}
    (h : s.Keeps d workflowId) (event : Event) (id : String) (isTest : Bool) (now : Time.Stamp) :
    ∃ x, Runs.rowFor d event id isTest now = .ok x ∧ x.id = id ∧ x.workflowId = workflowId ∧
      x.isTest = isTest ∧ x.status = RunStatus.running.name ∧ x.completedAt = none := by
  obtain ⟨tenant, htenant⟩ := h.tenant
  unfold Runs.rowFor
  rw [h.id, htenant]
  exact ⟨_, rfl, rfl, rfl, rfl, rfl, rfl⟩

theorem Keeps.mono {s s' : Store τ} {d : Definition} {workflowId : String} (h : s.Keeps d workflowId)
    (hgiven : s.given ≤ s'.given) : s'.Keeps d workflowId :=
  ⟨h.wellFormed, h.id, h.tenant, h.gave.mono hgiven⟩

end Store

/-- The status that the row of a run has while its task is under way. -/
def Task.pending (t : Task τ) : RunStatus :=
  if t.kind = .resumption then .suspended else .running

section Standing

variable [ActiveTime τ]

/-- A task carries out a run of a stored workflow. The row of the run is not there before it starts,
and then it waits for the outcome. -/
structure Task.Stands (t : Task τ) (s : Store τ) : Prop where
  gave : s.Gave t.runId
  carries : ∃ (e : Engine) (start : Dialogue (Except Escape (RunResult τ))) (talk : List Exchange),
    e.Pursues t.runId t.workflow start ∧ start.Reaches talk t.rest ∧
      (e.suspendFrom.isSome = true → t.kind ≠ .test ∧ t.dispatcher.suspends = true)
  row : ∃ workflowId, s.Keeps t.workflow workflowId ∧
    if t.started then s.Holds t.runId workflowId (t.kind = .test) t.pending
    else t.kind ≠ .resumption ∧ s.run? t.runId = none

/-- The row of a queued run waits for it to be resumed. -/
structure Continuation.Stands (c : Continuation τ) (s : Store τ) : Prop where
  gave : s.Gave c.runId
  row : ∃ d workflowId, Value.object c.workflow = d.wire ∧ s.Keeps d workflowId ∧
    s.Holds c.runId workflowId false .suspended

/-- What happens to other rows is nothing to a run. -/
theorem Task.Stands.frame {t : Task τ} {s s' : Store τ} (h : t.Stands s)
    (hgiven : s.given ≤ s'.given) (hrun : s'.run? t.runId = s.run? t.runId) : t.Stands s' := by
  obtain ⟨workflowId, hkeeps, hrow⟩ := h.row
  refine ⟨h.gave.mono hgiven, h.carries, workflowId, hkeeps.mono hgiven, ?_⟩
  unfold Store.Holds at hrow ⊢
  rwa [hrun]

omit [ActiveTime τ] in
theorem Continuation.Stands.frame {c : Continuation τ} {s s' : Store τ} (h : c.Stands s)
    (hgiven : s.given ≤ s'.given) (hrun : s'.run? c.runId = s.run? c.runId) : c.Stands s' := by
  obtain ⟨d, workflowId, hwire, hkeeps, hrow⟩ := h.row
  refine ⟨h.gave.mono hgiven, d, workflowId, hwire, hkeeps.mono hgiven, ?_⟩
  unfold Store.Holds at hrow ⊢
  rwa [hrun]

/-- What is told of a run by its task. -/
theorem Task.Stands.tells {t : Task τ} {s : Store τ} {talk : List Exchange} {told : RunResult τ}
    (h : t.Stands s) (hrest : t.rest.Course talk (.ok told)) :
    ∃ e : Engine, e.Tells t.runId t.workflow told ∧
      (e.suspendFrom.isSome = true → t.kind ≠ .test ∧ t.dispatcher.suspends = true) := by
  obtain ⟨e, start, past, hpursues, hpast, hsuspends⟩ := h.carries
  exact ⟨e, hpursues.tells (hpast.course hrest), hsuspends⟩

/-- The row of a run that has started waits for its outcome. -/
theorem Task.Stands.started {t : Task τ} {s : Store τ} (h : t.Stands s) (ht : t.started = true) :
    ∃ workflowId, s.Keeps t.workflow workflowId ∧
      s.Holds t.runId workflowId (t.kind = .test) t.pending := by
  obtain ⟨workflowId, hkeeps, hrow⟩ := h.row
  rw [if_pos ht] at hrow
  exact ⟨workflowId, hkeeps, hrow⟩

namespace Server

variable [RunningMean τ]

/-- What holds of a server between any two moves. -/
structure Standing (s : Server τ) : Prop where
  store : s.store.Kept
  live : s.live.Nodup
  tasks : ∀ t ∈ s.tasks, t.Stands s.store
  queue : ∀ p ∈ s.scheduler.resumptions, p.1 = resumeJobId p.2.runId ∧ p.2.Stands s.store

/-- What a move makes of a server between moves. What is over stays over. -/
structure Proceeds (s s' : Server τ) : Prop where
  standing : s'.Standing
  succeeds : s.store.Succeeds s'.store
  settled : ∀ id, s.store.Gave id → id ∉ s.live → id ∉ s'.live ∧ s'.store.run? id = s.store.run? id

section Moves

variable {s s' : Server τ}

theorem New.standing (h : s.New) : s.Standing := by
  refine ⟨.empty h.workflows h.runs, ?_, ?_, ?_⟩ <;> simp [live, h.tasks, h.queue]

/-- Every run that is under way or queued has an id that was given. -/
theorem Standing.gave (h : s.Standing) {id : String} (hid : id ∈ s.live) : s.store.Gave id := by
  rcases List.mem_append.mp hid with hid | hid
  · obtain ⟨t, ht, rfl⟩ := List.mem_map.mp hid
    exact (h.tasks t ht).gave
  · obtain ⟨p, hp, rfl⟩ := List.mem_map.mp hid
    exact (h.queue p hp).2.gave

/-- The runs stay as they are, and so do the rows of runs. -/
theorem Standing.still (h : s.Standing) (hkept : s'.store.Kept)
    (hsucceeds : s.store.Succeeds s'.store) (hruns : s'.store.runs = s.store.runs)
    (htasks : s'.tasks = s.tasks) (hqueue : s'.scheduler.resumptions = s.scheduler.resumptions) :
    s.Proceeds s' := by
  have hlive : s'.live = s.live := by
    unfold Server.live
    rw [htasks, hqueue]
  have hrun (id : String) : s'.store.run? id = s.store.run? id := by
    unfold Store.run?
    rw [hruns]
  refine ⟨⟨hkept, hlive ▸ h.live, fun t ht => ?_, fun p hp => ?_⟩, hsucceeds, fun id _ hid => ?_⟩
  · exact (h.tasks t (htasks ▸ ht)).frame hsucceeds.given (hrun _)
  · obtain ⟨hid, hstands⟩ := h.queue p (hqueue ▸ hp)
    exact ⟨hid, hstands.frame hsucceeds.given (hrun _)⟩
  · exact ⟨hlive ▸ hid, hrun id⟩

theorem Standing.idles (h : s.Standing) {given : Nat} {outage : Option Outage}
    (hgiven : s.store.given ≤ given) (hstore : s'.store = { s.store with given, outage })
    (htasks : s'.tasks = s.tasks)
    (hqueue : s'.scheduler.resumptions = s.scheduler.resumptions) : s.Proceeds s' := by
  refine h.still (hstore ▸ h.store.idle hgiven outage) ?_ (by rw [hstore]) htasks hqueue
  exact hstore ▸ .of_subset hgiven fun _ hr => hr

theorem Standing.edits (h : s.Standing) {tenant : String}
    (hstore : Store.Edits tenant s.store s'.store) (htasks : s'.tasks = s.tasks)
    (hqueue : s'.scheduler.resumptions = s.scheduler.resumptions) : s.Proceeds s' := by
  obtain ⟨hkept, hsucceeds⟩ := hstore.kept h.store
  exact h.still hkept hsucceeds hstore.runs htasks hqueue

/-- A run of a stored workflow begins under a new id. -/
theorem Standing.joins (h : s.Standing) {t : Task τ} {e : Engine} {row : WorkflowRow τ}
    {outage : Option Outage}
    (hstore : s'.store = { s.store with given := s.store.given + 1, outage })
    (htasks : s'.tasks.Perm (t :: s.tasks))
    (hqueue : s'.scheduler.resumptions = s.scheduler.resumptions)
    (hid : t.runId = idOf (s.store.given + 1)) (hstarted : t.started = false)
    (hkind : t.kind ≠ .resumption) (hrow : row ∈ s.store.workflows)
    (hworkflow : row.definition = .ok t.workflow)
    (hsuspends : e.suspendFrom.isSome = true → t.kind ≠ .test ∧ t.dispatcher.suspends = true)
    (hrest : t.rest = e.run t.workflow t.event t.runId) : s.Proceeds s' := by
  have hle : s.store.given ≤ s'.store.given := by
    rw [hstore]
    exact Nat.le_succ _
  have hfresh : ¬ s.store.Gave t.runId := hid ▸ Store.not_gave (Nat.lt_succ_self _)
  have hrun (id : String) : s'.store.run? id = s.store.run? id := by rw [hstore]; rfl
  have hlive : s'.live.Perm (t.runId :: s.live) := by
    unfold Server.live
    rw [hqueue]
    exact (htasks.map Task.runId).append_right _
  have ht : t.Stands s'.store := by
    obtain ⟨hwell, hwid, htenant⟩ := WorkflowRow.definition_ok hworkflow
    refine ⟨⟨_, by rw [hstore], hid⟩, ⟨e, _, [], .run t.event, hrest ▸ .here _, hsuspends⟩, row.id,
      ⟨hwell, hwid, ⟨_, htenant⟩, (h.store.workflows row hrow).1.mono hle⟩, ?_⟩
    rw [hstarted]
    exact ⟨hkind, (hrun t.runId).trans (h.store.fresh hfresh).2.1⟩
  refine ⟨⟨hstore ▸ h.store.idle (Nat.le_succ _) outage, hlive.nodup_iff.mpr (List.nodup_cons.mpr
    ⟨fun hmem => hfresh (h.gave hmem), h.live⟩), fun u hu => ?_, fun p hp => ?_⟩,
    hstore ▸ .of_subset (Nat.le_succ _) fun _ hr => hr, fun id hgave hid => ⟨fun hmem => ?_, hrun id⟩⟩
  · rcases List.mem_cons.mp (htasks.subset hu) with rfl | hu
    · exact ht
    · exact (h.tasks u hu).frame hle (hrun _)
  · obtain ⟨hpid, hstands⟩ := h.queue p (hqueue ▸ hp)
    exact ⟨hpid, hstands.frame hle (hrun _)⟩
  · rcases List.mem_cons.mp (hlive.subset hmem) with rfl | hmem
    · exact hfresh hgave
    · exact hid hmem

/-! ### What becomes of the run of a task -/

section Advances

variable {t : Task τ} {others : List (Task τ)}

/-- The run of a task and those beside it. -/
structure Beside (s : Server τ) (t : Task τ) (others : List (Task τ)) : Prop where
  task : t.Stands s.store
  tasks : ∀ u ∈ others, u.Stands s.store ∧ u.runId ≠ t.runId
  queue : ∀ p ∈ s.scheduler.resumptions,
    p.1 = resumeJobId p.2.runId ∧ p.2.Stands s.store ∧ p.2.runId ≠ t.runId
  live : s.live.Perm (t.runId ::
    (others.map (·.runId) ++ s.scheduler.resumptions.map (·.2.runId)))

theorem Standing.beside (h : s.Standing) (htasks : s.tasks.Perm (t :: others)) :
    s.Beside t others := by
  have hlive : s.live.Perm (t.runId ::
      (others.map (·.runId) ++ s.scheduler.resumptions.map (·.2.runId))) :=
    (htasks.map Task.runId).append_right _
  have hnot := (List.nodup_cons.mp (hlive.nodup_iff.mp h.live)).1
  refine ⟨h.tasks t (htasks.mem_iff.mpr List.mem_cons_self), fun u hu => ⟨?_, ?_⟩,
    fun p hp => ⟨(h.queue p hp).1, (h.queue p hp).2, ?_⟩, hlive⟩
  · exact h.tasks u (htasks.mem_iff.mpr (List.mem_cons_of_mem t hu))
  · exact fun hsame => hnot (List.mem_append_left _ (hsame ▸ List.mem_map_of_mem hu))
  · exact fun hsame => hnot (List.mem_append_right _
      (List.mem_map.mpr ⟨p, hp, hsame⟩))

omit [ActiveTime τ] [RunningMean τ] in
/-- The runs that are there when the run of a task has become other tasks and jobs. -/
theorem live_perm_of_advances {next : List (Task τ)} {queued : List (String × Continuation τ)}
    (htasks' : s'.tasks.Perm (next ++ others))
    (hqueue : s'.scheduler.resumptions = s.scheduler.resumptions ++ queued) :
    s'.live.Perm ((next.map (·.runId) ++ queued.map (·.2.runId)) ++
      (others.map (·.runId) ++ s.scheduler.resumptions.map (·.2.runId))) := by
  have hids := htasks'.map (·.runId)
  unfold Server.live
  rw [hqueue]
  rw [List.perm_iff_count] at hids ⊢
  intro id
  have hcount := hids id
  simp only [List.map_append, List.count_append] at hcount ⊢
  omega

/-- A move that is about the run of one task: the task goes on, or the run is queued, or it is over.
-/
theorem Standing.advances (h : s.Standing) (htasks : s.tasks.Perm (t :: others))
    (next : List (Task τ)) (queued : List (String × Continuation τ))
    (hkept : s'.store.Kept) (hsucceeds : s.store.Succeeds s'.store)
    (hrun : ∀ id ≠ t.runId, s'.store.run? id = s.store.run? id)
    (htasks' : s'.tasks.Perm (next ++ others))
    (hqueue : s'.scheduler.resumptions = s.scheduler.resumptions ++ queued)
    (hnext : ∀ u ∈ next, u.Stands s'.store)
    (hqueued : ∀ p ∈ queued, p.1 = resumeJobId p.2.runId ∧ p.2.Stands s'.store)
    (hone : (next.map (·.runId) ++ queued.map (·.2.runId)).Sublist [t.runId]) : s.Proceeds s' := by
  have hbeside := h.beside htasks
  let rest := others.map (·.runId) ++ s.scheduler.resumptions.map (·.2.runId)
  -- At most the run of the task is there beside the others.
  have hlive : s'.live.Perm ((next.map (·.runId) ++ queued.map (·.2.runId)) ++ rest) :=
    live_perm_of_advances htasks' hqueue
  have hsub : ((next.map (·.runId) ++ queued.map (·.2.runId)) ++ rest).Sublist (t.runId :: rest) :=
    hone.append_right rest
  have hnodup : (t.runId :: rest).Nodup := hbeside.live.nodup_iff.mp h.live
  refine ⟨⟨hkept, hlive.nodup_iff.mpr (hnodup.sublist hsub), fun u hu => ?_, fun p hp => ?_⟩,
    hsucceeds, fun id _ hid => ⟨?_, ?_⟩⟩
  · rcases List.mem_append.mp (htasks'.subset hu) with hu | hu
    · exact hnext u hu
    · obtain ⟨hstands, hne⟩ := hbeside.tasks u hu
      exact hstands.frame hsucceeds.given (hrun _ hne)
  · rcases List.mem_append.mp (hqueue ▸ hp) with hp | hp
    · obtain ⟨hpid, hstands, hne⟩ := hbeside.queue p hp
      exact ⟨hpid, hstands.frame hsucceeds.given (hrun _ hne)⟩
    · exact hqueued p hp
  · exact fun hmem => hid (hbeside.live.symm.subset (hsub.subset (hlive.subset hmem)))
  · refine hrun id fun hsame => hid ?_
    exact hbeside.live.mem_iff.mpr (hsame ▸ List.mem_cons_self)

/-- A run that is put into the store is running. -/
theorem Standing.starts (h : s.Standing) (htasks : s.tasks.Perm (t :: others))
    (hstarted : t.started = false) {now : Time.Stamp} {row : RunRow}
    (hrun : (Runs.start t.workflow t.event t.runId (t.kind = .test) now).run s.store
      = (.ok row, s'.store)) (htasks' : s'.tasks.Perm ({ t with started := true } :: others))
    (hqueue : s'.scheduler.resumptions = s.scheduler.resumptions) : s.Proceeds s' := by
  obtain ⟨hgave, hcarries, workflowId, hkeeps, hrow⟩ := (h.beside htasks).task
  rw [hstarted, if_neg Bool.false_ne_true] at hrow
  obtain ⟨hkind, hnone⟩ := hrow
  obtain ⟨x, hx, hid, hworkflow, htest, hstatus, hopen⟩ :=
    hkeeps.rowFor t.event t.runId (t.kind = .test) now
  obtain ⟨x', outage, hx', -, hstore⟩ := Runs.start_ok hrun
  obtain rfl := Except.ok.inj (hx.symm.trans hx')
  have hnew : s.store.run? x.id = none := hid ▸ hnone
  have hgiven : s'.store.given = s.store.given := by rw [hstore]; rfl
  have hkept : (s.store.insertRun x).Kept :=
    h.store.insertRun hnew (hid ▸ hgave) (hworkflow ▸ hkeeps.gave) hstatus hopen
  refine h.advances htasks [{ t with started := true }] [] (hstore ▸ hkept.idle le_rfl outage)
    (hstore ▸ .of_subset le_rfl fun _ hr => hr) (fun other hother => ?_) htasks'
    (by rw [hqueue, List.append_nil]) (fun u hu => ?_) (fun _ hp => absurd hp List.not_mem_nil)
    (.refl _)
  · rw [hstore]
    exact Store.run?_insert_other (hid ▸ hother)
  · obtain rfl := List.mem_singleton.mp hu
    refine ⟨hgave.mono hgiven.ge, hcarries, workflowId, hkeeps.mono hgiven.ge, ?_⟩
    rw [if_pos rfl]
    refine ⟨x, ?_, hworkflow, htest, ?_⟩
    · rw [hstore, ← hid]
      exact Store.run?_insert hnew
    · unfold Task.pending
      rw [if_neg hkind]
      exact hstatus

/-- A run that waits goes on as before. -/
theorem Standing.waits (h : s.Standing) (htasks : s.tasks.Perm (t :: others))
    {talk : List Exchange} {rest : Dialogue (Except Escape (RunResult τ))} {wakesAt turn : Nat}
    (hrest : t.rest.Reaches talk rest) (hstore : s'.store = s.store)
    (htasks' : s'.tasks.Perm ({ t with rest, wakesAt, turn } :: others))
    (hqueue : s'.scheduler.resumptions = s.scheduler.resumptions) : s.Proceeds s' := by
  obtain ⟨hgave, ⟨e, start, past, hpursues, hpast, hsuspends⟩, hrow⟩ := (h.beside htasks).task
  refine h.advances htasks [{ t with rest, wakesAt, turn }] [] (hstore ▸ h.store)
    (hstore ▸ .of_subset le_rfl fun _ hr => hr) (fun id _ => by rw [hstore]) htasks'
    (by rw [hqueue, List.append_nil]) (fun u hu => ?_) (fun _ hp => absurd hp List.not_mem_nil)
    (.refl _)
  obtain rfl := List.mem_singleton.mp hu
  rw [hstore]
  exact ⟨hgave, ⟨e, start, _, hpursues, hpast.trans hrest, hsuspends⟩, hrow⟩

/-- A task that fails leaves the rows as they are. -/
theorem Standing.failed (h : s.Standing) (htasks : s.tasks.Perm (t :: others)) {failure : Failed}
    {store : Store τ} (hfails : s.Fails t store failure) :
    ∃ outage, store = { s.store with outage } := by
  have hstands := (h.beside htasks).task
  cases hfails with
  | refused now hstarted hrun =>
    obtain ⟨fault, outage, -, hstore, -⟩ := Runs.start_error hrun
    exact ⟨outage, hstore⟩
  | escaped talk cause hstarted hclock hrest hstore => exact ⟨s.store.outage, hstore⟩
  | unrecorded talk told now hstarted hrest hrun =>
    obtain ⟨e, htells, -⟩ := hstands.tells hrest
    obtain ⟨workflowId, -, x, hx, -⟩ := hstands.started hstarted
    obtain ⟨fault, outage, -, -, hstore⟩ := Runs.record_error (htells.id ▸ hx) hrun
    exact ⟨outage, hstore⟩

theorem Standing.fails (h : s.Standing) (htasks : s.tasks.Perm (t :: others)) {failure : Failed}
    (hfails : s.Fails t s'.store failure) (htasks' : s'.tasks.Perm others)
    (hqueue : s'.scheduler.resumptions = s.scheduler.resumptions) : s.Proceeds s' := by
  obtain ⟨outage, hstore⟩ := h.failed htasks hfails
  exact h.advances htasks [] [] (hstore ▸ h.store.idle le_rfl outage)
    (hstore ▸ .of_subset le_rfl fun _ hr => hr) (fun id _ => by rw [hstore]; rfl) htasks'
    (by rw [hqueue, List.append_nil]) (fun _ hu => absurd hu List.not_mem_nil)
    (fun _ hp => absurd hp List.not_mem_nil) (List.nil_sublist _)

omit [RunningMean τ] in
/-- What becomes of the queue when a result is told: nothing if the run is over, and else the rest of
it is queued. -/
theorem Beside.queued (h : s.Beside t others) {e : Engine} {told : RunResult τ}
    (htells : e.Tells t.runId t.workflow told)
    (hsuspends : e.suspendFrom.isSome = true → t.kind ≠ .test ∧ t.dispatcher.suspends = true) :
    ((told.status = .success ∨ told.status = .failed) ∧
      queued s.scheduler.resumptions t told = s.scheduler.resumptions) ∨
    ∃ c, told.status = .suspended ∧ told.continuation = some c ∧ c.runId = t.runId ∧
      Value.object c.workflow = t.workflow.wire ∧ t.kind ≠ .test ∧
      queued s.scheduler.resumptions t told
        = s.scheduler.resumptions ++ [(resumeJobId c.runId, c)] := by
  rcases htells.ends with ⟨hstatus, hcont⟩ | ⟨hstatus, hcan, c, hcont, hcid, hwire⟩
  · refine .inl ⟨hstatus, ?_⟩
    unfold Server.queued
    rw [hcont]
    split
    · rename_i hsome
      cases hsome
    · rfl
  · have hkind := hsuspends hcan
    have hkeep : s.scheduler.resumptions.filter (·.1 ≠ resumeJobId c.runId)
        = s.scheduler.resumptions := by
      refine List.filter_eq_self.mpr fun p hp => decide_eq_true ?_
      obtain ⟨hpid, -, hne⟩ := h.queue p hp
      rw [hpid, hcid]
      exact fun hsame => hne (resumeJobId_inj.mp hsame)
    refine .inr ⟨c, hstatus, hcont, hcid, hwire, hkind.1, ?_⟩
    unfold Server.queued
    rw [hstatus, hcont]
    dsimp only
    rw [if_pos hkind, hkeep]

/-- A run that has a result is over, or it is queued. -/
theorem Standing.records (h : s.Standing) (htasks : s.tasks.Perm (t :: others))
    {talk : List Exchange} {told : RunResult τ} {now : Time.Stamp} {row : RunRow}
    (hstarted : t.started = true) (hrest : t.rest.Course talk (.ok told))
    (hrun : (Runs.record t.workflow t.event told (t.kind = .test) now).run s.store
      = (.ok row, s'.store)) (htasks' : s'.tasks.Perm others)
    (hqueue : s'.scheduler.resumptions = queued s.scheduler.resumptions t told) :
    s.Proceeds s' := by
  have hbeside := h.beside htasks
  obtain ⟨e, htells, hsuspends⟩ := hbeside.task.tells hrest
  obtain ⟨workflowId, hkeeps, x, hx, hworkflow, htest, hpending⟩ := hbeside.task.started hstarted
  have htold : s.store.run? told.runId = some x := htells.id ▸ hx
  let isTest : Bool := t.kind = .test
  obtain ⟨outage, hstore⟩ := Runs.record_ok htold hrun
  have hcounts : Runs.countsFor t.workflow isTest = if isTest then none else some x.workflowId :=
    hworkflow ▸ hkeeps.countsFor isTest
  have hopen : x.status = RunStatus.running.name ∨ x.status = RunStatus.suspended.name := by
    rw [hpending]
    unfold Task.pending
    split
    · exact .inr rfl
    · exact .inl rfl
  have hended : told.status ≠ .running := by
    rcases htells.ends with ⟨hstatus | hstatus, -⟩ | ⟨hstatus, -⟩ <;> rw [hstatus] <;> nofun
  obtain ⟨hkept, hsucceeds⟩ := h.store.recorded now htold hcounts htest hopen hended
  have hkept' : s'.store.Kept := hstore ▸ hkept.idle le_rfl outage
  have hsucceeds' : s.store.Succeeds s'.store := by
    rw [hstore]
    exact ⟨hsucceeds.given, hsucceeds.workflows⟩
  have hother (id) (hid : id ≠ t.runId) : s'.store.run? id = s.store.run? id := by
    rw [hstore]
    exact Runs.recorded_run?_other (htells.id ▸ hid)
  rcases hbeside.queued htells hsuspends with ⟨-, hsame⟩ |
    ⟨c, hstatus, -, hcid, hwire, hkind, hmore⟩
  · exact h.advances htasks [] [] hkept' hsucceeds' hother htasks'
      (by rw [hqueue, hsame, List.append_nil]) (fun _ hu => absurd hu List.not_mem_nil)
      (fun _ hp => absurd hp List.not_mem_nil) (List.nil_sublist _)
  · refine h.advances htasks [] [(resumeJobId c.runId, c)] hkept' hsucceeds' hother htasks'
      (by rw [hqueue, hmore]) (fun _ hu => absurd hu List.not_mem_nil) (fun p hp => ?_) ?_
    · obtain rfl := List.mem_singleton.mp hp
      refine ⟨rfl, hcid ▸ hbeside.task.gave.mono hsucceeds'.given, t.workflow, workflowId, hwire,
        hkeeps.mono hsucceeds'.given, Runs.outcome x told now, ?_, hworkflow, ?_, ?_⟩
      · rw [hstore, hcid, ← htells.id]
        exact Runs.recorded_run? htold
      · exact htest.trans (decide_eq_false hkind)
      · exact congrArg RunStatus.name hstatus
    · rw [List.map_nil, List.nil_append, List.map_singleton, hcid]

end Advances

/-- A queued run whose job is taken away is there no more. -/
theorem Standing.taken (h : s.Standing) {id : String} {c : Continuation τ}
    (hjob : (id, c) ∈ s.scheduler.resumptions) :
    c.Stands s.store ∧ (c.runId :: (s.tasks.map (·.runId) ++
      (s.scheduler.resumptions.filter (·.1 ≠ id)).map (·.2.runId))).Nodup := by
  obtain ⟨hid, hstands⟩ := h.queue _ hjob
  have hlive := h.live
  obtain ⟨-, -, hapart⟩ := List.nodup_append.mp hlive
  refine ⟨hstands, List.nodup_cons.mpr ⟨fun hmem => ?_, hlive.sublist ?_⟩⟩
  · rcases List.mem_append.mp hmem with hmem | hmem
    · exact hapart _ hmem _ (List.mem_map_of_mem hjob) rfl
    · obtain ⟨p, hp, hsame⟩ := List.mem_map.mp hmem
      obtain ⟨hp, hne⟩ := List.mem_filter.mp hp
      refine decide_eq_true_iff.mp hne ?_
      rw [(h.queue p hp).1, hsame]
      exact hid.symm
  · exact .append_left (List.filter_sublist.map _) _

/-- A queued run is under way again. -/
theorem Standing.resumes (h : s.Standing) {t : Task τ} {e : Engine} {id : String}
    {c : Continuation τ} (hjob : (id, c) ∈ s.scheduler.resumptions)
    (hqueue : s'.scheduler.resumptions = s.scheduler.resumptions.filter (·.1 ≠ id))
    (hworkflow : Definition.codec.read (Value.object c.workflow) = .ok t.workflow)
    (hstore : s'.store = s.store) (htasks : s'.tasks.Perm (t :: s.tasks))
    (hid : t.runId = c.runId) (hstarted : t.started = true) (hkind : t.kind = .resumption)
    (hsuspends : e.suspendFrom.isSome = true → t.dispatcher.suspends = true)
    (hrest : t.rest = e.resume c) : s.Proceeds s' := by
  obtain ⟨hstands, hnodup⟩ := h.taken hjob
  have hlive : s'.live.Perm (c.runId :: (s.tasks.map (·.runId) ++
      (s.scheduler.resumptions.filter (·.1 ≠ id)).map (·.2.runId))) := by
    unfold Server.live
    rw [hqueue, ← hid]
    exact (htasks.map (·.runId)).append_right _
  have ht : t.Stands s.store := by
    obtain ⟨hgave, d, workflowId, hwire, hkeeps, hrow⟩ := hstands
    have hsame : t.workflow = d := by
      rw [hwire] at hworkflow
      exact Schema.Checked.ok.inj
        (hworkflow.symm.trans (Definition.codec_restores hkeeps.wellFormed).read)
    refine ⟨hid ▸ hgave, ⟨e, _, [], .resume c hid.symm hworkflow, hrest ▸ .here _, fun hcan =>
      ⟨hkind ▸ nofun, hsuspends hcan⟩⟩, workflowId, hsame ▸ hkeeps, ?_⟩
    rw [if_pos hstarted]
    unfold Task.pending
    rw [hkind, hid]
    exact hrow
  refine ⟨⟨hstore ▸ h.store, hlive.nodup_iff.mpr hnodup, fun u hu => ?_, fun p hp => ?_⟩,
    hstore ▸ .of_subset le_rfl fun _ hr => hr, fun id' _ hover => ⟨fun hmem => ?_, by rw [hstore]⟩⟩
  · rw [hstore]
    rcases List.mem_cons.mp (htasks.subset hu) with rfl | hu
    · exact ht
    · exact h.tasks u hu
  · rw [hstore]
    exact h.queue p (List.mem_of_mem_filter (hqueue ▸ hp))
  · refine hover ?_
    rcases List.mem_cons.mp (hlive.subset hmem) with rfl | hmem
    · exact List.mem_append_right _ (List.mem_map_of_mem hjob)
    · exact (List.Sublist.append_left (List.filter_sublist.map _) _).subset hmem

theorem Standing.loses (h : s.Standing) {id : String}
    (hqueue : s'.scheduler.resumptions = s.scheduler.resumptions.filter (·.1 ≠ id))
    (hstore : s'.store = s.store) (htasks : s'.tasks = s.tasks) : s.Proceeds s' := by
  have hlive : s'.live.Sublist s.live := by
    unfold Server.live
    rw [htasks, hqueue]
    exact .append_left (List.filter_sublist.map _) _
  refine ⟨⟨hstore ▸ h.store, h.live.sublist hlive, fun u hu => ?_, fun p hp => ?_⟩,
    hstore ▸ .of_subset le_rfl fun _ hr => hr, fun id' _ hover =>
      ⟨fun hmem => hover (hlive.subset hmem), by rw [hstore]⟩⟩
  · exact hstore ▸ h.tasks u (htasks ▸ hu)
  · exact hstore ▸ h.queue p (List.mem_of_mem_filter (hqueue ▸ hp))

/-- Every move keeps the store, the tasks and the queue together. -/
theorem Move.proceeds {more : List (Noted τ)} (hm : s.Move s' more) (h : s.Standing) :
    s.Proceeds s' := by
  cases hm with
  | idles given outage hgiven hstore htasks hqueue => exact h.idles hgiven hstore htasks hqueue
  | edits tenant hstore htasks hqueue => exact h.edits hstore htasks hqueue
  | joins t e row outage hstore htasks hqueue hid hstarted hkind hrow hworkflow hevent horigin
      hsuspends hrest =>
    exact h.joins hstore htasks hqueue hid hstarted hkind hrow hworkflow hsuspends hrest
  | starts t others now hstarted htasks hrun htasks' hqueue =>
    exact h.starts htasks hstarted hrun htasks' hqueue
  | waits t others talk rest wakesAt turn hstarted htasks hclock hrest hstore htasks' hqueue =>
    exact h.waits htasks hrest hstore htasks' hqueue
  | fails t others hfails htasks htasks' hqueue => exact h.fails htasks hfails htasks' hqueue
  | records t others talk told now hstarted htasks hclock hrest hrun htasks' hqueue =>
    exact h.records htasks hstarted hrest hrun htasks' hqueue
  | resumes t e id c hjob hqueue hworkflow hstore htasks hid hstarted hkind horigin hsuspends
      hrest =>
    exact h.resumes hjob hqueue hworkflow hstore htasks hid hstarted hkind hsuspends hrest
  | loses id c hjob hqueue hunread hstore htasks => exact h.loses hqueue hstore htasks

end Moves

/-- On any way of a server the store, the tasks and the queue stay together. -/
theorem Moves.proceeds {s s' : Server τ} {log : List (Noted τ)} (h : s.Moves log s')
    (hs : s.Standing) : s.Proceeds s' := by
  induction h with
  | start => exact ⟨hs, .of_subset le_rfl fun _ hr => hr, fun _ _ hid => ⟨hid, rfl⟩⟩
  | move _ hmove _ ih =>
    obtain ⟨hstanding, hsucceeds, hover⟩ := hmove.proceeds ih.standing
    refine ⟨hstanding, ih.succeeds.trans hsucceeds, fun id hgave hid => ?_⟩
    obtain ⟨hid', hrow⟩ := ih.settled id hgave hid
    obtain ⟨hid'', hrow'⟩ := hover id (hgave.mono ih.succeeds.given) hid'
    exact ⟨hid'', hrow'.trans hrow⟩

/-! ## The books -/

/-- Whatever happens to a server on which nothing has happened: the record of every stored workflow
counts its runs that ended and were no tests, its mean is theirs, and its counters never go down. So
neither the counters nor the mean depend on the order in which runs ended. -/
theorem books_balance {s₀ s : Server τ} {log : List (Noted τ)} (h₀ : s₀.New)
    (h : s₀.History log s) :
    (∀ r ∈ s.store.workflows, r.Tallies s.store.runs) ∧
    (∀ more s', s.History more s' → ∀ r ∈ s.store.workflows, ∀ r' ∈ s'.store.workflows,
      r'.id = r.id → r.totalRuns ≤ r'.totalRuns ∧ r.successfulRuns ≤ r'.successfulRuns ∧
        r.failedRuns ≤ r'.failedRuns) ∧
    ∀ s₁ s' : Server τ, ∀ more, s₁.New → s₁.History more s' →
      ∀ r ∈ s.store.workflows, ∀ r' ∈ s'.store.workflows,
      (∀ status, ((RunRow.ended s.store.runs r.id status).map (·.durationMs)).Perm
        ((RunRow.ended s'.store.runs r'.id status).map (·.durationMs))) →
      r'.totalRuns = r.totalRuns ∧ r'.successfulRuns = r.successfulRuns ∧
        r'.failedRuns = r.failedRuns ∧ ∀ value : τ → ℚ, RunningMean.Computes value →
          r'.averageMs.map value = r.averageMs.map value := by
  have hproceeds := h.moves.proceeds h₀.standing
  have hkept := hproceeds.standing.store
  refine ⟨fun r hr => (hkept.workflows r hr).2, fun more s' hmore r hr r' hr' hid => ?_,
    fun s₁ s' more h₁ hmore r hr r' hr' hperm => ?_⟩
  · obtain ⟨-, htotal, hsuccessful, hfailed⟩ :=
      (hmore.moves.proceeds hproceeds.standing).succeeds.grows hkept hr hr' hid
    exact ⟨htotal, hsuccessful, hfailed⟩
  · have hkept' := (hmore.moves.proceeds h₁.standing).standing.store
    exact (hkept.workflows r hr).2.unordered (hkept'.workflows r' hr').2 hperm

end Server

end Standing

/-! ### A run that is recorded twice -/

/-- A workflow that pauses for an hour. -/
def NewWorkflow.pause : NewWorkflow where
  name := "Pause"
  enabled := true
  trigger := { kind := .manual }
  actions := [{ id := "wait", work := .delay { duration := 1, unit := .hours } }]

namespace Server

/-- A server that dispatches runs and computes exactly, and on which nothing has happened. -/
def exact : Server ℚ :=
  { settings := { tokenSecret := "" }, origin := 0, dispatcher := some {} }

/-- The workflow is made. -/
def pauseMade : Server ℚ :=
  ((Service.store (Workflows.create .pause "tenant-1" "user-1" exact.now)).run exact).2

/-- A run of it is dispatched. -/
def pauseDispatched : Server ℚ := ((Service.dispatchEvent {} "tenant-1" .manual).run pauseMade).2

/-- The run comes to its pause, and is recorded as suspended. -/
def pauseQueued : Server ℚ :=
  match pauseDispatched.tasks with
  | [] => pauseDispatched
  | t :: behind => (pauseDispatched.turn [] t behind).2

/-- The run is resumed, and is recorded as a success. -/
def pauseOver : Server ℚ := ((Service.doJobOf (resumeJobId (idOf 2))).run pauseQueued).2

theorem exact_new : exact.New := ⟨rfl, rfl, rfl, rfl⟩

/-- So far the run was dispatched, and a result was told. -/
theorem pauseQueued_history : ∃ log, exact.History log pauseQueued ∧
    .dispatched (idOf 2) ∈ log ∧ ∀ id failure, .ended id (.error failure) ∉ log := by
  have hmade : exact.Act [] pauseMade :=
    .creates .pause "tenant-1" "user-1" exact.now ⟨NewWorkflow.codec.write .wire .pause, rfl⟩
  have hevent : Event.codec.Accepts .manual :=
    ⟨_, (Event.codec_restores (by rintro _ ⟨⟩) : Event.codec.Restores .wire .manual).read⟩
  have hrun : (Service.dispatchEvent {} "tenant-1" .manual).run pauseMade
      = (((Service.dispatchEvent {} "tenant-1" .manual).run pauseMade).1, pauseDispatched) := rfl
  have hdispatched := hmade.history.act (.dispatches {} "tenant-1" .manual hevent hrun)
  have hids : ((Service.dispatchEvent {} "tenant-1" .manual).run pauseMade).1.toOption.elim []
      (·.runIds) = [idOf 2] := by
    decide +kernel
  have hone : pauseDispatched.tasks.length = 1 := by decide +kernel
  obtain ⟨t, ht⟩ := List.length_eq_one_iff.mp hone
  have hqueued : pauseQueued = (pauseDispatched.turn [] t []).2 := by rw [pauseQueued, ht]
  have htold : (pauseDispatched.tasks.map fun t =>
      ((pauseDispatched.turn [] t []).1.map fun ending => ending.toOption.isSome)) = [some true] := by
    decide +kernel
  have hhistory := hdispatched.act (.turn [] t [] ht)
  rw [hids] at hhistory
  rw [hqueued]
  refine ⟨_, hhistory, by simp, fun id failure hmem => ?_⟩
  rw [ht, List.map_singleton] at htold
  obtain ⟨ending, hending, hok⟩ := Option.map_eq_some_iff.mp (List.singleton_inj.mp htold)
  rw [hending] at hmem
  obtain ⟨-, rfl⟩ : id = t.runId ∧ .error failure = ending := by simpa using hmem
  cases hok

theorem pauseOver_history : ∃ log, exact.History log pauseOver := by
  obtain ⟨log, hqueued, -⟩ := pauseQueued_history
  obtain ⟨d, hd⟩ := Option.isSome_iff_exists.mp
    (by decide +kernel : pauseQueued.dispatcher.isSome = true)
  have hwork : pauseQueued.scheduler.jobs.map (·.work.function) = ["resume_suspended_run"] := by
    decide +kernel
  obtain ⟨more, hdone⟩ := doJobOf_history (resumeJobId (idOf 2)) hd (by decide +kernel)
    (fun job hjob htick => by
      have hmem := hwork ▸ List.mem_map_of_mem (f := fun j : Job ℚ => j.work.function) hjob
      rw [htick] at hmem
      exact absurd hmem (by decide)) (by decide +kernel)
  exact ⟨_, hqueued.trans hdone⟩

/-- The run is counted once, and its hour is the mean. -/
theorem pause_balances : exact.New ∧ ∃ log, exact.History log pauseOver ∧
    (pauseOver.store.workflows.map fun r => (r.totalRuns, r.successfulRuns, r.averageMs))
      = [(1, 1, some 3600000)] ∧
    ∀ r ∈ pauseOver.store.workflows, r.Tallies pauseOver.store.runs := by
  obtain ⟨log, hover⟩ := pauseOver_history
  exact ⟨exact_new, log, hover, by decide +kernel, (books_balance exact_new hover).1⟩

end Server

end Automation
