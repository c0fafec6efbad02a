import Automation.Proofs.Server.Books

/-!
# The fate of a run

A run that was dispatched waits for its task to begin, or it is running, or it is suspended and
queued, or it is being resumed, or it is over and stays so: always one of these, as long as the store
is in order and the clock shows moments that the calendar has (`Server.no_run_is_lost`).
-/

namespace Automation

variable {τ : Type}

/-! ## What was last told of a run -/

/-- The last that was told of a run is that it goes on with a continuation. -/
def Latest (log : List (Noted τ)) (runId : String) (c : Continuation τ) : Prop :=
  ∃ before told behind, log = before ++ .ended runId (.ok told) :: behind ∧
    told.continuation = some c ∧ ∀ ending, .ended runId ending ∉ behind

section Latest

variable {log more : List (Noted τ)} {runId : String} {c : Continuation τ}

/-- It stays the last as long as nothing is told of the run. -/
theorem Latest.extend (h : Latest log runId c) (hmore : ∀ ending, .ended runId ending ∉ more) :
    Latest (log ++ more) runId c := by
  obtain ⟨before, told, behind, rfl, hc, hbehind⟩ := h
  refine ⟨before, told, behind ++ more, by simp, hc, fun ending hmem => ?_⟩
  rcases List.mem_append.mp hmem with hmem | hmem
  · exact hbehind ending hmem
  · exact hmore ending hmem

theorem latest_last {told : RunResult τ} (hc : told.continuation = some c) :
    Latest (log ++ [.ended runId (.ok told)]) runId c :=
  ⟨log, told, [], rfl, hc, fun _ => List.not_mem_nil⟩

end Latest

/-! ## Runs that can go on -/

section Fate

variable [ActiveTime τ]

/-- A task carries out a run that can be stored at all times. -/
def Task.Sound (t : Task τ) (origin : Int) (log : List (Noted τ)) : Prop :=
  ∃ (e : Engine) (start : Dialogue (Except Escape (RunResult τ))) (talk : List Exchange),
    e.Sound t.runId t.workflow start ∧ start.Reaches talk t.rest ∧ e.origin = origin ∧
      e.OnCalendar talk ∧
      (t.kind = .resumption → ∃ c, Latest log t.runId c ∧ start = e.resume c)

/-- A continuation is what is left of a run, as it was last told. -/
structure Continuation.Sound (c : Continuation τ) (log : List (Noted τ)) : Prop where
  leaves : ∃ d held, Engine.Leaves c.runId d c held
  latest : Latest log c.runId c

theorem Task.Sound.extend {t : Task τ} {origin : Int} {log more : List (Noted τ)}
    (h : t.Sound origin log) (hmore : ∀ ending, .ended t.runId ending ∉ more) :
    t.Sound origin (log ++ more) := by
  obtain ⟨e, start, talk, hsound, hreach, horigin, hcalendar, hresumes⟩ := h
  refine ⟨e, start, talk, hsound, hreach, horigin, hcalendar, fun hkind => ?_⟩
  obtain ⟨c, hlatest, hstart⟩ := hresumes hkind
  exact ⟨c, hlatest.extend hmore, hstart⟩

theorem Continuation.Sound.extend {c : Continuation τ} {log more : List (Noted τ)}
    (h : c.Sound log) (hmore : ∀ ending, .ended c.runId ending ∉ more) : c.Sound (log ++ more) :=
  ⟨h.leaves, h.latest.extend hmore⟩

namespace Server

variable [RunningMean τ]

/-- The clock of a server shows a moment that the calendar has. -/
def OnTime (s : Server τ) : Prop := Time.Stamp.InCalendar s.now.wall

/-- What holds of a server between any two moves, as long as the store is in order. -/
structure Faithful (s : Server τ) (log : List (Noted τ)) : Prop where
  standing : s.Standing
  workflows : ∀ r ∈ s.store.workflows, r.Runnable
  tasks : ∀ t ∈ s.tasks, t.Sound s.origin log
  queue : ∀ p ∈ s.scheduler.resumptions, p.2.Sound log
  /-- A run that has not ended is under way or queued. -/
  live : ∀ id x, s.store.run? id = some x →
    x.status = RunStatus.running.name ∨ x.status = RunStatus.suspended.name → id ∈ s.live
  /-- A run that was dispatched is about to start, or it is there. -/
  dispatched : ∀ id, .dispatched id ∈ log →
    (∃ t ∈ s.tasks, t.runId = id ∧ t.started = false) ∨ ∃ x, s.store.run? id = some x

section Moves

variable {s s' : Server τ} {log more : List (Noted τ)}

theorem New.faithful (h : s.New) : s.Faithful [] := by
  refine ⟨h.standing, ?_, ?_, ?_, ?_, ?_⟩ <;>
    simp [Store.run?, h.workflows, h.runs, h.tasks, h.queue]

omit [ActiveTime τ] [RunningMean τ] in
/-- All readings of the clock in a talk are those of a server on time. -/
theorem OnTime.onCalendar {s : Server τ} {e : Engine} {talk : List Exchange} (h : s.OnTime)
    (horigin : e.origin = s.origin)
    (hclock : ∀ reading : Nat, ⟨.clock, reading⟩ ∈ talk → reading = s.elapsed) :
    e.OnCalendar talk := by
  intro reading hreading
  obtain rfl := hclock reading hreading
  unfold OnTime now at h
  unfold Engine.stamp Action.stampAt
  rwa [horigin]

/-- No run, no task and no job is touched. -/
theorem Faithful.still (h : s.Faithful log) (hs' : s'.Standing) (horigin : s'.origin = s.origin)
    (hworkflows : ∀ r ∈ s'.store.workflows, r.Runnable) (hruns : s'.store.runs = s.store.runs)
    (htasks : s'.tasks = s.tasks) (hqueue : s'.scheduler.resumptions = s.scheduler.resumptions) :
    s'.Faithful log := by
  have hrun (id : String) : s'.store.run? id = s.store.run? id := by
    unfold Store.run?
    rw [hruns]
  have hlive : s'.live = s.live := by
    unfold Server.live
    rw [htasks, hqueue]
  refine ⟨hs', hworkflows, fun t ht => ?_, fun p hp => h.queue p (hqueue ▸ hp), ?_, ?_⟩
  · exact horigin ▸ h.tasks t (htasks ▸ ht)
  · simp only [hrun, hlive]
    exact h.live
  · simp only [hrun, htasks]
    exact h.dispatched

theorem Faithful.joins (h : s.Faithful log) (hs' : s'.Standing) (horigin : s'.origin = s.origin)
    {t : Task τ} {e : Engine} {row : WorkflowRow τ} {outage : Option Outage}
    (hstore : s'.store = { s.store with given := s.store.given + 1, outage })
    (htasks : s'.tasks.Perm (t :: s.tasks))
    (hqueue : s'.scheduler.resumptions = s.scheduler.resumptions) (hstarted : t.started = false)
    (hkind : t.kind ≠ .resumption) (hrow : row ∈ s.store.workflows)
    (hworkflow : row.definition = .ok t.workflow) (hevent : t.event.Storable)
    (hengine : e.origin = s.origin) (hrest : t.rest = e.run t.workflow t.event t.runId)
    (hmore : ∀ note ∈ more, note = .dispatched t.runId) : s'.Faithful (log ++ more) := by
  have hrun (id : String) : s'.store.run? id = s.store.run? id := by
    rw [hstore]
    rfl
  have hnotes (id : String) (ending : Ending τ) : .ended id ending ∉ more := by
    intro hmem
    cases hmore _ hmem
  have hold {u : Task τ} (hu : u ∈ s.tasks) : u ∈ s'.tasks :=
    htasks.mem_iff.mpr (List.mem_cons_of_mem t hu)
  refine ⟨hs', fun r hr => h.workflows r (by rwa [hstore] at hr), fun u hu => ?_, fun p hp => ?_,
    fun id x hx hopen => ?_, fun id hid => ?_⟩
  · rcases List.mem_cons.mp (htasks.subset hu) with rfl | hu
    · refine ⟨e, _, [], .run u.event (WorkflowRow.definition_ok hworkflow).1
        ((h.workflows row hrow).valid hworkflow) hevent, hrest ▸ .here _, hengine.trans horigin.symm,
        fun _ hclock => absurd hclock List.not_mem_nil, fun hresumes => absurd hresumes hkind⟩
    · exact horigin ▸ (h.tasks u hu).extend (hnotes _)
  · exact (h.queue p (hqueue ▸ hp)).extend (hnotes _)
  · rcases List.mem_append.mp (h.live id x (hrun id ▸ hx) hopen) with hid | hid
    · obtain ⟨u, hu, rfl⟩ := List.mem_map.mp hid
      exact List.mem_append_left _ (List.mem_map_of_mem (hold hu))
    · exact List.mem_append_right _ (hqueue ▸ hid)
  · rw [hrun]
    rcases List.mem_append.mp hid with hid | hid
    · rcases h.dispatched id hid with ⟨u, hu, hsame⟩ | hthere
      · exact .inl ⟨u, hold hu, hsame⟩
      · exact .inr hthere
    · cases hmore _ hid
      exact .inl ⟨t, htasks.mem_iff.mpr List.mem_cons_self, rfl, hstarted⟩

section Advances

variable {t : Task τ} {others : List (Task τ)}

/-- A move that is about the run of one task, whose row is there afterwards. -/
theorem Faithful.advances (h : s.Faithful log) (hs' : s'.Standing) (horigin : s'.origin = s.origin)
    (htasks : s.tasks.Perm (t :: others)) (next : List (Task τ))
    (queued : List (String × Continuation τ))
    (hworkflows : ∀ r ∈ s'.store.workflows, r.Runnable)
    (hrun : ∀ id ≠ t.runId, s'.store.run? id = s.store.run? id) {x : RunRow}
    (hx : s'.store.run? t.runId = some x)
    (hopen : x.status = RunStatus.running.name ∨ x.status = RunStatus.suspended.name →
      t.runId ∈ next.map (·.runId) ++ queued.map (·.2.runId))
    (htasks' : s'.tasks.Perm (next ++ others))
    (hqueue : s'.scheduler.resumptions = s.scheduler.resumptions ++ queued)
    (hmore : ∀ note ∈ more, ∃ ending, note = .ended t.runId ending)
    (hnext : ∀ u ∈ next, u.Sound s'.origin (log ++ more))
    (hqueued : ∀ p ∈ queued, p.2.Sound (log ++ more)) : s'.Faithful (log ++ more) := by
  have hbeside := h.standing.beside htasks
  have hnotes {id : String} (hne : id ≠ t.runId) (ending : Ending τ) : .ended id ending ∉ more := by
    intro hmem
    obtain ⟨_, hsame⟩ := hmore _ hmem
    cases hsame
    exact hne rfl
  refine ⟨hs', hworkflows, fun u hu => ?_, fun p hp => ?_, fun id y hy hyopen => ?_, fun id hid => ?_⟩
  · rcases List.mem_append.mp (htasks'.subset hu) with hu | hu
    · exact hnext u hu
    · have hsound := h.tasks u (htasks.mem_iff.mpr (List.mem_cons_of_mem t hu))
      exact horigin ▸ hsound.extend (hnotes (hbeside.tasks u hu).2)
  · rcases List.mem_append.mp (hqueue ▸ hp) with hp | hp
    · exact (h.queue p hp).extend (hnotes (hbeside.queue p hp).2.2)
    · exact hqueued p hp
  · refine (live_perm_of_advances htasks' hqueue).mem_iff.mpr (List.mem_append.mpr ?_)
    by_cases hne : id = t.runId
    · subst hne
      obtain rfl := Option.some.inj (hx.symm.trans hy)
      exact .inl (hopen hyopen)
    · have hid := hbeside.live.subset (h.live id y (hrun id hne ▸ hy) hyopen)
      exact .inr ((List.mem_cons.mp hid).resolve_left hne)
  · rcases List.mem_append.mp hid with hid | hid
    · by_cases hne : id = t.runId
      · exact .inr ⟨x, hne ▸ hx⟩
      · rw [hrun id hne]
        rcases h.dispatched id hid with ⟨u, hu, rfl, hstarted⟩ | hthere
        · rcases List.mem_cons.mp (htasks.subset hu) with rfl | hu
          · exact absurd rfl hne
          · exact .inl ⟨u, htasks'.mem_iff.mpr (List.mem_append_right _ hu), rfl, hstarted⟩
        · exact .inr hthere
    · obtain ⟨_, hsame⟩ := hmore _ hid
      cases hsame

/-- A run that is put into the store is under way. -/
theorem Faithful.starts (h : s.Faithful log) (hs' : s'.Standing) (horigin : s'.origin = s.origin)
    (htasks : s.tasks.Perm (t :: others)) {now : Time.Stamp} {row : RunRow}
    (hrun : (Runs.start t.workflow t.event t.runId (t.kind = .test) now).run s.store
      = (.ok row, s'.store)) (htasks' : s'.tasks.Perm ({ t with started := true } :: others))
    (hqueue : s'.scheduler.resumptions = s.scheduler.resumptions) : s'.Faithful log := by
  obtain ⟨x, outage, hrow, hnone, hstore⟩ := Runs.start_ok hrun
  have hid := Runs.rowFor_id hrow
  have hx : s'.store.run? t.runId = some x := by
    rw [hstore, ← hid]
    exact Store.run?_insert (hid ▸ hnone)
  have hsound := h.tasks t (htasks.mem_iff.mpr List.mem_cons_self)
  rw [← List.append_nil log]
  refine h.advances hs' horigin htasks [{ t with started := true }] []
    (fun r hr => h.workflows r (by rwa [hstore] at hr)) (fun id hne => ?_) hx
    (fun _ => List.mem_singleton_self _) htasks' (by rw [hqueue, List.append_nil])
    (fun _ hnote => absurd hnote List.not_mem_nil) (fun u hu => ?_)
    (fun _ hp => absurd hp List.not_mem_nil)
  · rw [hstore]
    exact Store.run?_insert_other (hid ▸ hne)
  · obtain rfl := List.mem_singleton.mp hu
    rw [List.append_nil, horigin]
    exact hsound

theorem Faithful.waits (h : s.Faithful log) (hs' : s'.Standing) (horigin : s'.origin = s.origin)
    (htime : s'.OnTime) (htasks : s.tasks.Perm (t :: others)) {talk : List Exchange}
    {rest : Dialogue (Except Escape (RunResult τ))} {wakesAt turn : Nat}
    (hstarted : t.started = true)
    (hclock : ∀ reading : Nat, ⟨.clock, reading⟩ ∈ talk → reading = s'.elapsed)
    (hrest : t.rest.Reaches talk rest) (hstore : s'.store = s.store)
    (htasks' : s'.tasks.Perm ({ t with rest, wakesAt, turn } :: others))
    (hqueue : s'.scheduler.resumptions = s.scheduler.resumptions) : s'.Faithful log := by
  have hbeside := h.standing.beside htasks
  obtain ⟨workflowId, -, x, hx, -⟩ := hbeside.task.started hstarted
  obtain ⟨e, start, past, hsound, hpast, hengine, hcalendar, hresumes⟩ :=
    h.tasks t (htasks.mem_iff.mpr List.mem_cons_self)
  rw [← List.append_nil log]
  refine h.advances hs' horigin htasks [{ t with rest, wakesAt, turn }] []
    (fun r hr => h.workflows r (hstore ▸ hr)) (fun id _ => by rw [hstore]) (hstore ▸ hx)
    (fun _ => List.mem_singleton_self _) htasks' (by rw [hqueue, List.append_nil])
    (fun _ hnote => absurd hnote List.not_mem_nil) (fun u hu => ?_)
    (fun _ hp => absurd hp List.not_mem_nil)
  obtain rfl := List.mem_singleton.mp hu
  rw [List.append_nil]
  have hengine' : e.origin = s'.origin := hengine.trans horigin.symm
  refine ⟨e, start, past ++ talk, hsound, hpast.trans hrest, hengine', fun reading hreading => ?_,
    hresumes⟩
  rcases List.mem_append.mp hreading with hreading | hreading
  · exact hcalendar reading hreading
  · exact htime.onCalendar hengine' hclock reading hreading

/-- A run that is on time has a result, and what is left of it can go on. -/
theorem Faithful.told (h : s.Faithful log) (horigin : s'.origin = s.origin) (htime : s'.OnTime)
    (htasks : s.tasks.Perm (t :: others)) {talk : List Exchange}
    {outcome : Except Escape (RunResult τ)}
    (hclock : ∀ reading : Nat, ⟨.clock, reading⟩ ∈ talk → reading = s'.elapsed)
    (hrest : t.rest.Course talk outcome) : ∃ told, outcome = .ok told ∧
      ∀ c ∈ told.continuation, ∃ held : Held τ, Engine.Leaves t.runId t.workflow c held := by
  obtain ⟨e, start, past, hsound, hpast, hengine, hcalendar, -⟩ :=
    h.tasks t (htasks.mem_iff.mpr List.mem_cons_self)
  refine hsound.told (hpast.course hrest) fun reading hreading => ?_
  rcases List.mem_append.mp hreading with hreading | hreading
  · exact hcalendar reading hreading
  · exact htime.onCalendar (hengine.trans horigin.symm) hclock reading hreading

/-- Only a store that is out of order lets a task fail. -/
theorem Faithful.fails (h : s.Faithful log) (htime : s.OnTime) (htasks : s.tasks.Perm (t :: others))
    {store : Store τ} {failure : Failed} (hfails : s.Fails t store failure) :
    ∃ fault, failure = .store fault ∧ fault ≠ .integrity := by
  have hbeside := h.standing.beside htasks
  cases hfails with
  | refused now hstarted hrun =>
    obtain ⟨workflowId, hkeeps, hrow⟩ := hbeside.task.row
    rw [if_neg (by rw [hstarted]; exact Bool.false_ne_true)] at hrow
    obtain ⟨fault, outage, rfl, -, hfault⟩ := Runs.start_error hrun
    obtain ⟨x, hx, -⟩ := hkeeps.rowFor t.event t.runId (t.kind = .test) now
    exact ⟨fault, rfl, hfault x hx hrow.2⟩
  | escaped talk cause hstarted hclock hrest hstore =>
    obtain ⟨told, htold, -⟩ := h.told rfl htime htasks hclock hrest
    cases htold
  | unrecorded talk told now hstarted hrest hrun =>
    obtain ⟨e, htells, -⟩ := hbeside.task.tells hrest
    obtain ⟨workflowId, -, x, hx, -⟩ := hbeside.task.started hstarted
    obtain ⟨fault, outage, rfl, hfault, -⟩ := Runs.record_error (htells.id ▸ hx) hrun
    exact ⟨fault, rfl, hfault⟩

/-- A run that has a result is over, or what is left of it is queued. -/
theorem Faithful.records (h : s.Faithful log) (hs' : s'.Standing) (horigin : s'.origin = s.origin)
    (htime : s'.OnTime) (htasks : s.tasks.Perm (t :: others)) {talk : List Exchange}
    {told : RunResult τ} {now : Time.Stamp} {row : RunRow} (hstarted : t.started = true)
    (hclock : ∀ reading : Nat, ⟨.clock, reading⟩ ∈ talk → reading = s'.elapsed)
    (hrest : t.rest.Course talk (.ok told))
    (hrun : (Runs.record t.workflow t.event told (t.kind = .test) now).run s.store
      = (.ok row, s'.store)) (htasks' : s'.tasks.Perm others)
    (hqueue : s'.scheduler.resumptions = queued s.scheduler.resumptions t told) :
    s'.Faithful (log ++ [.ended t.runId (.ok told)]) := by
  have hbeside := h.standing.beside htasks
  obtain ⟨e, htells, hsuspends⟩ := hbeside.task.tells hrest
  obtain ⟨workflowId, -, x, hx, -⟩ := hbeside.task.started hstarted
  have htold : s.store.run? told.runId = some x := htells.id ▸ hx
  obtain ⟨outage, hstore⟩ := Runs.record_ok htold hrun
  have hworkflows : ∀ r ∈ s'.store.workflows, r.Runnable := by
    rw [hstore]
    exact Runs.recorded_runnable h.workflows
  have hother (id) (hid : id ≠ t.runId) : s'.store.run? id = s.store.run? id := by
    rw [hstore]
    exact Runs.recorded_run?_other (htells.id ▸ hid)
  have hown : s'.store.run? t.runId = some (Runs.outcome x told now) := by
    rw [hstore, ← htells.id]
    exact Runs.recorded_run? htold
  have hnote : ∀ note ∈ [Noted.ended t.runId (.ok told)], ∃ ending, note = .ended t.runId ending :=
    fun note hnote => ⟨_, List.mem_singleton.mp hnote⟩
  rcases hbeside.queued htells hsuspends with ⟨hover, hsame⟩ |
    ⟨c, hstatus, hcont, hcid, -, -, hmore⟩
  · refine h.advances hs' horigin htasks [] [] hworkflows hother hown (fun hopen => ?_) htasks'
      (by rw [hqueue, hsame, List.append_nil]) hnote (fun _ hu => absurd hu List.not_mem_nil)
      (fun _ hp => absurd hp List.not_mem_nil)
    have hname : (Runs.outcome x told now).status = told.status.name := rfl
    rw [hname] at hopen
    rcases hover with hover | hover <;> rw [hover] at hopen <;> exact absurd hopen (by decide)
  · obtain ⟨_, hok, hleaves⟩ := h.told horigin htime htasks hclock hrest
    obtain rfl := Except.ok.inj hok
    refine h.advances hs' horigin htasks [] [(resumeJobId c.runId, c)] hworkflows hother hown
      (fun _ => ?_) htasks' (by rw [hqueue, hmore]) hnote (fun _ hu => absurd hu List.not_mem_nil)
      (fun p hp => ?_)
    · rw [List.map_nil, List.nil_append, List.map_singleton, hcid]
      exact List.mem_singleton_self _
    · obtain rfl := List.mem_singleton.mp hp
      obtain ⟨held, hheld⟩ := hleaves c hcont
      exact ⟨⟨t.workflow, held, hcid.symm ▸ hheld⟩, hcid.symm ▸ latest_last hcont⟩

end Advances

/-- A queued run is under way again, with what was left of it. -/
theorem Faithful.resumes (h : s.Faithful log) (hs' : s'.Standing) (horigin : s'.origin = s.origin)
    {t : Task τ} {e : Engine} {id : String} {c : Continuation τ}
    (hjob : (id, c) ∈ s.scheduler.resumptions)
    (hqueue : s'.scheduler.resumptions = s.scheduler.resumptions.filter (·.1 ≠ id))
    (hworkflow : Definition.codec.read (Value.object c.workflow) = .ok t.workflow)
    (hstore : s'.store = s.store) (htasks : s'.tasks.Perm (t :: s.tasks)) (hid : t.runId = c.runId)
    (hengine : e.origin = s.origin) (hrest : t.rest = e.resume c) : s'.Faithful log := by
  have hold {u : Task τ} (hu : u ∈ s.tasks) : u ∈ s'.tasks :=
    htasks.mem_iff.mpr (List.mem_cons_of_mem t hu)
  refine ⟨hs', hstore ▸ h.workflows, fun u hu => ?_, fun p hp => ?_, fun other x hx hopen => ?_,
    fun other hother => ?_⟩
  · rcases List.mem_cons.mp (htasks.subset hu) with rfl | hu
    · obtain ⟨⟨d, held, hleaves⟩, hlatest⟩ := h.queue _ hjob
      obtain ⟨-, hread, -⟩ := hleaves.read
      obtain rfl := Schema.Checked.ok.inj (hworkflow.symm.trans hread)
      exact ⟨e, _, [], hid ▸ .resume c held hleaves, hrest ▸ .here _, hengine.trans horigin.symm,
        fun _ hclock => absurd hclock List.not_mem_nil, fun _ => ⟨c, hid ▸ hlatest, rfl⟩⟩
    · exact horigin ▸ h.tasks u hu
  · exact h.queue p (List.mem_of_mem_filter (hqueue ▸ hp))
  · rcases List.mem_append.mp (h.live other x (hstore ▸ hx) hopen) with hmem | hmem
    · obtain ⟨u, hu, rfl⟩ := List.mem_map.mp hmem
      exact List.mem_append_left _ (List.mem_map_of_mem (hold hu))
    · obtain ⟨p, hp, rfl⟩ := List.mem_map.mp hmem
      by_cases hsame : p.1 = id
      · -- The job that was taken off the list is the one of this run.
        have hrun : p.2.runId = t.runId := by
          rw [hid]
          refine resumeJobId_inj.mp ?_
          rw [← (h.standing.queue p hp).1, hsame]
          exact (h.standing.queue _ hjob).1
        rw [hrun]
        exact List.mem_append_left _ (List.mem_map_of_mem (htasks.mem_iff.mpr List.mem_cons_self))
      · refine List.mem_append_right _ (List.mem_map_of_mem (hqueue ▸ List.mem_filter.mpr ⟨hp, ?_⟩))
        exact decide_eq_true hsame
  · rcases h.dispatched other hother with ⟨u, hu, hsame⟩ | hthere
    · exact .inl ⟨u, hold hu, hsame⟩
    · exact .inr (hstore ▸ hthere)

/-- Every move keeps the runs as they have to be, unless a task fails because of the store. -/
theorem Move.faithful (hm : s.Move s' more) (h : s.Faithful log) (hflows : s.Flows s')
    (htime : s.OnTime) (htime' : s'.OnTime)
    (hfaults : ∀ id fault, .ended id (.error (.store fault)) ∈ more → fault = .integrity) :
    s'.Faithful (log ++ more) := by
  have hs' := (hm.proceeds h.standing).standing
  have horigin := hflows.origin
  cases hm with
  | idles given outage hgiven hstore htasks hqueue =>
    rw [List.append_nil]
    exact h.still hs' horigin (fun r hr => h.workflows r (by rwa [hstore] at hr)) (by rw [hstore])
      htasks hqueue
  | edits tenant hstore htasks hqueue =>
    rw [List.append_nil]
    exact h.still hs' horigin (hstore.runnable h.workflows) hstore.runs htasks hqueue
  | joins t e row outage hstore htasks hqueue hid hstarted hkind hrow hworkflow hevent hengine
      hsuspends hrest =>
    refine h.joins hs' horigin hstore htasks hqueue hstarted hkind hrow hworkflow hevent hengine
      hrest fun note hnote => ?_
    split at hnote
    · cases hnote
    · exact List.mem_singleton.mp hnote
  | starts t others now hstarted htasks hrun htasks' hqueue =>
    rw [List.append_nil]
    exact h.starts hs' horigin htasks hrun htasks' hqueue
  | waits t others talk rest wakesAt turn hstarted htasks hclock hrest hstore htasks' hqueue =>
    rw [List.append_nil]
    exact h.waits hs' horigin htime' htasks hstarted hclock hrest hstore htasks' hqueue
  | fails t others hfails htasks htasks' hqueue =>
    obtain ⟨fault, rfl, hne⟩ := h.fails htime htasks hfails
    exact absurd (hfaults _ _ (List.mem_singleton_self _)) hne
  | records t others talk told now hstarted htasks hclock hrest hrun htasks' hqueue =>
    exact h.records hs' horigin htime' htasks hstarted hclock hrest hrun htasks' hqueue
  | resumes t e id c hjob hqueue hworkflow hstore htasks hid hstarted hkind hengine hsuspends
      hrest =>
    rw [List.append_nil]
    exact h.resumes hs' horigin hjob hqueue hworkflow hstore htasks hid hengine hrest
  | loses id c hjob hqueue hunread hstore htasks =>
    obtain ⟨⟨d, held, hleaves⟩, -⟩ := h.queue _ hjob
    obtain ⟨-, hread, event, hevent⟩ := hleaves.read
    rcases hunread with hunread | hunread
    · exact absurd hread (hunread d)
    · exact absurd hevent (hunread event)

end Moves

/-- On the way between two times that the calendar has there are only such times. -/
theorem OnTime.between {s₀ s s' : Server τ} {log more : List (Noted τ)} (h₀ : s₀.OnTime)
    (h : s'.OnTime) (hs : s₀.Moves log s) (hs' : s.Moves more s') : s.OnTime := by
  have hbefore := hs.flows
  have hbehind := hs'.flows
  have helapsed := hbefore.elapsed
  have helapsed' := hbehind.elapsed
  unfold OnTime now Time.Stamp.ofInstant Time.Stamp.InCalendar at h₀ h ⊢
  rw [hbehind.origin, hbefore.origin] at h
  rw [hbefore.origin]
  dsimp only at h₀ h ⊢
  omega

theorem Moves.faithful {s₀ s : Server τ} {log : List (Noted τ)} (h : s₀.Moves log s)
    (h₀ : s₀.New) (hstart : s₀.OnTime) (hend : s.OnTime)
    (hfaults : ∀ id fault, .ended id (.error (.store fault)) ∈ log → fault = .integrity) :
    s.Faithful log := by
  induction h with
  | start => exact h₀.faithful
  | move hs hmove hflows ih =>
    have htime := hstart.between hend hs (hmove.moves hflows)
    exact hmove.faithful (ih htime fun id fault hmem => hfaults id fault (List.mem_append_left _ hmem))
      hflows htime hend fun id fault hmem => hfaults id fault (List.mem_append_right _ hmem)

/-! ## Where a run is -/

/-- Where a run that was dispatched is. -/
inductive Stage where
  /-- Its task is about to begin. -/
  | waiting
  | running
  | suspended
  | resuming
  | finished
deriving DecidableEq, Repr

/-- A run is at a stage. -/
def At (s : Server τ) (log : List (Noted τ)) (id : String) : Stage → Prop
  | .waiting => s.store.run? id = none ∧ ∃ t ∈ s.tasks, t.runId = id ∧ t.started = false
  | .running => ∃ x, s.store.run? id = some x ∧ x.status = RunStatus.running.name ∧
      ∃ t ∈ s.tasks, t.runId = id ∧ t.started = true
  | .suspended => ∃ x c, s.store.run? id = some x ∧ x.status = RunStatus.suspended.name ∧
      s.scheduler.resumptions.filter (·.1 = resumeJobId id) = [(resumeJobId id, c)] ∧
      Latest log id c
  | .resuming => ∃ x c, s.store.run? id = some x ∧ x.status = RunStatus.suspended.name ∧
      s.scheduler.resumptions.filter (·.1 = resumeJobId id) = [] ∧ Latest log id c ∧
      ∃ t ∈ s.tasks, t.runId = id ∧ ∃ (e : Engine) (talk : List Exchange),
        (e.resume c).Reaches talk t.rest
  | .finished => ∃ x, s.store.run? id = some x ∧
      (x.status = RunStatus.success.name ∨ x.status = RunStatus.failed.name) ∧
      ∀ more s', s.History more s' → s'.store.run? id = some x

section Stages

variable {s : Server τ} {log : List (Noted τ)} {id : String}

/-- The stage of a run as its row and its jobs show it. -/
def shownStage (s : Server τ) (id : String) : Stage :=
  match s.store.run? id with
  | none => .waiting
  | some x =>
    if x.status = RunStatus.running.name then .running
    else if x.status = RunStatus.suspended.name then
      if (s.scheduler.resumptions.filter (·.1 = resumeJobId id)).isEmpty then .resuming
      else .suspended
    else .finished

theorem At.shown {stage : Stage} (h : s.At log id stage) : s.shownStage id = stage := by
  unfold shownStage
  cases stage with
  | waiting => rw [h.1]
  | running =>
    obtain ⟨x, hx, hstatus, -⟩ := h
    simp [hx, hstatus]
  | suspended =>
    obtain ⟨x, c, hx, hstatus, hjobs, -⟩ := h
    rw [hx]
    simp only [hstatus, RunStatus.name_injective.eq_iff, hjobs]
    rfl
  | resuming =>
    obtain ⟨x, c, hx, hstatus, hjobs, -⟩ := h
    rw [hx]
    simp only [hstatus, RunStatus.name_injective.eq_iff, hjobs]
    rfl
  | finished =>
    obtain ⟨x, hx, hstatus | hstatus, -⟩ := h <;> rw [hx] <;>
      simp [hstatus, RunStatus.name_injective.eq_iff]

/-- A run that is under way or queued has a row that waits for its outcome. -/
theorem Standing.live_cases (h : s.Standing) (hid : id ∈ s.live) {x : RunRow}
    (hx : s.store.run? id = some x) :
    (∃ t ∈ s.tasks, t.runId = id ∧ t.started = true ∧ x.status = t.pending.name) ∨
      ∃ p ∈ s.scheduler.resumptions, p.2.runId = id ∧ x.status = RunStatus.suspended.name := by
  rcases List.mem_append.mp hid with hid | hid
  · obtain ⟨t, ht, rfl⟩ := List.mem_map.mp hid
    obtain ⟨workflowId, -, hrow⟩ := (h.tasks t ht).row
    split at hrow
    · rename_i hstarted
      obtain ⟨y, hy, -, -, hstatus⟩ := hrow
      obtain rfl := Option.some.inj (hx.symm.trans hy)
      exact .inl ⟨t, ht, rfl, hstarted, hstatus⟩
    · rw [hrow.2] at hx
      cases hx
  · obtain ⟨p, hp, rfl⟩ := List.mem_map.mp hid
    obtain ⟨-, d, workflowId, -, -, y, hy, -, -, hstatus⟩ := (h.queue p hp).2
    obtain rfl := Option.some.inj (hx.symm.trans hy)
    exact .inr ⟨p, hp, rfl, hstatus⟩

/-- The jobs of a run. -/
theorem Standing.jobs (h : s.Standing) :
    (∀ p ∈ s.scheduler.resumptions,
      s.scheduler.resumptions.filter (·.1 = resumeJobId p.2.runId) = [p]) ∧
    ∀ t ∈ s.tasks, s.scheduler.resumptions.filter (·.1 = resumeJobId t.runId) = [] := by
  obtain ⟨-, hqueue, hapart⟩ := List.nodup_append.mp h.live
  constructor
  · intro p hp
    obtain ⟨before, behind, hsplit⟩ := List.append_of_mem hp
    have hperm : s.scheduler.resumptions.Perm (p :: (before ++ behind)) :=
      hsplit ▸ List.perm_middle
    have hothers : ((p :: (before ++ behind)).map (·.2.runId)).Nodup :=
      (hperm.map (·.2.runId)).nodup_iff.mp hqueue
    have hne : ∀ q ∈ before ++ behind, ¬ decide (q.1 = resumeJobId p.2.runId) = true := by
      intro q hq hsame
      have hmem : q ∈ s.scheduler.resumptions := hperm.mem_iff.mpr (List.mem_cons_of_mem p hq)
      have hrun : q.2.runId = p.2.runId := by
        rw [← resumeJobId_inj, ← (h.queue q hmem).1]
        exact decide_eq_true_iff.mp hsame
      exact (List.nodup_cons.mp hothers).1 (List.mem_map.mpr ⟨q, hq, hrun⟩)
    rw [hsplit, List.filter_append, List.filter_cons, if_pos (decide_eq_true (h.queue p hp).1),
      List.filter_eq_nil_iff.mpr fun q hq => hne q (List.mem_append_left _ hq),
      List.filter_eq_nil_iff.mpr fun q hq => hne q (List.mem_append_right _ hq)]
    rfl
  · intro t ht
    refine List.filter_eq_nil_iff.mpr fun p hp hsame => ?_
    have hrun : t.runId = p.2.runId := by
      rw [← resumeJobId_inj, ← (h.queue p hp).1]
      exact (decide_eq_true_iff.mp hsame).symm
    exact hapart _ (List.mem_map_of_mem ht) _ (List.mem_map_of_mem hp) hrun

/-- A run that was dispatched is at some stage. -/
theorem Faithful.stage (h : s.Faithful log) (hid : .dispatched id ∈ log) :
    ∃ stage, s.At log id stage := by
  rcases h.dispatched id hid with ⟨t, ht, rfl, hstarted⟩ | ⟨x, hx⟩
  · obtain ⟨workflowId, -, hrow⟩ := (h.standing.tasks t ht).row
    rw [if_neg (by rw [hstarted]; exact Bool.false_ne_true)] at hrow
    exact ⟨.waiting, hrow.2, t, ht, rfl, hstarted⟩
  · obtain ⟨hgave, -, status, hstatus, -, -⟩ :=
      h.standing.store.runs x (List.mem_of_find?_eq_some hx)
    have hgave' : s.store.Gave id := Store.run?_id hx ▸ hgave
    by_cases hopen : x.status = RunStatus.running.name ∨ x.status = RunStatus.suspended.name
    · rcases h.standing.live_cases (h.live id x hx hopen) hx with
        ⟨t, ht, rfl, hstarted, hpending⟩ | ⟨p, hp, rfl, hsuspended⟩
      · unfold Task.pending at hpending
        split at hpending
        · obtain ⟨e, start, talk, -, hreach, -, -, hresumes⟩ := h.tasks t ht
          obtain ⟨c, hlatest, rfl⟩ := hresumes ‹_›
          exact ⟨.resuming, x, c, hx, hpending, h.standing.jobs.2 t ht, hlatest, t, ht, rfl, e, talk,
            hreach⟩
        · exact ⟨.running, x, hx, hpending, t, ht, rfl, hstarted⟩
      · have hjob : p = (resumeJobId p.2.runId, p.2) := Prod.ext (h.standing.queue p hp).1 rfl
        exact ⟨.suspended, x, p.2, hx, hsuspended, hjob ▸ h.standing.jobs.1 p hp,
          (h.queue p hp).latest⟩
    · have hover : id ∉ s.live := by
        intro hlive
        rcases h.standing.live_cases hlive hx with ⟨t, -, -, -, hpending⟩ | ⟨p, -, -, hsuspended⟩
        · unfold Task.pending at hpending
          split at hpending
          · exact hopen (.inr hpending)
          · exact hopen (.inl hpending)
        · exact hopen (.inr hsuspended)
      refine ⟨.finished, x, hx, ?_, fun more s' hmore => ?_⟩
      · rw [hstatus] at hopen ⊢
        cases status <;> simp_all [RunStatus.name_injective.eq_iff]
      · rw [((hmore.moves.proceeds h.standing).settled id hgave' hover).2, hx]

end Stages

/-- Whatever happens to a server on which nothing has happened, in whatever order: every run that
was dispatched is at one stage and at no other, unless a task fails because of the store. A run is
completed if it is neither running nor suspended. -/
theorem no_run_is_lost {s₀ s : Server τ} {log : List (Noted τ)} (h₀ : s₀.New)
    (h : s₀.History log s) (hstart : s₀.OnTime) (hend : s.OnTime)
    (hfaults : ∀ id fault, .ended id (.error (.store fault)) ∈ log → fault = .integrity) :
    (∀ id, .dispatched id ∈ log → ∃! stage, s.At log id stage) ∧
      ∀ x ∈ s.store.runs, x.completedAt = none ↔
        x.status = RunStatus.running.name ∨ x.status = RunStatus.suspended.name := by
  have hfaithful := h.moves.faithful h₀ hstart hend hfaults
  constructor
  · intro id hid
    obtain ⟨stage, hstage⟩ := hfaithful.stage hid
    exact ⟨stage, hstage, fun _ hother => hother.shown.symm.trans hstage.shown⟩
  · intro x hx
    obtain ⟨-, -, status, hstatus, hcompleted, -⟩ := hfaithful.standing.store.runs x hx
    rw [hcompleted, hstatus, RunStatus.name_injective.eq_iff, RunStatus.name_injective.eq_iff]

end Server

end Fate

/-- A run that pauses for an hour is suspended meanwhile. -/
theorem Server.pause_is_suspended : ∃ log, exact.New ∧ exact.History log pauseQueued ∧
    exact.OnTime ∧ pauseQueued.OnTime ∧
    (∀ id fault, .ended id (.error (.store fault)) ∈ log → fault = .integrity) ∧
    .dispatched (idOf 2) ∈ log ∧ pauseQueued.At log (idOf 2) .suspended := by
  obtain ⟨log, hhistory, hdispatched, hended⟩ := pauseQueued_history
  have hstart : exact.OnTime := by
    unfold OnTime
    decide +kernel
  have hend : pauseQueued.OnTime := by
    unfold OnTime
    decide +kernel
  have hfaults : ∀ id fault, .ended id (.error (.store fault)) ∈ log → fault = .integrity :=
    fun id fault hmem => absurd hmem (hended id _)
  obtain ⟨stage, hstage, -⟩ :=
    (no_run_is_lost exact_new hhistory hstart hend hfaults).1 (idOf 2) hdispatched
  have hshown : pauseQueued.shownStage (idOf 2) = .suspended := by decide +kernel
  obtain rfl := hstage.shown.symm.trans hshown
  exact ⟨log, exact_new, hhistory, hstart, hend, hfaults, hdispatched, hstage⟩

end Automation
