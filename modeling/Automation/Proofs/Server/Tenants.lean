import Automation.Proofs.Server.Apart
import Automation.Proofs.Server.Twins

/-!
# Tenants that share a server

Nothing that is done for one tenant touches the rows of another, or depends on them, and the calls of
a run carry its tenant, but for plain requests (`Server.tenants_apart`). Dispatchers let the runs of
all tenants take turns; so what is said of them is said of the tenants of these runs too.
-/

namespace Automation

variable {τ : Type} {t : String}

/-! ## Rows and calls -/

/-- A workflow of a tenant is stored with a definition. -/
def Store.Stores (s : Store τ) (tenant : String) (d : Definition) : Prop :=
  ∃ row ∈ s.workflows, row.definition = .ok d ∧ row.tenantId = tenant

theorem Store.Stores.tenantId {s : Store τ} {d : Definition} (h : s.Stores t d) :
    d.tenantId = some t := by
  obtain ⟨row, -, hd, rfl⟩ := h
  exact (WorkflowRow.definition_ok hd).2.2

namespace Server

/-- What happens to a server is confined to some definitions: it touches only the rows of their
tenants, and all calls are calls that they may make for their tenants. -/
structure Confined (D : Definition → Prop) (s s' : Server τ) : Prop where
  spares : ∀ other, (∀ d, D d → d.tenantId ≠ some other) → s.store.Spares other s'.store
  calls : ∃ made, s'.calls = made ++ s.calls ∧
    ∀ p ∈ made, ∃ d tenant, D d ∧ d.tenantId = some tenant ∧ d.Calls tenant p.2

section Confined

variable {D D' : Definition → Prop} {s s' s'' : Server τ}

/-- Neither rows nor calls. -/
theorem Confined.idle (hworkflows : s'.store.workflows = s.store.workflows)
    (hruns : s'.store.runs = s.store.runs) (hcalls : s'.calls = s.calls) : s.Confined D s' :=
  ⟨fun other _ => ⟨by rw [hworkflows], by rw [hruns]⟩, [], hcalls, fun _ hp =>
    absurd hp List.not_mem_nil⟩

/-- Only rows of the tenant of a definition are touched, and nothing is called. -/
theorem Confined.of_spares {d : Definition} {tenant : String} (hd : d.tenantId = some tenant)
    (hspares : ∀ other, other ≠ tenant → s.store.Spares other s'.store)
    (hcalls : s'.calls = s.calls) : s.Confined (· = d) s' := by
  refine ⟨fun other hother => hspares other ?_, [], hcalls, fun _ hp =>
    absurd hp List.not_mem_nil⟩
  rintro rfl
  exact hother d rfl hd

theorem Confined.trans (h : s.Confined D s') (h' : s'.Confined D s'') : s.Confined D s'' := by
  obtain ⟨made, hmade, hcalls⟩ := h.calls
  obtain ⟨more, hmore, hcalls'⟩ := h'.calls
  refine ⟨fun other hother => (h.spares other hother).trans (h'.spares other hother), more ++ made,
    by rw [hmore, hmade, List.append_assoc], fun p hp => ?_⟩
  exact (List.mem_append.mp hp).elim (hcalls' p) (hcalls p)

theorem Confined.mono (h : s.Confined D s') (hD : ∀ d, D d → D' d) : s.Confined D' s' := by
  obtain ⟨made, hmade, hcalls⟩ := h.calls
  refine ⟨fun other hother => h.spares other fun d hd => hother d (hD d hd), made, hmade,
    fun p hp => ?_⟩
  obtain ⟨d, tenant, hd, htenant, hcall⟩ := hcalls p hp
  exact ⟨d, tenant, hD d hd, htenant, hcall⟩

end Confined

/-! ## Turns -/

/-- A server notes the calls of a talk. -/
theorem converse_calls {α : Type} {d : Definition} {tenant : String} {x : Dialogue α}
    (h : x.Only (d.Asks tenant)) (s : Server τ) :
    ∃ made, (s.converse x).2.calls = made ++ s.calls ∧ ∀ p ∈ made, d.Calls tenant p.2 := by
  induction h generalizing s with
  | done a => exact ⟨[], rfl, fun _ hp => absurd hp List.not_mem_nil⟩
  | @ask r next hr hnext ih =>
    cases r with
    | clock => exact ih _ s
    | aborted runId => exact ih _ s
    | sleep seconds => exact ⟨[], rfl, fun _ hp => absurd hp List.not_mem_nil⟩
    | call c timeout =>
      refine ⟨[(s.elapsed, c)], rfl, fun p hp => ?_⟩
      obtain rfl := List.mem_singleton.mp hp
      exact hr

section Turns

variable [RunningMean τ] {u : Task τ} {s : Server τ} {tenant : String}

omit [RunningMean τ] in
theorem begin_confined (htenant : u.workflow.tenantId = some tenant) :
    s.Confined (· = u.workflow) ((Service.begin u).run s).2 := by
  refine .of_spares htenant (fun other hother => ?_) ?_
  · have hstarts := Runs.start_spares htenant u.event u.runId (u.kind = .test) s.now s.store hother
    unfold Service.begin
    split
    · exact .refl other s.store
    · rw [Service.get_bind_run, Service.store_bind_run]
      rcases hrun : (Runs.start u.workflow u.event u.runId (u.kind = .test) s.now).run s.store with
        ⟨failure | row, store⟩ <;> rw [hrun] at hstarts <;> exact hstarts
  · obtain ⟨result, store, hrun, -⟩ := Service.begin_run s u
    rw [hrun]

variable [ActiveTime τ]

/-- The outcome of a run is written to rows of its tenant's. -/
theorem conclude_confined {owner : String → String} {outcome : Except Escape (RunResult τ)}
    (howned : s.store.OwnedBy owner) (htenant : u.workflow.tenantId = some tenant)
    (hconcerns : ∀ told, outcome = .ok told →
      Runs.Concerns (· = tenant) u.workflow told.runId s.store) :
    s.Confined (· = u.workflow) ((Service.conclude u outcome).run s).2 := by
  refine .of_spares htenant (fun other hother => ?_) ?_
  · rcases Service.conclude_store s u outcome with hstore | ⟨told, htold, hstore⟩ <;> rw [hstore]
    · exact .refl other s.store
    · have hrecords : (do
          let _ ← Runs.record u.workflow u.event told (u.kind = .test) s.now
          : Operation τ Unit).IsolatedOn (Runs.Concerns (· = tenant) u.workflow told.runId) other
            (· = tenant) := Runs.isolated_record
      have hspares := (hrecords s.store s.store (howned.alike other) (hconcerns told htold)
        (hconcerns told htold)).2.2 other hother
      rw [run_bind] at hspares
      rcases hrun : (Runs.record u.workflow u.event told (u.kind = .test) s.now).run s.store with
        ⟨failure | row, store⟩ <;> rw [hrun] at hspares <;> exact hspares
  · obtain ⟨result, store, flags, scheduler, hrun, -⟩ := Service.conclude_cases s u outcome
    rw [hrun]

omit [RunningMean τ] [ActiveTime τ] in
theorem converse_confined (hkeeps : u.rest.KeepsTo u.workflow tenant)
    (htenant : u.workflow.tenantId = some tenant) :
    s.Confined (· = u.workflow) (s.converse u.rest).2 := by
  have hstore := (s.converse_store s.store u.rest).2
  obtain ⟨made, hmade, hcalls⟩ := converse_calls hkeeps.asks s
  exact ⟨fun other _ => ⟨by rw [hstore], by rw [hstore]⟩, made, hmade, fun p hp =>
    ⟨u.workflow, tenant, rfl, htenant, hcalls p hp⟩⟩

variable {owner : String → String} {before behind : List (Task τ)}

omit [RunningMean τ] in
/-- The rows that the outcome of a task is written to are those of the tenant of its run. -/
theorem Apart.concerns (h : s.Apart owner) (hu : u ∈ s.tasks) {talk : List Exchange}
    {told : RunResult τ} (hrest : u.rest.Course talk (.ok told)) :
    Runs.Concerns (· = owner u.runId) u.workflow told.runId s.store := by
  obtain ⟨hid, -⟩ := (h.tasks u hu).tells hrest
  have hof := (h.tasks u hu).workflow
  refine ⟨fun tenant htenant => ?_, fun r hr hsame => ?_, fun r hr hworkflow => ?_⟩
  · exact Option.some.inj (htenant.symm.trans hof.tenant)
  · rw [← (h.store.runs r hr).2, hsame, hid]
  · rw [← (h.store.workflows r hr).2]
    exact (hof.workflow r.id hworkflow).2

omit [RunningMean τ] in
theorem Apart.awake (h : s.Apart owner) (u : Task τ) : (s.awake u).Apart owner :=
  ⟨h.store, h.tasks, h.queue⟩

theorem takeTurn_confined (h : s.Apart owner) (htasks : s.tasks = before ++ u :: behind) :
    s.Confined (· = u.workflow) (s.takeTurn u).2 := by
  have hu : u ∈ s.tasks := by simp [htasks]
  have hserves := h.tasks u hu
  have htenant := hserves.workflow.tenant
  have hwakes : s.Confined (· = u.workflow) (s.awake u) := .idle rfl rfl rfl
  have hbegun := begin_confined (s := s.awake u) htenant
  have hbegins := begin_moves (s := s.awake u) htasks
  have htakes := s.takeTurn_takes u
  generalize s.takeTurn u = taken at htakes
  cases htakes with
  | refused failure store hbegin hgiven htalk =>
    rw [hbegin] at hbegun
    exact hwakes.trans hbegun
  | waits s₁ store wakesAt rest script calls hs₁ hbegin hgiven htalk hconverse hrest hslow =>
    rw [hbegin] at hbegun
    have hspoken : s₁.Confined (· = u.workflow) (s₁.converse u.rest).2 :=
      converse_confined hserves.rest htenant
    rw [hconverse] at hspoken
    exact hwakes.trans (hbegun.trans ⟨hspoken.spares, hspoken.calls⟩)
  | ends s₁ s' store outcome ending hs₁ hbegin hgiven htalk hconverse hcourse hconclude =>
    obtain ⟨store', hbegin', hbegins⟩ | ⟨failure, store', hbegin', -⟩ := hbegins <;>
      rw [hbegin] at hbegun <;> rw [hbegin'] at hbegin <;> cases hbegin
    obtain ⟨owner', hext, happart⟩ := hbegins.apart (h.awake u)
    have hconcerns (told : RunResult τ) (htold : outcome = .ok told) :
        Runs.Concerns (· = owner u.runId) u.workflow told.runId store' := by
      have hcourse' : ({ u with started := true } : Task τ).rest.Course _ (.ok told) :=
        htold ▸ hcourse
      have hconcerns := happart.concerns (by simp) hcourse'
      rwa [hext.same _ hserves.gave] at hconcerns
    have hconcluded := conclude_confined (s := { s.awake u with store := store' }) happart.store
      htenant hconcerns
    rw [hconclude] at hconcluded
    exact hwakes.trans (hbegun.trans hconcluded)

/-- What happens in the turn of a task is confined to the definition of its run. -/
theorem turn_confined (h : s.Apart owner) (htasks : s.tasks = before ++ u :: behind) :
    s.Confined (· = u.workflow) (s.turn before u behind).2 := by
  have htakes := takeTurn_confined h htasks
  unfold turn
  rcases htake : s.takeTurn u with ⟨became | ending, s'⟩ <;> rw [htake] at htakes <;>
    exact ⟨htakes.spares, htakes.calls⟩

/-- A turn begins no new run. -/
theorem turn_tasks (htasks : s.tasks = before ++ u :: behind) :
    ∀ v ∈ (s.turn before u behind).2.tasks, ∃ w ∈ s.tasks, w.runId = v.runId ∧
      w.workflow = v.workflow := by
  have hbecomes (v : Task τ) (h : (s.takeTurn u).1 = .inl v) :
      u.runId = v.runId ∧ u.workflow = v.workflow := by
    have htakes := s.takeTurn_takes u
    generalize s.takeTurn u = taken at h htakes
    cases htakes with
    | waits => cases h; exact ⟨rfl, rfl⟩
    | refused | ends => cases h
  intro v hv
  have hsame (hv : v ∈ before ++ behind) : ∃ w ∈ s.tasks, w.runId = v.runId ∧
      w.workflow = v.workflow := by
    refine ⟨v, ?_, rfl, rfl⟩
    rw [htasks]
    exact (List.mem_append.mp hv).elim (List.mem_append_left _)
      fun hv => List.mem_append_right _ (List.mem_cons_of_mem u hv)
  unfold turn at hv
  rcases htake : s.takeTurn u with ⟨became | ending, s'⟩ <;> rw [htake] at hv hbecomes
  · rcases List.mem_append.mp hv with hv | hv
    · exact hsame (List.mem_append_left _ hv)
    · rcases List.mem_cons.mp hv with rfl | hv
      · exact ⟨u, by simp [htasks], hbecomes v rfl⟩
      · exact hsame (List.mem_append_right _ hv)
  · exact hsame hv

end Turns

/-! ## Services -/

section Within

variable [ActiveTime τ] [RunningMean τ]

/-- What is done on a server stays within bounds: it is confined to some definitions, all runs that
it begins are runs of some definitions, and the tenants stay apart. -/
structure Within (D begun : Definition → Prop) (owner : String → String) (s s' : Server τ) :
    Prop where
  confined : s.Confined D s'
  tasks : ∀ u ∈ s'.tasks, begun u.workflow ∨ ∃ v ∈ s.tasks, v.runId = u.runId ∧
    v.workflow = u.workflow
  apart : ∃ owner', s.store.Extends s'.store owner owner' ∧ s'.Apart owner'

variable {D D' begun begun' : Definition → Prop} {owner : String → String} {s s' s'' : Server τ}

omit [RunningMean τ] in
theorem Within.trans (h : s.Within D begun owner s')
    (h' : ∀ owner', s'.Apart owner' → s'.Within D' begun' owner' s'')
    (hD : ∀ d, D' d → D d) (hbegun : ∀ d, begun' d → begun d) : s.Within D begun owner s'' := by
  obtain ⟨owner₁, hext, happart⟩ := h.apart
  obtain ⟨hconfined, htasks, owner₂, hext', happart'⟩ := h' owner₁ happart
  refine ⟨h.confined.trans (hconfined.mono hD), fun u hu => ?_, owner₂, hext.trans hext', happart'⟩
  rcases htasks u hu with hnew | ⟨v, hv, hid, hworkflow⟩
  · exact .inl (hbegun _ hnew)
  · rw [← hid, ← hworkflow]
    exact h.tasks v hv

omit [RunningMean τ] in
theorem Within.mono (h : s.Within D begun owner s') (hD : ∀ d, D d → D' d)
    (hbegun : ∀ d, begun d → begun' d) : s.Within D' begun' owner s' :=
  ⟨h.confined.mono hD, fun u hu => (h.tasks u hu).imp_left (hbegun _), h.apart⟩

/-- What is no more than a look at a server, and at its flags and jobs. -/
theorem Within.idle {log : List (Noted τ)} (hmoves : s.Moves log s') (h : s.Apart owner)
    (hworkflows : s'.store.workflows = s.store.workflows)
    (hruns : s'.store.runs = s.store.runs) (hcalls : s'.calls = s.calls)
    (htasks : s'.tasks = s.tasks) : s.Within D begun owner s' :=
  ⟨.idle hworkflows hruns hcalls, fun u hu => .inr ⟨u, htasks ▸ hu, rfl, rfl⟩,
    hmoves.apart h⟩

theorem turn_within {before behind : List (Task τ)} {u : Task τ} (h : s.Apart owner)
    (htasks : s.tasks = before ++ u :: behind) :
    s.Within (· = u.workflow) begun owner (s.turn before u behind).2 :=
  ⟨turn_confined h htasks, fun v hv => .inr (turn_tasks htasks v hv),
    (turn_moves htasks).apart h⟩

/-- Whoever waits for a task stays within the definitions of the tasks. -/
theorem await_within {u : Task τ} (h : ({ s with tasks := u :: s.tasks } : Server τ).Apart owner) :
    ({ s with tasks := u :: s.tasks } : Server τ).Within
      (fun d => ∃ v ∈ u :: s.tasks, v.workflow = d) (fun _ => False) owner (s.await u).2 := by
  refine await_induct (fun s' before v behind htasks hwithin => ?_) ?_
  · refine hwithin.trans (fun owner' happart => turn_within happart htasks) ?_ fun _ => id
    rintro d rfl
    obtain hnew | ⟨w, hw, -, hworkflow⟩ := hwithin.tasks v (by simp [htasks])
    · exact hnew.elim
    · exact ⟨w, hw, hworkflow⟩
  · exact .idle .start h rfl rfl rfl rfl

/-! ### What begins for a stored definition -/

variable {d : Dispatcher} {workflow : Definition} {event : Event}

omit [RunningMean τ] in
/-- A task for a definition that a tenant has stored joins the others. -/
theorem Apart.joins_within (h : s.Apart owner) {u : Task τ} {e : Engine} {outage : Option Outage}
    (hstore : s'.store = { s.store with given := s.store.given + 1, outage })
    (htasks : s'.tasks.Perm (u :: s.tasks))
    (hqueue : s'.scheduler.resumptions = s.scheduler.resumptions) (hcalls : s'.calls = s.calls)
    (hid : u.runId = idOf (s.store.given + 1)) (hworkflow : s.store.Stores t u.workflow)
    (hrest : u.rest = e.run u.workflow u.event u.runId) :
    s.Within (s.store.Stores t) (s.store.Stores t) owner s' := by
  obtain ⟨row, hrow, hd, -⟩ := id hworkflow
  refine ⟨.idle (by rw [hstore]) (by rw [hstore]) hcalls, fun v hv => ?_,
    h.joins hstore htasks hqueue hid hrow hd hrest⟩
  rcases List.mem_cons.mp (htasks.subset hv) with rfl | hv
  · exact .inl hworkflow
  · exact .inr ⟨v, hv, rfl, rfl⟩

omit [RunningMean τ] in
theorem spawn_within (d : Dispatcher) (event : Event) (h : s.Apart owner)
    (hworkflow : s.store.Stores t workflow) :
    ∃ id s', (Service.spawn d workflow event).run s = (.ok id, s') ∧
      s'.store.workflows = s.store.workflows ∧
      s.Within (s.store.Stores t) (s.store.Stores t) owner s' := by
  let runId := idOf (s.store.given + 1)
  let u : Task τ := {
    number := s.turns, kind := .background, dispatcher := d, runId, workflow, event, started := false
    wakesAt := s.elapsed, turn := s.turns, rest := (s.engine d).run workflow event runId }
  refine ⟨_, _, rfl, rfl, ?_⟩
  exact h.joins_within (u := u) (e := s.engine d) rfl (List.perm_append_singleton u s.tasks) rfl rfl
    rfl hworkflow rfl

theorem spawns_within {workflows : List Definition} (h : s.Apart owner)
    (hstored : ∀ workflow ∈ workflows, s.store.Stores t workflow) :
    s.Within (s.store.Stores t) (s.store.Stores t) owner
      ((workflows.mapM fun workflow => Service.spawn d workflow event).run s).2 := by
  induction workflows generalizing s owner with
  | nil => exact .idle .start h rfl rfl rfl rfl
  | cons workflow workflows ih =>
    obtain ⟨hworkflow, hrest⟩ := List.forall_mem_cons.mp hstored
    obtain ⟨id, s₁, hspawn, hsame, hwithin⟩ := spawn_within d event h hworkflow
    have hstores (d : Definition) : s₁.store.Stores t d ↔ s.store.Stores t d := by
      unfold Store.Stores
      rw [hsame]
    have hmore : s.Within (s.store.Stores t) (s.store.Stores t) owner
        ((workflows.mapM fun workflow => Service.spawn d workflow event).run s₁).2 :=
      hwithin.trans (fun owner' happart => ih happart fun w hw => (hstores w).mpr (hrest w hw))
        (fun d => (hstores d).mp) fun d => (hstores d).mp
    rw [List.mapM_cons, run_bind, hspawn]
    dsimp only
    rwa [Service.bind_pure_run]

/-- Runs are started for the stored definitions of the tenant alone. -/
theorem dispatchEvent_within (ht : t ≠ "") (h : s.Apart owner) :
    s.Within (s.store.Stores t) (s.store.Stores t) owner
      ((Service.dispatchEvent d t event).run s).2 := by
  unfold Service.dispatchEvent
  rw [Service.store_bind_run]
  rcases enabledDefinitions_cases t event.type s.store with ⟨definitions, outage, hfind, hstored⟩ |
    ⟨failure, hfind⟩ <;> rw [hfind]
  · let s₁ : Server τ := { s with store := { s.store with outage } }
    have hlooks : s.Moves [] s₁ := idle_moves ⟨Nat.le_refl _, rfl⟩ ⟨outage, rfl⟩ rfl rfl
    have hlooked : s.Within (s.store.Stores t) (s.store.Stores t) owner s₁ :=
      .idle hlooks h rfl rfl rfl rfl
    have hspawned : s.Within (s.store.Stores t) (s.store.Stores t) owner
        (((definitions.filter (·.startsOn event)).mapM fun workflow =>
          Service.spawn d workflow event).run s₁).2 := by
      refine hlooked.trans (fun owner' happart => spawns_within happart fun workflow hw => ?_)
        (fun _ => id) fun _ => id
      obtain ⟨row, hrow, hd, htenant⟩ := hstored workflow (List.mem_of_mem_filter hw)
      exact ⟨row, hrow, hd, htenant ht⟩
    dsimp only
    rwa [Service.bind_pure_run]
  · exact .idle .start h rfl rfl rfl rfl

/-- A workflow is tried out in a run of the stored definition of the tenant alone. -/
theorem testTask_within {workflowId : String} {result : Except Failed (Task τ)}
    (h : s.Apart owner) (hrun : (Service.testTask d workflowId t event).run s = (result, s')) :
    s.Within (s.store.Stores t) (s.store.Stores t) owner (s'.joined result) := by
  unfold Service.testTask at hrun
  rw [Service.store_bind_run] at hrun
  rcases definition_cases workflowId t s.store with
    ⟨workflow, row, outage, hread, hrow, hd, htenant⟩ | ⟨failure, outage, hread⟩ <;>
    rw [hread] at hrun
  · let runId := idOf (s.store.given + 1)
    let store₁ : Store τ := { s.store with given := s.store.given + 1, outage }
    have hfresh : (Operation.freshId : Operation τ String).run { s.store with outage }
        = (.ok runId, store₁) := rfl
    have hnow : ({ s with store := store₁ } : Server τ).now = s.now := rfl
    dsimp only at hrun
    rw [Service.store_bind_run, hfresh] at hrun
    dsimp only at hrun
    rw [Service.get_bind_run, Service.store_bind_run] at hrun
    dsimp only at hrun
    rcases Runs.start_cases workflow event runId true s.now store₁ with
      ⟨run, outage', -, -, hstart⟩ | ⟨fault, outage', hstart, -⟩ <;> rw [hnow, hstart] at hrun <;>
      cases hrun
    · let u : Task τ := {
        number := s.turns, kind := .test, dispatcher := d, runId, workflow, event, started := false
        wakesAt := s.elapsed, turn := s.turns
        rest := (s.testEngine d).run workflow event runId }
      let s₁ : Server τ := { s with store := store₁, turns := s.turns + 1, tasks := u :: s.tasks }
      have hjoins : s.Within (s.store.Stores t) (s.store.Stores t) owner s₁ :=
        h.joins_within (u := u) (e := s.testEngine d) rfl (.refl _) rfl rfl rfl
          ⟨row, hrow, hd, htenant⟩ rfl
      let s₂ : Server τ := { s₁ with
        store := { store₁.insertRun run with outage := outage' }
        tasks := { u with started := true } :: s.tasks }
      -- The run is in the store before its task is there, but it begins before it is stored.
      have hstarts : s₁.Moves [] s₂ :=
        Move.moves (.starts u s.tasks s.now rfl (.refl _) hstart (.refl _) rfl) ⟨Nat.le_refl _, rfl⟩
      have hconfined : s₁.Confined (· = workflow) s₂ := by
        refine .of_spares (htenant ▸ (WorkflowRow.definition_ok hd).2.2) (fun other hother => ?_) rfl
        have hspares := Runs.start_spares (htenant ▸ (WorkflowRow.definition_ok hd).2.2)
          event runId true s.now store₁ hother
        rwa [hstart] at hspares
      have hwithin (owner' : String → String) (happart : s₁.Apart owner') :
          s₁.Within (· = workflow) (fun _ => False) owner' s₂ := by
        refine ⟨hconfined, fun v hv => .inr ?_, hstarts.apart happart⟩
        rcases List.mem_cons.mp hv with rfl | hv
        · exact ⟨u, List.mem_cons_self, rfl, rfl⟩
        · exact ⟨v, List.mem_cons_of_mem u hv, rfl, rfl⟩
      exact hjoins.trans hwithin (fun _ hsame => hsame ▸ ⟨row, hrow, hd, htenant⟩)
        fun _ => False.elim
    · have hidles : s.Moves [] { s with store := { store₁ with outage := outage' } } :=
        Move.moves (.idles _ outage' (Nat.le_succ _) rfl rfl rfl) ⟨Nat.le_refl _, rfl⟩
      exact .idle hidles h rfl rfl rfl rfl
  · cases hrun
    exact .idle (idle_moves ⟨Nat.le_refl _, rfl⟩ ⟨outage, rfl⟩ rfl rfl) h rfl rfl rfl rfl

/-- Whoever tries a workflow out lets the tasks have their turns. -/
theorem testRun_within {workflowId : String} (h : s.Apart owner) :
    s.Within (fun d => s.store.Stores t d ∨ ∃ u ∈ s.tasks, u.workflow = d) (s.store.Stores t) owner
      ((Service.testRun d workflowId t event).run s).2 := by
  rw [Service.testRun_eq, run_bind]
  rcases hrun : (Service.testTask d workflowId t event).run s with ⟨failure | u, s₁⟩ <;>
    have hwithin := testTask_within h hrun
  · exact hwithin.mono (fun _ => .inl) fun _ => id
  · refine (hwithin.mono (fun _ => .inl) fun _ => id).trans (fun owner' => await_within) ?_
      fun _ => False.elim
    rintro d ⟨v, hv, rfl⟩
    exact (hwithin.tasks v hv).imp_right fun ⟨w, hw, _, hworkflow⟩ => ⟨w, hw, hworkflow⟩

theorem abortRun_within {runId : String} (h : s.Apart owner) :
    s.Within D begun owner ((Service.abortRun d runId t : Service τ Bool).run s).2 := by
  obtain ⟨outage, flags, scheduler, hrun, -⟩ := abortRun_frame s d runId t
  refine .idle abortRun_moves h ?_ ?_ ?_ ?_ <;> rw [hrun]

end Within

end Server

/-! ## All that is done for a tenant -/

section Asked

variable [ActiveTime τ] [RunningMean τ]

/-- What a tenant can ask a dispatcher for. Only to try a workflow out is to wait for a task, and
other tasks have their turns meanwhile. -/
inductive Service.Asked (t : String) : (waits : Bool) → (α : Type) → Service τ α → Prop where
  | dispatch (d : Dispatcher) (event : Event) : Asked t false _ (dispatchEvent d t event)
  | test (d : Dispatcher) (workflowId : String) (event : Event) :
      Asked t true _ (testRun d workflowId t event)
  | abort (d : Dispatcher) (runId : String) : Asked t false _ (abortRun d runId t)

/-- The definitions that concern what is done on a server for a tenant: those that the tenant has
stored, and those of the tasks that may have their turns. -/
def Server.Concerned (t : String) (waits : Bool) (s : Server τ) (d : Definition) : Prop :=
  s.store.Stores t d ∨ waits = true ∧ ∃ u ∈ s.tasks, u.workflow = d

namespace Service

variable {α : Type} {waits : Bool} {m : Service τ α}

theorem Asked.isolated (h : Asked t waits α m) (ht : t ≠ "") : m.Isolated t := by
  cases h with
  | dispatch d event => exact isolated_dispatchEvent ht event
  | test d workflowId event => exact isolated_testRun workflowId event
  | abort d runId => exact isolated_abortRun runId

open Server in
theorem Asked.within (h : Asked t waits α m) (ht : t ≠ "") {s : Server τ} {owner : String → String}
    (hs : s.Apart owner) :
    s.Within (s.Concerned t waits) (s.store.Stores t) owner (m.run s).2 := by
  cases h with
  | dispatch d event => exact (dispatchEvent_within ht hs).mono (fun _ => .inl) fun _ => id
  | test d workflowId event =>
    refine (testRun_within hs).mono (fun d => ?_) fun _ => id
    exact Or.imp_right fun hd => ⟨rfl, hd⟩
  | abort d runId => exact abortRun_within hs

end Service

namespace Server

variable {owner : String → String} {s : Server τ}

/-- Whatever happens from now on, each turn of a run is confined to a definition of a tenant. -/
def Devotes (s : Server τ) (runId t : String) : Prop :=
  ∀ log s', s.History log s' → ∀ before u behind, s'.tasks = before ++ u :: behind →
    u.runId = runId → u.workflow.tenantId = some t ∧
      s'.Confined (· = u.workflow) (s'.turn before u behind).2

/-- A run stays with the tenant that it belongs to. -/
theorem Apart.devotes (h : s.Apart owner) {runId : String} (hpast : s.store.Past runId) :
    s.Devotes runId (owner runId) := by
  rintro log s' hhistory before u behind htasks rfl
  obtain ⟨owner', hext, happart⟩ := hhistory.apart h
  have hu : u ∈ s'.tasks := by simp [htasks]
  refine ⟨?_, turn_confined happart htasks⟩
  rw [← hext.same _ hpast]
  exact (happart.tasks u hu).workflow.tenant

/-- A run that is begun for a definition that a tenant has stored stays with the tenant. -/
theorem Within.devotes {D : Definition → Prop} {s' : Server τ}
    (h : s.Within D (s.store.Stores t) owner s') :
    ∀ u ∈ s'.tasks, s'.Devotes u.runId t ∨ ∃ v ∈ s.tasks, v.runId = u.runId := by
  intro u hu
  obtain ⟨owner', -, happart⟩ := h.apart
  rcases h.tasks u hu with hstores | ⟨v, hv, hid, -⟩
  · have htenant := (happart.tasks u hu).workflow.tenant
    obtain rfl : t = owner' u.runId := Option.some.inj (hstores.tenantId.symm.trans htenant)
    exact .inl (happart.devotes (happart.tasks u hu).gave)
  · exact .inr ⟨v, hv, hid⟩

/-- Tenants that share a server are apart. Whatever a tenant asks of the store depends on its own
rows, on the templates and on which ids are taken by whom, and touches its own rows alone. What it
asks a dispatcher for depends on no more. This is confined to what it has stored and to the tasks that
it waits behind, and the runs that are begun stay the tenant's in all that happens later: for servers
on which ids belong to tenants, as they do whatever has happened since no run was under way. -/
theorem tenants_apart {t : String} (ht : t ≠ "") :
    (∀ (α : Type) (op : Operation τ α), Operation.Asked t α op → op.Isolated t (· = t)) ∧
    (∀ (waits : Bool) (α : Type) (m : Service τ α), Service.Asked t waits α m → m.Isolated t ∧
      ∀ (s : Server τ) (owner : String → String), s.Apart owner →
        s.Within (s.Concerned t waits) (s.store.Stores t) owner (m.run s).2 ∧
        ∀ u ∈ (m.run s).2.tasks,
          (m.run s).2.Devotes u.runId t ∨ ∃ v ∈ s.tasks, v.runId = u.runId) ∧
    ∀ (s₀ s : Server τ) (log : List (Noted τ)), s₀.AtRest → s₀.History log s →
      ∃ owner, s.Apart owner := by
  refine ⟨fun α op h => h.isolated, fun waits α m h => ⟨h.isolated ht, fun s owner hs => ?_⟩,
    fun s₀ s log hrest hhistory => ?_⟩
  · have hwithin := h.within ht hs
    exact ⟨hwithin, hwithin.devotes⟩
  · obtain ⟨owner₀, happart₀⟩ := hrest.apart
    obtain ⟨owner, -, happart⟩ := hhistory.apart happart₀
    exact ⟨owner, happart⟩

end Server

end Asked

/-! ### Two tenants and a plain request -/

namespace Server

/-- The store in which the workflow of one tenant has another name. -/
def pauseRenamed : Store ℚ :=
  pauseMade.store.changeWorkflow (idOf 1) fun r => { r with name := "Break" }

/-- It is nothing to another tenant, who can neither learn of the name nor delete the workflow. A run
of the workflow stays the first tenant's. -/
theorem pause_stays_apart : "tenant-1" ≠ "" ∧ "tenant-2" ≠ "" ∧
    pauseMade.store.Alike "tenant-2" pauseRenamed ∧
    ((Workflows.delete (idOf 1) "tenant-2").run pauseMade.store).1
      = ((Workflows.delete (idOf 1) "tenant-2").run pauseRenamed).1 ∧
    pauseMade.store.Spares "tenant-1"
      ((Workflows.delete (idOf 1) "tenant-2").run pauseMade.store).2 ∧
    pauseDispatched.tasks.length = 1 ∧
    ∀ u ∈ pauseDispatched.tasks, pauseDispatched.Devotes u.runId "tenant-1" := by
  have hmade : exact.Act [] pauseMade :=
    .creates .pause "tenant-1" "user-1" exact.now ⟨NewWorkflow.codec.write .wire .pause, rfl⟩
  obtain ⟨hasked, -⟩ := tenants_apart (τ := ℚ) (t := "tenant-2") (by decide)
  obtain ⟨-, hservices, hhistories⟩ := tenants_apart (τ := ℚ) (t := "tenant-1") (by decide)
  obtain ⟨owner, happart⟩ := hhistories exact pauseMade _ exact_new.atRest hmade.history
  have hother : ∀ r ∈ pauseMade.store.workflows, r.id = idOf 1 →
      r.tenantId ≠ "tenant-2" ∧ r.isTemplate = false := by decide +kernel
  have halike : pauseMade.store.Alike "tenant-2" pauseRenamed :=
    (happart.store.alike "tenant-2").changeOther hother
      ⟨fun _ => rfl, fun _ => rfl, fun _ => rfl⟩
  obtain ⟨hsame, -, hspares⟩ := hasked _ _ (.delete (idOf 1)) _ _ halike trivial trivial
  obtain ⟨-, hbegun⟩ := (hservices _ _ _ (.dispatch {} .manual)).2 pauseMade owner happart
  refine ⟨by decide, by decide, halike, hsame, hspares "tenant-1" (by decide), by decide +kernel,
    fun u hu => (hbegun u hu).resolve_right ?_⟩
  rintro ⟨v, hv, -⟩
  cases hv

/-- A workflow that sends a plain request. -/
def ping : NewWorkflow where
  name := "Ping"
  enabled := true
  trigger := { kind := .manual }
  actions := [{
    id := "ping"
    work := .action (.apiCall {
      url := "https://example.test/ping", method := "POST", headers := [], body := none
      timeoutMs := none }) }]

/-- A run of it is dispatched for a tenant. -/
def pingDispatched : Server ℚ :=
  ((do
    let _ ← Service.store (Workflows.create ping "tenant-1" "user-1" exact.now)
    Service.dispatchEvent {} "tenant-1" .manual : Service ℚ Dispatched).run exact).2

/-- The run makes one call, and the call does not carry the tenant. -/
theorem ping_carries_no_tenant :
    pingDispatched.tasks.map (·.workflow.tenantId) = [some "tenant-1"] ∧
      pingDispatched.calls = [] ∧
      (pingDispatched.tasks.flatMap fun u =>
        ((pingDispatched.turn [] u []).2.calls.map fun p => decide (p.2.Carries "tenant-1")))
        = [false] := by
  decide +kernel

end Server

end Automation
