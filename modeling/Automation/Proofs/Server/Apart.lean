import Automation.Proofs.Run.Tenant
import Automation.Proofs.Server.Books
import Automation.Proofs.Store.Tenants

/-!
# Tenants on a server

Every id that is given belongs to one tenant for good: the row of a workflow or of a run is a row of
the tenant of its id, and so are the task of the run, what is queued of it, and its workflow
(`Server.Apart`). Whatever happens to a server keeps this.
-/

namespace Automation

variable {τ : Type} {owner owner' owner'' : String → String}

/-! ## Owners -/

namespace Store

variable {s s' s'' : Store τ}

/-- An id is not one of those that are still to be given. -/
def Past (s : Store τ) (id : String) : Prop := ∀ count, s.given < count → id ≠ idOf count

theorem Past.mono {id : String} (h : s.Past id) (hgiven : s.given ≤ s'.given) : s'.Past id :=
  fun count hcount => h count (Nat.lt_of_le_of_lt hgiven hcount)

theorem past_idOf {count : Nat} (h : count ≤ s.given) : s.Past (idOf count) := by
  intro other hother hid
  have hsame := idOf_injective hid
  omega

/-- The next id is still to be given. -/
theorem not_past : ¬ s.Past (idOf (s.given + 1)) := fun h => h _ (Nat.lt_succ_self _) rfl

/-- In the later of two stores, the ids that were there in the earlier one belong to the tenants that
they belonged to. -/
structure Extends (s s' : Store τ) (owner owner' : String → String) : Prop where
  given : s.given ≤ s'.given
  same : ∀ id, s.Past id → owner' id = owner id

theorem Extends.of_given (h : s.given ≤ s'.given) : s.Extends s' owner owner := ⟨h, fun _ _ => rfl⟩

theorem Extends.trans (h : s.Extends s' owner owner') (h' : s'.Extends s'' owner' owner'') :
    s.Extends s'' owner owner'' :=
  ⟨Nat.le_trans h.given h'.given,
    fun id hid => (h'.same id (hid.mono h.given)).trans (h.same id hid)⟩

/-- An id that was not given yet may belong to any tenant. -/
theorem extends_update {id : String} (hgiven : s.given ≤ s'.given) (hid : ¬ s.Past id)
    (tenant : String) : s.Extends s' owner (Function.update owner id tenant) :=
  ⟨hgiven, fun other hpast =>
    Function.update_of_ne (by rintro rfl; exact hid hpast) tenant owner⟩

/-- Each row is a row of the tenant that its id belongs to. An id is taken once, and none that is taken
is still to be given. -/
structure OwnedBy (s : Store τ) (owner : String → String) : Prop where
  workflowIds : (s.workflows.map (·.id)).Nodup
  workflows : ∀ r ∈ s.workflows, s.Past r.id ∧ owner r.id = r.tenantId
  runIds : (s.runs.map (·.id)).Nodup
  runs : ∀ x ∈ s.runs, s.Past x.id ∧ owner x.id = x.tenantId

namespace OwnedBy

/-- Such a store is alike to itself for every tenant. -/
theorem alike (h : s.OwnedBy owner) (t : String) : s.Alike t s :=
  ⟨.refl h.workflowIds, rfl, .refl h.runIds, rfl, rfl⟩

theorem extend (h : s.OwnedBy owner) (hext : s.Extends s' owner owner') : s.OwnedBy owner' :=
  ⟨h.workflowIds,
    fun r hr => ⟨(h.workflows r hr).1, (hext.same _ (h.workflows r hr).1).trans (h.workflows r hr).2⟩,
    h.runIds,
    fun x hx => ⟨(h.runs x hx).1, (hext.same _ (h.runs x hx).1).trans (h.runs x hx).2⟩⟩

theorem idle (h : s.OwnedBy owner) {given : Nat} (hgiven : s.given ≤ given)
    (outage : Option Outage) : ({ s with given, outage } : Store τ).OwnedBy owner :=
  ⟨h.workflowIds, fun r hr => ⟨(h.workflows r hr).1.mono hgiven, (h.workflows r hr).2⟩,
    h.runIds, fun x hx => ⟨(h.runs x hx).1.mono hgiven, (h.runs x hx).2⟩⟩

theorem used (h : s.OwnedBy owner) (outage : Option Outage) :
    ({ s with outage } : Store τ).OwnedBy owner := h.idle (Nat.le_refl _) outage

theorem insertWorkflow (h : s.OwnedBy owner) {r : WorkflowRow τ} (hnew : s.workflow? r.id = none)
    (hpast : s.Past r.id) (hr : owner r.id = r.tenantId) : (s.insertWorkflow r).OwnedBy owner := by
  refine ⟨((h.alike "").insertWorkflow hnew).workflows.ids, fun r' hr' => ?_, h.runIds, h.runs⟩
  rcases List.mem_append.mp hr' with hr' | hr'
  · exact h.workflows r' hr'
  · obtain rfl := List.mem_singleton.mp hr'
    exact ⟨hpast, hr⟩

theorem changeWorkflow (h : s.OwnedBy owner) {id : String} {f : WorkflowRow τ → WorkflowRow τ}
    (hid : ∀ r, (f r).id = r.id) (htenant : ∀ r, (f r).tenantId = r.tenantId) :
    (s.changeWorkflow id f).OwnedBy owner := by
  refine ⟨((h.alike "").workflows.change hid htenant).ids, fun r hr => ?_, h.runIds, h.runs⟩
  obtain ⟨old, hold, rfl⟩ := List.mem_map.mp hr
  split
  · rw [hid, htenant]
    exact h.workflows old hold
  · exact h.workflows old hold

theorem insertRun (h : s.OwnedBy owner) {x : RunRow} (hnew : s.run? x.id = none)
    (hpast : s.Past x.id) (hx : owner x.id = x.tenantId) : (s.insertRun x).OwnedBy owner := by
  refine ⟨h.workflowIds, h.workflows, ((h.alike "").insertRun hnew).runs.ids, fun y hy => ?_⟩
  rcases List.mem_append.mp hy with hy | hy
  · exact h.runs y hy
  · obtain rfl := List.mem_singleton.mp hy
    exact ⟨hpast, hx⟩

theorem changeRun (h : s.OwnedBy owner) {id : String} {f : RunRow → RunRow}
    (hid : ∀ x, (f x).id = x.id) (htenant : ∀ x, (f x).tenantId = x.tenantId) :
    (s.changeRun id f).OwnedBy owner := by
  refine ⟨h.workflowIds, h.workflows, ((h.alike "").changeRun hid htenant).runs.ids, fun x hx => ?_⟩
  obtain ⟨old, hold, rfl⟩ := List.mem_map.mp hx
  split
  · rw [hid, htenant]
    exact h.runs old hold
  · exact h.runs old hold

end OwnedBy

/-- A workflow that a tenant makes is the tenant's. -/
theorem Edit.owned {tenant : String} (he : Edit tenant s s') (h : s.OwnedBy owner) :
    ∃ owner', s.Extends s' owner owner' ∧ s'.OwnedBy owner' := by
  cases he with
  | idle given outage hgiven => exact ⟨owner, .of_given hgiven, h.idle hgiven outage⟩
  | insert r outage hid hnew htenant hrecord hrunnable =>
    have hfresh : ¬ s.Past r.id := hid ▸ not_past
    have hext : s.Extends { s.insertWorkflow r with given := s.given + 1, outage } owner
        (Function.update owner r.id r.tenantId) := extends_update (Nat.le_succ _) hfresh r.tenantId
    have hidle := (h.extend hext).idle (Nat.le_succ _) outage
    have hinserted := hidle.insertWorkflow (r := r) hnew
      (hid ▸ past_idOf (Nat.le_refl _)) (Function.update_self r.id r.tenantId owner)
    exact ⟨_, hext, hinserted⟩
  | change r f outage hrow htenant hf =>
    exact ⟨owner, .of_given (Nat.le_refl _), (h.changeWorkflow hf.id hf.tenantId).used outage⟩
  | remove r outage hrow htenant =>
    have hremoved : (s.removeWorkflow r.id).Alike "" (s.removeWorkflow r.id) :=
      (h.alike "").removeWorkflow
    exact ⟨owner, .of_given (Nat.le_refl _), hremoved.workflows.ids,
      fun r' hr' => h.workflows r' (List.mem_of_mem_filter hr'), h.runIds, h.runs⟩

theorem Edits.owned {tenant : String} (he : Edits tenant s s') (h : s.OwnedBy owner) :
    ∃ owner', s.Extends s' owner owner' ∧ s'.OwnedBy owner' := by
  induction he with
  | refl => exact ⟨owner, .of_given (Nat.le_refl _), h⟩
  | tail hes he ih =>
    obtain ⟨owner₁, hext, howned⟩ := ih
    obtain ⟨owner₂, hext', howned'⟩ := he.owned howned
    exact ⟨owner₂, hext.trans hext', howned'⟩

end Store

/-! ### Runs that start and end -/

namespace Runs

variable {s : Store τ} {d : Definition} {event : Event} {isTest : Bool} {now : Time.Stamp}

/-- A run that starts becomes a row of its tenant's. -/
theorem start_owned {id : String} (h : s.OwnedBy owner) (hpast : s.Past id)
    (htenant : d.tenantId = some (owner id)) :
    ((start d event id isTest now).run s).2.OwnedBy owner ∧
      ((start d event id isTest now).run s).2.given = s.given := by
  rcases start_cases d event id isTest now s with ⟨row, outage, hrow, hnone, hrun⟩ |
    ⟨fault, outage, hrun, -⟩ <;> rw [hrun]
  · obtain rfl := rowFor_id hrow
    have hown : owner row.id = row.tenantId :=
      Option.some.inj (htenant.symm.trans (rowFor_tenantId hrow))
    exact ⟨(h.insertRun hnone hpast hown).used outage, rfl⟩
  · exact ⟨h.used outage, rfl⟩

variable [ActiveTime τ] [RunningMean τ] {told : RunResult τ}

omit [RunningMean τ] in
/-- An outcome is written to a row of its tenant's, or it becomes one. -/
theorem saved_owned {s' : Store τ} (h : s.OwnedBy owner) (hpast : s.Past told.runId)
    (htenant : d.tenantId = some (owner told.runId)) (hs' : saved s d event told isTest now = .ok s') :
    s'.OwnedBy owner ∧ s'.given = s.given := by
  obtain ⟨_, -, hs'⟩ := Except.bind_eq_ok.mp hs'
  split at hs'
  · obtain rfl := Except.ok.inj hs'
    exact ⟨h.changeRun (fun _ => rfl) fun _ => rfl, rfl⟩
  · rename_i hnone
    obtain ⟨row, hrow, hs'⟩ := Except.bind_eq_ok.mp hs'
    obtain rfl := Except.ok.inj hs'
    have hid : row.id = told.runId := rowFor_id hrow
    have hrowTenant : owner told.runId = row.tenantId :=
      Option.some.inj (htenant.symm.trans (rowFor_tenantId hrow))
    refine ⟨h.insertRun (x := outcome row told now) ?_ ?_ ?_, rfl⟩
    · exact (congrArg s.run? hid).trans hnone
    · exact hid ▸ hpast
    · exact (congrArg owner hid).trans hrowTenant

theorem record_owned (h : s.OwnedBy owner) (hpast : s.Past told.runId)
    (htenant : d.tenantId = some (owner told.runId)) :
    ((record d event told isTest now).run s).2.OwnedBy owner ∧
      ((record d event told isTest now).run s).2.given = s.given := by
  unfold record
  dsimp only
  split
  · exact ⟨h, rfl⟩
  · refine Operation.commit_bind_keeps (P := fun s' => s'.OwnedBy owner ∧ s'.given = s.given)
      (fun outage => ⟨h.used outage, rfl⟩) fun outage s' hs' => ?_
    obtain ⟨s₁, hs₁, hs'⟩ := Except.bind_eq_ok.mp hs'
    obtain ⟨howned, hgiven⟩ := saved_owned (h.used outage) hpast htenant hs₁
    obtain rfl := Except.ok.inj hs'
    rw [current_store]
    split
    · exact ⟨howned.changeWorkflow (counted_stays told now).id (counted_stays told now).tenantId,
        hgiven⟩
    · exact ⟨howned, hgiven⟩

end Runs

/-! ## Runs of a tenant -/

/-- A run of a definition belongs to the tenant of the definition, and so does the workflow. -/
structure Definition.Of (d : Definition) (s : Store τ) (owner : String → String) (runId : String) :
    Prop where
  wellFormed : d.WellFormed
  tenant : d.tenantId = some (owner runId)
  workflow : ∀ id ∈ d.id, s.Past id ∧ owner id = owner runId

theorem Definition.Of.extend {d : Definition} {runId : String} {s s' : Store τ}
    (h : d.Of s owner runId) (hrun : s.Past runId) (hext : s.Extends s' owner owner') :
    d.Of s' owner' runId := by
  refine ⟨h.wellFormed, hext.same runId hrun ▸ h.tenant, fun id hid => ?_⟩
  obtain ⟨hpast, hsame⟩ := h.workflow id hid
  exact ⟨hpast.mono hext.given, by rw [hext.same id hpast, hext.same runId hrun, hsame]⟩

/-- What is left of a run is left of a run of its tenant. -/
structure Continuation.Serves (c : Continuation τ) (s : Store τ) (owner : String → String) :
    Prop where
  gave : s.Past c.runId
  workflow : ∃ d, Definition.codec.read (Value.object c.workflow) = .ok d ∧ d.Of s owner c.runId
  tenant : c.context.get? "tenant_id" = some (.text (owner c.runId))

theorem Continuation.Serves.extend {c : Continuation τ} {s s' : Store τ} (h : c.Serves s owner)
    (hext : s.Extends s' owner owner') : c.Serves s' owner' := by
  obtain ⟨d, hread, hof⟩ := h.workflow
  exact ⟨h.gave.mono hext.given, ⟨d, hread, hof.extend h.gave hext⟩,
    hext.same _ h.gave ▸ h.tenant⟩

section Apart

variable [ActiveTime τ]

/-- The task of a run carries it out for the tenant that the run belongs to. -/
structure Task.Serves (t : Task τ) (s : Store τ) (owner : String → String) : Prop where
  gave : s.Past t.runId
  workflow : t.workflow.Of s owner t.runId
  carries : ∃ (e : Engine) (start : Dialogue (Except Escape (RunResult τ))) (talk : List Exchange),
    e.Pursues t.runId t.workflow start ∧ start.Reaches talk t.rest
  rest : t.rest.KeepsTo t.workflow (owner t.runId)

namespace Task.Serves

variable {t : Task τ} {s s' : Store τ} {talk : List Exchange}

theorem extend (h : t.Serves s owner) (hext : s.Extends s' owner owner') : t.Serves s' owner' :=
  ⟨h.gave.mono hext.given, h.workflow.extend h.gave hext, h.carries,
    (hext.same _ h.gave).symm ▸ h.rest⟩

/-- It goes on for the tenant. -/
theorem waits (h : t.Serves s owner) {rest : Dialogue (Except Escape (RunResult τ))}
    (hrest : t.rest.Reaches talk rest) (wakesAt turn : Nat) :
    ({ t with rest, wakesAt, turn } : Task τ).Serves s owner := by
  obtain ⟨e, start, past, hpursues, hpast⟩ := h.carries
  exact ⟨h.gave, h.workflow, ⟨e, start, _, hpursues, hpast.trans hrest⟩, h.rest.reaches hrest⟩

/-- What is told of its run is told under the id of the run, and so is what is left of it. -/
theorem tells (h : t.Serves s owner) {told : RunResult τ} (hrest : t.rest.Course talk (.ok told)) :
    told.runId = t.runId ∧ ∀ c ∈ told.continuation, c.Serves s owner := by
  obtain ⟨e, start, past, hpursues, hpast⟩ := h.carries
  have htells := hpursues.tells (hpast.course hrest)
  refine ⟨htells.id, fun c hc => ?_⟩
  rcases htells.ends with ⟨-, hnone⟩ | ⟨-, -, c', hcont, hid, hwire⟩
  · cases hnone.symm.trans hc
  · obtain rfl : c = c' := Option.some.inj (hc.symm.trans hcont)
    refine ⟨hid ▸ h.gave, ⟨t.workflow, ?_, hid ▸ h.workflow⟩, hid ▸ h.rest.left talk told hrest c hc⟩
    rw [hwire]
    exact (Definition.codec_restores h.workflow.wellFormed).read

/-- The run is put into the store as a row of its tenant's. -/
theorem starts (h : t.Serves s owner) (hs : s.OwnedBy owner) (now : Time.Stamp) :
    ((Runs.start t.workflow t.event t.runId (t.kind = .test) now).run s).2.OwnedBy owner ∧
      ((Runs.start t.workflow t.event t.runId (t.kind = .test) now).run s).2.given = s.given :=
  Runs.start_owned hs h.gave h.workflow.tenant

variable [RunningMean τ]

/-- The result of the run is recorded in rows of its tenant's. -/
theorem records (h : t.Serves s owner) (hs : s.OwnedBy owner) {told : RunResult τ}
    (hrest : t.rest.Course talk (.ok told)) (now : Time.Stamp) :
    ((Runs.record t.workflow t.event told (t.kind = .test) now).run s).2.OwnedBy owner ∧
      ((Runs.record t.workflow t.event told (t.kind = .test) now).run s).2.given = s.given := by
  obtain ⟨hid, -⟩ := h.tells hrest
  exact Runs.record_owned hs (hid ▸ h.gave) (hid ▸ h.workflow.tenant)

end Task.Serves

namespace Server

/-- On a server the tenants are apart: each row, each task and each queued run is of the tenant that
its id belongs to. -/
structure Apart (s : Server τ) (owner : String → String) : Prop where
  store : s.store.OwnedBy owner
  tasks : ∀ t ∈ s.tasks, t.Serves s.store owner
  queue : ∀ p ∈ s.scheduler.resumptions, p.2.Serves s.store owner

variable {s s' : Server τ}

/-- Tasks and queued runs that were there stay apart, and new ones come to them. -/
theorem Apart.extend (h : s.Apart owner) (hext : s.store.Extends s'.store owner owner')
    (hstore : s'.store.OwnedBy owner')
    (htasks : ∀ t ∈ s'.tasks, t ∈ s.tasks ∨ t.Serves s'.store owner')
    (hqueue : ∀ p ∈ s'.scheduler.resumptions,
      p ∈ s.scheduler.resumptions ∨ p.2.Serves s'.store owner') : s'.Apart owner' :=
  ⟨hstore, fun t ht => (htasks t ht).elim (fun ht => (h.tasks t ht).extend hext) id,
    fun p hp => (hqueue p hp).elim (fun hp => (h.queue p hp).extend hext) id⟩

/-- A server on which no run is under way or queued. It may store any rows, if each id is taken once
and none of them is still to be given. -/
structure AtRest (s : Server τ) : Prop where
  ids : (s.store.workflows.map (·.id) ++ s.store.runs.map (·.id)).Nodup
  past : ∀ id ∈ s.store.workflows.map (·.id) ++ s.store.runs.map (·.id), s.store.Past id
  tasks : s.tasks = []
  queue : s.scheduler.resumptions = []

omit [ActiveTime τ] in
theorem New.atRest (h : s.New) : s.AtRest := by
  refine ⟨?_, ?_, h.tasks, h.queue⟩ <;> simp [h.workflows, h.runs]

/-- Its ids belong to the tenants whose rows have them. -/
theorem AtRest.apart (h : s.AtRest) : ∃ owner, s.Apart owner := by
  obtain ⟨hworkflowIds, hrunIds, hdisjoint⟩ := List.nodup_append.mp h.ids
  let owner (id : String) : String :=
    match s.store.workflow? id with
    | some r => r.tenantId
    | none => ((s.store.run? id).map RunRow.tenantId).getD ""
  refine ⟨owner, ⟨hworkflowIds, fun r hr => ⟨?_, ?_⟩, hrunIds, fun x hx => ⟨?_, ?_⟩⟩, ?_, ?_⟩
  · exact h.past _ (List.mem_append_left _ (List.mem_map_of_mem hr))
  · have hfound : s.store.workflow? r.id = some r := find?_of_nodup hworkflowIds hr
    simp only [owner, hfound]
  · exact h.past _ (List.mem_append_right _ (List.mem_map_of_mem hx))
  · have hnone : s.store.workflow? x.id = none := List.find?_eq_none.mpr fun r hr hsame =>
      hdisjoint _ (List.mem_map_of_mem hr) _ (List.mem_map_of_mem hx) (by simpa using hsame)
    have hfound : s.store.run? x.id = some x := find?_of_nodup hrunIds hx
    simp only [owner, hnone, hfound, Option.map_some, Option.getD_some]
  · simp [h.tasks]
  · simp [h.queue]

section Moves

variable [RunningMean τ] {t : Task τ} {others : List (Task τ)}

omit [RunningMean τ] in
theorem Apart.task (h : s.Apart owner) (htasks : s.tasks.Perm (t :: others)) :
    t.Serves s.store owner := h.tasks t (htasks.mem_iff.mpr List.mem_cons_self)

omit [RunningMean τ] in
theorem Apart.joins (h : s.Apart owner) {e : Engine} {row : WorkflowRow τ} {outage : Option Outage}
    (hstore : s'.store = { s.store with given := s.store.given + 1, outage })
    (htasks : s'.tasks.Perm (t :: s.tasks))
    (hqueue : s'.scheduler.resumptions = s.scheduler.resumptions)
    (hid : t.runId = idOf (s.store.given + 1)) (hrow : row ∈ s.store.workflows)
    (hworkflow : row.definition = .ok t.workflow)
    (hrest : t.rest = e.run t.workflow t.event t.runId) :
    ∃ owner', s.store.Extends s'.store owner owner' ∧ s'.Apart owner' := by
  have hfresh : ¬ s.store.Past t.runId := hid ▸ Store.not_past
  have hgiven : s.store.given ≤ s'.store.given := by
    rw [hstore]
    exact Nat.le_succ _
  let owner' := Function.update owner t.runId row.tenantId
  have hext : s.store.Extends s'.store owner owner' :=
    Store.extends_update hgiven hfresh row.tenantId
  have hnew : owner' t.runId = row.tenantId := Function.update_self _ _ owner
  have howned := h.store.extend hext
  obtain ⟨hwell, hwid, htenant⟩ := WorkflowRow.definition_ok hworkflow
  have ht : t.Serves s'.store owner' := by
    refine ⟨hid ▸ Store.past_idOf ?_, ⟨hwell, hnew.symm ▸ htenant, fun id hmem => ?_⟩,
      ⟨e, _, [], .run t.event, hrest ▸ .here _⟩, ?_⟩
    · rw [hstore]
    · obtain rfl := Option.some.inj (hwid.symm.trans hmem)
      obtain ⟨hpast, hown⟩ := howned.workflows row hrow
      exact ⟨hpast.mono hgiven, hown.trans hnew.symm⟩
    · rw [hrest, hnew]
      exact Engine.run_keepsTo htenant t.event t.runId
  refine ⟨owner', hext, h.extend hext ?_ (fun u hu => ?_) fun p hp => .inl (hqueue ▸ hp)⟩
  · rw [hstore]
    exact howned.idle (Nat.le_succ _) outage
  · rcases List.mem_cons.mp (htasks.subset hu) with rfl | hu
    · exact .inr ht
    · exact .inl hu

omit [RunningMean τ] in
/-- The run of a task goes on or ends, and its rows stay its tenant's. -/
theorem Apart.advances (h : s.Apart owner) (htasks : s.tasks.Perm (t :: others))
    (hstore : s'.store.OwnedBy owner ∧ s'.store.given = s.store.given)
    (next : List (Task τ)) (htasks' : s'.tasks.Perm (next ++ others))
    (hnext : ∀ u ∈ next, u.Serves s.store owner)
    (hqueue : ∀ p ∈ s'.scheduler.resumptions,
      p ∈ s.scheduler.resumptions ∨ p.2.Serves s.store owner) :
    ∃ owner', s.store.Extends s'.store owner owner' ∧ s'.Apart owner' := by
  have hext : s.store.Extends s'.store owner owner := .of_given hstore.2.ge
  refine ⟨owner, hext, h.extend hext hstore.1 (fun u hu => ?_) fun p hp =>
    (hqueue p hp).imp_right (·.extend hext)⟩
  rcases List.mem_append.mp (htasks'.subset hu) with hu | hu
  · exact .inr ((hnext u hu).extend hext)
  · exact .inl (htasks.mem_iff.mpr (List.mem_cons_of_mem t hu))

/-- A task that fails leaves the rows its tenant's. -/
theorem Apart.failed (h : s.Apart owner) (htasks : s.tasks.Perm (t :: others)) {failure : Failed}
    {store : Store τ} (hfails : s.Fails t store failure) :
    store.OwnedBy owner ∧ store.given = s.store.given := by
  have hserves := h.task htasks
  cases hfails with
  | refused now hstarted hrun => simpa only [hrun] using hserves.starts h.store now
  | escaped talk cause hstarted hclock hrest hstore =>
    rw [hstore]
    exact ⟨h.store, rfl⟩
  | unrecorded talk told now hstarted hrest hrun =>
    simpa only [hrun] using hserves.records h.store hrest now

omit [ActiveTime τ] [RunningMean τ] in
/-- What is queued when a result is told is left of the run that it is told of. -/
theorem mem_queued {queue : List (String × Continuation τ)} {told : RunResult τ}
    {p : String × Continuation τ} (h : p ∈ queued queue t told) :
    p ∈ queue ∨ told.continuation = some p.2 := by
  unfold queued at h
  split at h
  · rename_i c hc
    split at h
    · rcases List.mem_append.mp h with h | h
      · exact .inl (List.mem_of_mem_filter h)
      · obtain rfl := List.mem_singleton.mp h
        exact .inr hc
    · exact .inl h
  · exact .inl h

omit [RunningMean τ] in
theorem Apart.resumes (h : s.Apart owner) {e : Engine} {id : String} {c : Continuation τ}
    (hjob : (id, c) ∈ s.scheduler.resumptions)
    (hqueue : s'.scheduler.resumptions = s.scheduler.resumptions.filter (·.1 ≠ id))
    (hworkflow : Definition.codec.read (Value.object c.workflow) = .ok t.workflow)
    (hstore : s'.store = s.store) (htasks : s'.tasks.Perm (t :: s.tasks))
    (hid : t.runId = c.runId) (hrest : t.rest = e.resume c) :
    ∃ owner', s.store.Extends s'.store owner owner' ∧ s'.Apart owner' := by
  obtain ⟨hpast, ⟨d, hread, hof⟩, htenant⟩ := h.queue _ hjob
  have ht : t.Serves s.store owner := by
    obtain rfl : t.workflow = d := Schema.Checked.ok.inj (hworkflow.symm.trans hread)
    refine ⟨hid ▸ hpast, hid ▸ hof, ⟨e, _, [], .resume c hid.symm hworkflow, hrest ▸ .here _⟩, ?_⟩
    rw [hrest, hid]
    exact Engine.resume_keepsTo hworkflow htenant
  have hext : s.store.Extends s'.store owner owner := .of_given (Nat.le_of_eq (by rw [hstore]))
  refine ⟨owner, hext, h.extend hext (hstore ▸ h.store) (fun u hu => ?_) fun p hp =>
    .inl (List.mem_of_mem_filter (hqueue ▸ hp))⟩
  rcases List.mem_cons.mp (htasks.subset hu) with rfl | hu
  · exact .inr (hstore ▸ ht)
  · exact .inl hu

/-- Every move keeps the tenants apart. -/
theorem Move.apart {more : List (Noted τ)} (hm : s.Move s' more) (h : s.Apart owner) :
    ∃ owner', s.store.Extends s'.store owner owner' ∧ s'.Apart owner' := by
  have hnone : ∀ u ∈ ([] : List (Task τ)), u.Serves s.store owner :=
    fun _ hu => absurd hu List.not_mem_nil
  cases hm with
  | idles given outage hgiven hstore htasks hqueue =>
    have hext : s.store.Extends s'.store owner owner := .of_given (by rw [hstore]; exact hgiven)
    exact ⟨owner, hext, h.extend hext (hstore ▸ h.store.idle hgiven outage)
      (fun u hu => .inl (htasks ▸ hu)) fun p hp => .inl (hqueue ▸ hp)⟩
  | edits tenant hstore htasks hqueue =>
    obtain ⟨owner', hext, howned⟩ := hstore.owned h.store
    exact ⟨owner', hext, h.extend hext howned (fun u hu => .inl (htasks ▸ hu)) fun p hp =>
      .inl (hqueue ▸ hp)⟩
  | joins t e row outage hstore htasks hqueue hid hstarted hkind hrow hworkflow hevent horigin
      hsuspends hrest => exact h.joins hstore htasks hqueue hid hrow hworkflow hrest
  | starts t others now hstarted htasks hrun htasks' hqueue =>
    have hserves := h.task htasks
    have hstore := hserves.starts h.store now
    rw [hrun] at hstore
    refine h.advances htasks hstore [{ t with started := true }] htasks' (fun u hu => ?_) fun p hp =>
      .inl (hqueue ▸ hp)
    obtain rfl := List.mem_singleton.mp hu
    exact ⟨hserves.gave, hserves.workflow, hserves.carries, hserves.rest⟩
  | waits t others talk rest wakesAt turn hstarted htasks hclock hrest hstore htasks' hqueue =>
    refine h.advances htasks ⟨hstore ▸ h.store, by rw [hstore]⟩ [{ t with rest, wakesAt, turn }]
      htasks' (fun u hu => ?_) fun p hp => .inl (hqueue ▸ hp)
    obtain rfl := List.mem_singleton.mp hu
    exact (h.task htasks).waits hrest wakesAt turn
  | fails t others hfails htasks htasks' hqueue =>
    refine h.advances htasks ?_ [] htasks' hnone fun p hp => .inl (hqueue ▸ hp)
    exact h.failed htasks hfails
  | records t others talk told now hstarted htasks hclock hrest hrun htasks' hqueue =>
    have hserves := h.task htasks
    have hstore := hserves.records h.store hrest now
    rw [hrun] at hstore
    refine h.advances htasks hstore [] htasks' hnone fun p hp => ?_
    exact (mem_queued (hqueue ▸ hp)).imp_right ((hserves.tells hrest).2 p.2)
  | resumes t e id c hjob hqueue hworkflow hstore htasks hid hstarted hkind horigin hsuspends
      hrest => exact h.resumes hjob hqueue hworkflow hstore htasks hid hrest
  | loses id c hjob hqueue hunread hstore htasks =>
    have hext : s.store.Extends s'.store owner owner := .of_given (Nat.le_of_eq (by rw [hstore]))
    exact ⟨owner, hext, h.extend hext (hstore ▸ h.store) (fun u hu => .inl (htasks ▸ hu)) fun p hp =>
      .inl (List.mem_of_mem_filter (hqueue ▸ hp))⟩

/-- On any way of a server the tenants stay apart, and every id stays with its tenant. -/
theorem Moves.apart {log : List (Noted τ)} (h : s.Moves log s') (hs : s.Apart owner) :
    ∃ owner', s.store.Extends s'.store owner owner' ∧ s'.Apart owner' := by
  induction h with
  | start => exact ⟨owner, .of_given (Nat.le_refl _), hs⟩
  | move _ hmove _ ih =>
    obtain ⟨owner₁, hext, happart⟩ := ih
    obtain ⟨owner₂, hext', happart'⟩ := hmove.apart happart
    exact ⟨owner₂, hext.trans hext', happart'⟩

theorem History.apart {log : List (Noted τ)} (h : s.History log s') (hs : s.Apart owner) :
    ∃ owner', s.store.Extends s'.store owner owner' ∧ s'.Apart owner' := h.moves.apart hs

end Moves

end Server

end Apart

end Automation
