import Automation.Proofs.Store.Alike

/-!
# What tenants do to the store

An operation of a tenant answers alike on stores that are alike for the tenant, and leaves them
alike; and it leaves alone the rows of all other tenants (`Operation.IsolatedOn`). This goes by rules
for the parts of operations, and then for all that a tenant can ask for (`Operation.Asked`), and for
what happens to the store when a run starts and ends.
-/

namespace Automation

variable {τ : Type}

/-! ## Operations -/

namespace Operation

variable {α β : Type} {op : Operation τ α} {P : Store τ → Prop} {t : String} {T : String → Prop}

/-- What an operation does on stores of which something holds depends only on what a tenant knows of
the store, and it leaves alone the rows of all tenants but some. -/
def IsolatedOn (P : Store τ → Prop) (t : String) (T : String → Prop) (op : Operation τ α) : Prop :=
  ∀ s s', s.Alike t s' → P s → P s' →
    (op.run s).1 = (op.run s').1 ∧ (op.run s).2.Alike t (op.run s').2 ∧
      ∀ other, ¬ T other → s.Spares other (op.run s).2

/-- The same on all stores. -/
abbrev Isolated (t : String) (T : String → Prop) (op : Operation τ α) : Prop :=
  op.IsolatedOn (fun _ => True) t T

theorem isolated_of_run {result : Except Failed α} (h : ∀ s, op.run s = (result, s)) :
    op.IsolatedOn P t T := by
  intro s s' hs _ _
  rw [h, h]
  exact ⟨rfl, hs, fun other _ => .refl other s⟩

theorem isolated_pure (a : α) : (pure a : Operation τ α).IsolatedOn P t T :=
  isolated_of_run fun _ => rfl

theorem isolated_throw (failure : Failed) : (throw failure : Operation τ α).IsolatedOn P t T :=
  isolated_of_run fun _ => rfl

theorem isolated_found (a : Option α) (failure : Failed) :
    (found a failure : Operation τ α).IsolatedOn P t T := by
  cases a with
  | some a => exact isolated_pure a
  | none => exact isolated_throw failure

theorem isolated_of (result : Except Failed α) : (of result : Operation τ α).IsolatedOn P t T := by
  cases result with
  | ok a => exact isolated_pure a
  | error failure => exact isolated_throw failure

theorem isolated_lifted {ε : Type} (cause : ε → Failed) (result : Except ε α) :
    (lifted cause result : Operation τ α).IsolatedOn P t T := by
  cases result with
  | ok a => exact isolated_pure a
  | error e => exact isolated_throw (cause e)

theorem IsolatedOn.mono {Q : Store τ → Prop} (h : op.IsolatedOn P t T) (hP : ∀ s, Q s → P s) :
    op.IsolatedOn Q t T :=
  fun s s' hs hq hq' => h s s' hs (hP s hq) (hP s' hq')

/-- What follows an operation may count on what holds behind it. -/
theorem IsolatedOn.bind_of {Q : α → Store τ → Prop} {f : α → Operation τ β} (h : op.IsolatedOn P t T)
    (hQ : ∀ s a s', P s → op.run s = (.ok a, s') → Q a s') (hf : ∀ a, (f a).IsolatedOn (Q a) t T) :
    (op >>= f).IsolatedOn P t T := by
  intro s s' hs hP hP'
  obtain ⟨hsame, halike, hspares⟩ := h s s' hs hP hP'
  rw [run_bind, run_bind]
  rcases hop : op.run s with ⟨failure | a, s₁⟩ <;> rcases hop' : op.run s' with ⟨failure' | a', s₁'⟩ <;>
    rw [hop, hop'] at hsame <;> cases hsame <;> rw [hop, hop'] at halike <;> rw [hop] at hspares
  · exact ⟨rfl, halike, hspares⟩
  · obtain ⟨hresult, hend, hmore⟩ :=
      hf a s₁ s₁' halike (hQ s a s₁ hP hop) (hQ s' a s₁' hP' hop')
    exact ⟨hresult, hend, fun other hother => (hspares other hother).trans (hmore other hother)⟩

/-- What follows an operation that only looks may count on what held before. -/
theorem IsolatedOn.bind_quiet {f : α → Operation τ β} (h : op.IsolatedOn P t T) (hquiet : op.Quiet)
    (hP : ∀ s outage, P s → P { s with outage }) (hf : ∀ a, (f a).IsolatedOn P t T) :
    (op >>= f).IsolatedOn P t T := by
  refine h.bind_of (Q := fun _ => P) (fun s a s' hs hrun => ?_) hf
  obtain ⟨outage, hs'⟩ := hquiet s
  rw [hrun] at hs'
  obtain rfl : s' = { s with outage } := hs'
  exact hP s outage hs

theorem Isolated.bind {f : α → Operation τ β} (h : op.Isolated t T) (hf : ∀ a, (f a).Isolated t T) :
    (op >>= f).Isolated t T :=
  IsolatedOn.bind_of h (fun _ _ _ _ _ => trivial) hf

/-- Whether a use of the store succeeds depends on what is out of order. -/
theorem use_fate (place : OutagePlace) (outage : Option Outage) :
    (∃ left, ∀ s : Store τ, s.outage = outage →
        (use place).run s = (.ok (), { s with outage := left })) ∨
      ∃ failure, ∀ s : Store τ, s.outage = outage →
        (use place : Operation τ Unit).run s = (.error failure, s) := by
  have hrun (s : Store τ) : (use place).run s = ((s.use place).1.mapError .store, (s.use place).2) :=
    rfl
  cases outage with
  | none =>
    refine .inl ⟨none, fun s hs => ?_⟩
    have hsame : ({ s with outage := none } : Store τ) = s := by rw [← hs]
    rw [hrun, Store.use, hs, hsame]
    rfl
  | some o =>
    by_cases hplace : o.place = place
    · cases hspared : o.spared with
      | zero =>
        refine .inr ⟨.store (.outage o.message), fun s hs => ?_⟩
        rw [hrun, Store.use, hs]
        simp only [hplace, hspared, ne_eq, not_true_eq_false, if_false]
        rfl
      | succ spared =>
        refine .inl ⟨some { o with spared }, fun s hs => ?_⟩
        rw [hrun, Store.use, hs]
        simp only [hplace, hspared, ne_eq, not_true_eq_false, if_false]
        rfl
    · refine .inl ⟨some o, fun s hs => ?_⟩
      have hsame : ({ s with outage := some o } : Store τ) = s := by rw [← hs]
      rw [hrun, Store.use, hs, hsame]
      simp only [hplace, ne_eq, not_false_eq_true, if_true]
      rfl

theorem isolated_use (place : OutagePlace) : (use place : Operation τ Unit).IsolatedOn P t T := by
  intro s s' hs _ _
  rcases use_fate (τ := τ) place s.outage with ⟨left, hrun⟩ | ⟨failure, hrun⟩ <;>
    rw [hrun s rfl, hrun s' hs.outage.symm]
  · exact ⟨rfl, hs.used left, fun _ _ => ⟨rfl, rfl⟩⟩
  · exact ⟨rfl, hs, fun other _ => .refl other s⟩

theorem isolated_use_bind {place : OutagePlace} (hP : ∀ s outage, P s → P { s with outage })
    (h : op.IsolatedOn P t T) : (use place >>= fun _ => op).IsolatedOn P t T := by
  refine (isolated_use place).bind_of (Q := fun _ => P) (fun s a s' hs hrun => ?_) fun _ => h
  rcases use_cases place s with ⟨outage, huse⟩ | ⟨message, huse⟩ <;> rw [huse] at hrun <;>
    cases hrun
  exact hP s outage hs

/-- What is done may depend on the store. -/
theorem isolated_get {f : Store τ → Operation τ α}
    (h : ∀ s s', s.Alike t s' → P s → P s' →
      ((f s).run s).1 = ((f s').run s').1 ∧ ((f s).run s).2.Alike t ((f s').run s').2 ∧
        ∀ other, ¬ T other → s.Spares other ((f s).run s).2) : (get >>= f).IsolatedOn P t T := h

/-- What is asked for is known to the tenant. -/
theorem isolated_query {f : Store τ → α} (hP : ∀ s outage, P s → P { s with outage })
    (hf : ∀ s s', s.Alike t s' → P s → P s' → f s = f s') : (query f).IsolatedOn P t T := by
  refine isolated_use_bind hP (isolated_get fun s s' hs hPs hPs' => ?_)
  rw [hf s s' hs hPs hPs']
  exact ⟨rfl, hs, fun other _ => .refl other s⟩

theorem isolated_freshId : (freshId : Operation τ String).IsolatedOn P t T := by
  intro s s' hs _ _
  have hrun (s : Store τ) : (freshId : Operation τ String).run s
      = (.ok (idOf (s.given + 1)), { s with given := s.given + 1 }) := rfl
  rw [hrun, hrun, hs.given]
  exact ⟨rfl, ⟨hs.workflows, hs.templates, hs.runs, rfl, hs.outage⟩, fun _ _ => ⟨rfl, rfl⟩⟩

/-- A change of the tenant's is made alike in stores that are alike, or refused alike. -/
theorem isolated_commit {g : Store τ → Except StoreFault (Store τ)}
    (hP : ∀ s outage, P s → P { s with outage })
    (hg : ∀ s s', s.Alike t s' → P s → P s' →
      (∃ fault, g s = .error fault ∧ g s' = .error fault) ∨
      ∃ s₁ s₁', g s = .ok s₁ ∧ g s' = .ok s₁' ∧ s₁.Alike t s₁' ∧
        ∀ other, ¬ T other → s.Spares other s₁) : (commit g).IsolatedOn P t T := by
  refine isolated_use_bind hP (isolated_get fun s s' hs hPs hPs' => ?_)
  rcases hg s s' hs hPs hPs' with ⟨fault, hfault, hfault'⟩ | ⟨s₁, s₁', hs₁, hs₁', halike, hspares⟩
  · rw [hfault, hfault']
    exact ⟨rfl, hs, fun other _ => .refl other s⟩
  · rw [hs₁, hs₁']
    exact ⟨rfl, halike, hspares⟩

/-- What was changed is changed behind the commit. -/
theorem commit_ok {g : Store τ → Except StoreFault (Store τ)} {s s' : Store τ} {a : Unit}
    (h : (commit g).run s = (.ok a, s')) : ∃ outage, g { s with outage } = .ok s' := by
  rcases commit_cases g s with ⟨outage, s₁, hs₁, hrun⟩ | ⟨_, _, -, hrun⟩ | ⟨_, hrun⟩ <;>
    rw [hrun] at h <;> cases h
  exact ⟨outage, hs₁⟩

end Operation

namespace Workflows

open Operation

variable {α : Type} {t id user : String} {now : Time.Stamp} {T : String → Prop}

theorem isolated_judge {P : Store τ → Prop} (d : Definition) :
    (judge d : Operation τ Unit).IsolatedOn P t T := by
  rcases judge_cases (τ := τ) d with ⟨-, hjudged⟩ | ⟨failure, hjudged⟩ <;> rw [hjudged]
  · exact isolated_pure ()
  · exact isolated_throw failure

theorem isolated_definitionOf {P : Store τ → Prop} (row : WorkflowRow τ) :
    (definitionOf row).IsolatedOn P t T := isolated_lifted _ _

/-- A row that has to belong to a tenant is found alike, or refused alike. -/
theorem isolated_checked {ρ : Type} {find : Store τ → Option ρ} {tenant : ρ → String}
    {missing foreign : Failed}
    (h : ∀ s s' : Store τ, s.Alike t s' →
      (∃ r, tenant r = t ∧ find s = some r ∧ find s' = some r) ∨
      (∃ r r', tenant r ≠ t ∧ tenant r' = tenant r ∧ find s = some r ∧ find s' = some r') ∨
      find s = none ∧ find s' = none) :
    (do
      let row ← found (← query find) missing
      if tenant row = t then return row else throw foreign : Operation τ ρ).Isolated t T := by
  unfold query
  simp only [bind_assoc, pure_bind]
  refine isolated_use_bind (fun _ _ h => h) (isolated_get fun s s' hs _ _ => ?_)
  have hrow (s : Store τ) (r : ρ) : (do
      let row ← found (some r) missing
      if tenant row = t then pure row else throw foreign : Operation τ ρ).run s
      = (if tenant r = t then .ok r else .error foreign, s) := by
    change (if tenant r = t then pure r else throw foreign : Operation τ ρ).run s = _
    split <;> rfl
  rcases h s s' hs with ⟨r, hown, hr, hr'⟩ | ⟨r, r', hother, hsame, hr, hr'⟩ | ⟨hnone, hnone'⟩
  · rw [hr, hr', hrow, hrow]
    exact ⟨rfl, hs, fun other _ => .refl other s⟩
  · rw [hr, hr', hrow, hrow, hsame, if_neg hother, if_neg hother]
    exact ⟨rfl, hs, fun other _ => .refl other s⟩
  · rw [hnone, hnone']
    exact ⟨rfl, hs, fun other _ => .refl other s⟩

theorem isolated_owned (id : String) : (owned id t : Operation τ _).Isolated t T :=
  isolated_checked fun _ _ h => h.workflows.find id

/-- What is done with a workflow of a tenant may count on whose it is. -/
theorem isolated_owned_bind {f : WorkflowRow τ → Operation τ α}
    (h : ∀ row, (f row).IsolatedOn (·.Owns t id) t T) : (owned id t >>= f).Isolated t T := by
  refine (isolated_owned id).bind_of (Q := fun _ => (·.Owns t id)) (fun s a s' _ hrun => ?_) h
  rcases owned_cases id t s with ⟨row, outage, hfound, hrow, htenant⟩ | ⟨failure, outage, hfound⟩ <;>
    rw [hfound] at hrun <;> cases hrun
  exact ⟨a, hrow, htenant⟩

/-- A tenant sees its own workflows in full. -/
theorem isolated_viewed : (viewed id : Operation τ _).IsolatedOn (·.Owns t id) t T := by
  refine isolated_get fun s s' hs hrow _ => ?_
  obtain ⟨row, hrow, htenant⟩ := hrow
  rw [hrow, hs.workflow? hrow htenant]
  exact isolated_of (P := fun _ => True) row.view s s' hs trivial trivial

/-- A workflow of a tenant is changed, unless the change is refused. -/
theorem isolated_change {g : Store τ → Except StoreFault (Store τ)}
    (hg : (∃ fault, ∀ s, g s = .error fault) ∨
      ∃ f, (∀ s, g s = .ok (s.changeWorkflow id f)) ∧ WorkflowRow.StaysWith f) :
    (do commit g; viewed id : Operation τ _).IsolatedOn (·.Owns t id) t (· = t) := by
  refine (isolated_commit (fun _ _ h => h) fun s s' hs hrow _ => ?_).bind_of
    (Q := fun _ => (·.Owns t id)) (fun s a s' hrow hrun => ?_) fun _ => isolated_viewed
  · rcases hg with ⟨fault, hfault⟩ | ⟨f, hchange, hf⟩
    · exact .inl ⟨fault, hfault s, hfault s'⟩
    · refine .inr ⟨_, _, hchange s, hchange s', hs.changeWorkflow hf, fun other hother => ?_⟩
      exact .changeWorkflow (hrow.tenantId hs.workflows.ids hother) hf.tenantId
  · obtain ⟨outage, hmade⟩ := commit_ok hrun
    rcases hg with ⟨fault, hfault⟩ | ⟨f, hchange, hf⟩
    · cases (hfault _).symm.trans hmade
    · obtain rfl := Except.ok.inj ((hchange _).symm.trans hmade)
      exact Store.Owns.changeWorkflow (s := { s with outage }) hrow hf

theorem isolated_create (w : NewWorkflow) :
    (create w t user now : Operation τ _).Isolated t (· = t) := by
  refine Isolated.bind (isolated_judge _) fun _ => Isolated.bind isolated_freshId fun id => ?_
  refine (isolated_commit (fun _ _ h => h) fun s s' hs _ _ => ?_).bind_of
    (Q := fun _ => (·.Owns t id)) (fun s a s' _ hrun => ?_) fun _ => isolated_viewed
  · have hsame : (s.workflow? id).isSome = (s'.workflow? id).isSome := hs.workflows.taken id
    rw [← hsame]
    split
    · exact .inl ⟨_, rfl, rfl⟩
    · rename_i hnone
      refine .inr ⟨_, _, rfl, rfl, hs.insertWorkflow ?_, fun other hother => ?_⟩
      · exact Option.not_isSome_iff_eq_none.mp hnone
      · exact .insertWorkflow (Ne.symm hother)
  · obtain ⟨outage, hmade⟩ := commit_ok hrun
    split at hmade
    · cases hmade
    · rename_i hnone
      obtain rfl := Except.ok.inj hmade
      exact ⟨_, Store.workflow?_insert (Option.not_isSome_iff_eq_none.mp hnone), rfl⟩

theorem isolated_fetch (id : String) : (fetch id t : Operation τ _).Isolated t T :=
  (isolated_owned id).bind fun _ => isolated_of _

theorem isolated_definition (id : String) : (definition id t : Operation τ _).Isolated t T :=
  (isolated_owned id).bind isolated_definitionOf

theorem isolated_record (id : String) : (record id t : Operation τ _).Isolated t T :=
  (isolated_owned id).bind fun _ => isolated_pure _

/-- What is picked from the rows of a tenant is the same in tables that are alike for it. -/
theorem pick_own {ρ : Type} {id tenant : ρ → String} {rows rows' : List ρ} {p q : ρ → Bool}
    (h : RowsAlike id tenant t rows rows') (hp : ∀ r, p r = (q r && tenant r = t)) :
    rows.filter p = rows'.filter p := by
  obtain rfl : p = fun r => q r && decide (tenant r = t) := funext hp
  rw [← List.filter_filter, ← List.filter_filter, h.own]

theorem isolated_list (page size : Int) (filter : WorkflowFilter) :
    (list t page size filter : Operation τ _).Isolated t T := by
  refine Isolated.bind (isolated_query (fun _ _ h => h) fun s s' hs _ _ => ?_) fun rows =>
    Isolated.bind (isolated_lifted _ _) fun members =>
    Isolated.bind (isolated_of _) fun summaries => isolated_pure _
  refine pick_own (q := fun r => !r.isTemplate && filter.passes r) hs.workflows fun r => ?_
  by_cases htenant : r.tenantId = t <;> simp [htenant]

theorem isolated_update (changes : WorkflowChanges) :
    (update id changes t user now : Operation τ _).Isolated t (· = t) := by
  refine isolated_owned_bind fun row => ?_
  refine (isolated_definitionOf row).bind_quiet (definitionOf_quiet row) (fun _ _ h => h) fun d => ?_
  refine (isolated_judge _).bind_quiet (judge_quiet _) (fun _ _ h => h) fun _ => ?_
  refine isolated_change ?_
  rcases hversion : stored (nextVersion row.version) with fault | version
  · exact .inl ⟨fault, fun s => rfl⟩
  · exact .inr ⟨_, fun s => rfl, ⟨fun _ => rfl, fun _ => rfl, fun _ => rfl⟩⟩

theorem isolated_delete : (delete id t : Operation τ _).Isolated t (· = t) := by
  refine isolated_owned_bind fun row => ?_
  refine isolated_commit (fun _ _ h => h) fun s s' hs hrow _ => ?_
  refine .inr ⟨_, _, rfl, rfl, hs.removeWorkflow, fun other hother => ?_⟩
  exact .removeWorkflow (hrow.tenantId hs.workflows.ids hother)

theorem isolated_setEnabled (enabled : Bool) :
    (setEnabled id t enabled now : Operation τ _).Isolated t (· = t) := by
  refine isolated_owned_bind fun row => ?_
  have hset : ((do
      commit fun s => .ok <| s.changeWorkflow id fun r =>
        { r with enabled, updatedAt := some now.naiveUtc }
      viewed id) : Operation τ _).IsolatedOn (·.Owns t id) t (· = t) :=
    isolated_change (.inr ⟨_, fun s => rfl, ⟨fun _ => rfl, fun _ => rfl, fun _ => rfl⟩⟩)
  cases enabled with
  | false => exact hset
  | true =>
    exact (isolated_definitionOf row).bind_quiet (definitionOf_quiet row) (fun _ _ h => h) fun d =>
      (isolated_judge d).bind_quiet (judge_quiet d) (fun _ _ h => h) fun _ => hset

/-- All tenants see the templates. -/
theorem isolated_instantiate (templateId : String) (u : TemplateUse) :
    (instantiate templateId u t user now : Operation τ _).Isolated t (· = t) := by
  refine Isolated.bind (isolated_query (fun _ _ h => h) fun s s' hs _ _ => ?_) fun template? => ?_
  · have hpick (s : Store τ) : s.workflows.find? (fun r => decide (r.id = templateId) && r.isTemplate)
        = (s.workflows.filter (·.isTemplate)).find? (·.id = templateId) := by
      rw [List.find?_filter]
      refine congrArg (s.workflows.find? ·) (funext fun r => ?_)
      rw [Bool.and_comm, Bool.decide_and, Bool.decide_coe, Bool.decide_coe]
    rw [hpick, hpick, hs.templates]
  · refine Isolated.bind (isolated_found _ _) fun template =>
      Isolated.bind (isolated_definitionOf template) fun d => ?_
    refine (isolated_create _).bind_of (Q := fun made => (·.Owns t made.id))
      (fun s a s' _ hrun => create_owns hrun) fun made => ?_
    refine (isolated_query (fun _ _ h => h) fun s s' hs hrow _ => ?_).bind_quiet (query_quiet _)
      (fun _ _ h => h) fun _ => ?_
    · obtain ⟨row, hrow, htenant⟩ := hrow
      rw [hrow, hs.workflow? hrow htenant]
    · exact isolated_change (.inr ⟨_, fun s => rfl, ⟨fun _ => rfl, fun _ => rfl, fun _ => rfl⟩⟩)

/-- The enabled workflows of a tenant. Without a tenant they would be those of all. -/
theorem isolated_enabledDefinitions (ht : t ≠ "") (kind : String) :
    (enabledDefinitions t kind : Operation τ _).Isolated t T := by
  refine isolated_query (fun _ _ h => h) fun s s' hs _ _ => ?_
  have hempty : t.isEmpty = false := by simpa [Bool.eq_false_iff, String.isEmpty_iff] using ht
  refine congrArg (List.filterMap _) (pick_own
    (q := fun r => r.enabled && !r.isTemplate && wanted kind r.triggerKind) hs.workflows fun r => ?_)
  by_cases htenant : r.tenantId = t <;> simp [wanted, hempty, htenant]

end Workflows

namespace Runs

open Operation

variable {t : String} {T : String → Prop}

theorem isolated_owned (runId : String) : (owned runId t : Operation τ _).Isolated t T :=
  Workflows.isolated_checked fun _ _ h => h.runs.find runId

theorem isolated_fetch (runId : String) : (fetch runId t : Operation τ _).Isolated t T :=
  (isolated_owned runId).bind fun _ => isolated_of _

theorem isolated_list (workflowId : String) (page size : Int) (status : String) :
    (list workflowId t page size status : Operation τ _).Isolated t T := by
  refine (Workflows.isolated_owned workflowId).bind fun _ =>
    Isolated.bind (isolated_query (fun _ _ h => h) fun s s' hs _ _ => ?_) fun rows =>
    Isolated.bind (isolated_lifted _ _) fun members =>
    Isolated.bind (isolated_of _) fun views => isolated_pure _
  refine Workflows.pick_own (q := fun r => r.workflowId == workflowId && wanted status r.status)
    hs.runs fun r => ?_
  by_cases htenant : r.tenantId = t <;> simp [htenant]

/-! ### Runs that start and end -/

/-- The row of a run is its tenant's. -/
theorem rowFor_tenantId {d : Definition} {event : Event} {id : String} {isTest : Bool}
    {now : Time.Stamp} {row : RunRow} (h : rowFor d event id isTest now = .ok row) :
    d.tenantId = some row.tenantId := by
  unfold rowFor at h
  split at h <;> cases h
  assumption

variable {P : Store τ → Prop} {d : Definition} {event : Event} {isTest : Bool} {now : Time.Stamp}

theorem isolated_current (id : String) : (do let _ ← current id : Operation τ Unit).IsolatedOn P t T := by
  unfold current
  rw [bind_assoc]
  refine isolated_get fun s s' hs _ _ => ?_
  have htaken : (s.run? id).isSome = (s'.run? id).isSome := hs.runs.taken id
  rcases hr : s.run? id with _ | r <;> rcases hr' : s'.run? id with _ | r' <;> rw [hr, hr'] at htaken
  · exact ⟨rfl, hs, fun other _ => .refl other s⟩
  · cases htaken
  · cases htaken
  · exact ⟨rfl, hs, fun other _ => .refl other s⟩

/-- A run starts alike for all tenants, and it becomes a row of its own tenant's. -/
theorem isolated_start {id : String} (hT : ∀ tenant ∈ d.tenantId, T tenant) :
    (do let _ ← start d event id isTest now : Operation τ Unit).Isolated t T := by
  unfold start
  rw [bind_assoc]
  refine Isolated.bind (isolated_commit (fun _ _ h => h) fun s s' hs _ _ => ?_)
    fun _ => isolated_current id
  have htaken : (s.run? id).isSome = (s'.run? id).isSome := hs.runs.taken id
  rw [← htaken]
  cases hrow : rowFor d event id isTest now with
  | error fault => exact .inl ⟨fault, rfl, rfl⟩
  | ok row =>
    obtain rfl := rowFor_id hrow
    cases hfound : s.run? row.id with
    | some _ => exact .inl ⟨.integrity, rfl, rfl⟩
    | none =>
      refine .inr ⟨_, _, rfl, rfl, hs.insertRun hfound, fun other hother => ?_⟩
      exact .insertRun fun hsame => hother (hsame ▸ hT _ (rowFor_tenantId hrow))

/-- A run that starts is put into the store as a row of its tenant's. -/
theorem start_spares {tenant other : String} (hd : d.tenantId = some tenant) (event : Event)
    (id : String) (isTest : Bool) (now : Time.Stamp) (s : Store τ) (hother : other ≠ tenant) :
    s.Spares other ((start d event id isTest now).run s).2 := by
  rcases start_cases d event id isTest now s with ⟨row, outage, hrow, -, hrun⟩ |
    ⟨fault, outage, hrun, -⟩ <;> rw [hrun]
  · have htenant : row.tenantId = tenant := Option.some.inj ((rowFor_tenantId hrow).symm.trans hd)
    have hinserts : s.Spares other (s.insertRun row) := .insertRun (htenant ▸ Ne.symm hother)
    exact ⟨hinserts.workflows, hinserts.runs⟩
  · exact ⟨rfl, rfl⟩

variable [ActiveTime τ] [RunningMean τ] {result : RunResult τ}

/-- The rows that the outcome of a run is written to are those of some tenants. -/
structure Concerns (T : String → Prop) (d : Definition) (runId : String) (s : Store τ) : Prop where
  tenant : ∀ tenant ∈ d.tenantId, T tenant
  run : ∀ r ∈ s.runs, r.id = runId → T r.tenantId
  workflow : ∀ r ∈ s.workflows, d.id = some r.id → T r.tenantId

omit [RunningMean τ] in
/-- The outcome of a run is written alike for all tenants, or refused alike. -/
theorem saved_alike {s s' : Store τ} (hs : s.Alike t s') (hT : Concerns T d result.runId s) :
    (∃ fault, saved s d event result isTest now = .error fault ∧
      saved s' d event result isTest now = .error fault) ∨
    ∃ s₁ s₁', saved s d event result isTest now = .ok s₁ ∧
      saved s' d event result isTest now = .ok s₁' ∧ s₁.Alike t s₁' ∧
      s₁.workflows = s.workflows ∧ ∀ other, ¬ T other → s.Spares other s₁ := by
  unfold saved
  cases stored result.durationMs with
  | error fault => exact .inl ⟨fault, rfl, rfl⟩
  | ok _ =>
    have htaken : (s.run? result.runId).isSome = (s'.run? result.runId).isSome :=
      hs.runs.taken result.runId
    rcases hr : s.run? result.runId with _ | r <;> rcases hr' : s'.run? result.runId with _ | r' <;>
      rw [hr, hr'] at htaken
    · cases hrow : rowFor d event result.runId isTest result.startedAt with
      | error fault => exact .inl ⟨fault, rfl, rfl⟩
      | ok row =>
        have hid : row.id = result.runId := rowFor_id hrow
        have hnew : s.run? (outcome row result now).id = none := (congrArg s.run? hid).trans hr
        refine .inr ⟨_, _, rfl, rfl, hs.insertRun hnew, rfl, fun other hother => ?_⟩
        exact .insertRun fun (hsame : row.tenantId = other) =>
          hother (hsame ▸ hT.tenant _ (rowFor_tenantId hrow))
    · cases htaken
    · cases htaken
    · refine .inr ⟨_, _, rfl, rfl, hs.changeRun (fun _ => rfl) fun _ => rfl, rfl,
        fun other hother => ?_⟩
      exact .changeRun (fun x hx hid hsame => hother (hsame ▸ hT.run x hx hid)) fun _ => rfl

omit [ActiveTime τ] in
/-- So is the record of its workflow. -/
theorem counted_stays (result : RunResult τ) (now : Time.Stamp) :
    WorkflowRow.StaysWith fun r : WorkflowRow τ =>
      if result.status = .suspended then r.markRunning now else r.count result now := by
  constructor <;> intro r <;> split <;> rfl

theorem isolated_record : (do let _ ← record d event result isTest now : Operation τ Unit).IsolatedOn
    (Concerns T d result.runId) t T := by
  unfold record
  dsimp only
  split
  · exact isolated_throw _
  rw [bind_assoc]
  refine (isolated_commit (fun _ _ h => ⟨h.tenant, h.run, h.workflow⟩)
    fun s s' hs hT _ => ?_).bind_of (Q := fun _ _ => True) (fun _ _ _ _ _ => trivial)
      fun _ => isolated_current _
  rcases saved_alike hs hT with ⟨fault, hs₁, hs₁'⟩ |
    ⟨s₁, s₁', hs₁, hs₁', halike, hworkflows, hspares⟩ <;> rw [hs₁, hs₁']
  · exact .inl ⟨fault, rfl, rfl⟩
  · cases hcounts : countsFor d isTest with
    | none => exact .inr ⟨_, _, rfl, rfl, halike, hspares⟩
    | some id =>
      have hid : d.id = some id := by
        unfold countsFor at hcounts
        split at hcounts
        · cases hcounts
        · exact (Option.filter_eq_some_iff.mp hcounts).1
      refine .inr ⟨_, _, rfl, rfl, halike.changeWorkflow (counted_stays result now),
        fun other hother => (hspares other hother).trans (.changeWorkflow (fun r hr hsame => ?_)
          (counted_stays result now).tenantId)⟩
      exact fun htenant => hother (htenant ▸ hT.workflow r (hworkflows ▸ hr) (hsame ▸ hid))

end Runs

/-! ## All that tenants ask for -/

namespace Operation

/-- What a tenant can ask for. -/
inductive Asked (t : String) : (α : Type) → Operation τ α → Prop where
  | create (w : NewWorkflow) (user : String) (now : Time.Stamp) :
      Asked t _ (Workflows.create w t user now)
  | fetch (id : String) : Asked t _ (Workflows.fetch id t)
  | definition (id : String) : Asked t _ (Workflows.definition id t)
  | update (id : String) (changes : WorkflowChanges) (user : String) (now : Time.Stamp) :
      Asked t _ (Workflows.update id changes t user now)
  | delete (id : String) : Asked t _ (Workflows.delete id t)
  | setEnabled (id : String) (enabled : Bool) (now : Time.Stamp) :
      Asked t _ (Workflows.setEnabled id t enabled now)
  | list (page size : Int) (filter : WorkflowFilter) : Asked t _ (Workflows.list t page size filter)
  | record (id : String) : Asked t _ (Workflows.record id t)
  | runs (workflowId : String) (page size : Int) (status : String) :
      Asked t _ (Runs.list workflowId t page size status)
  | run (id : String) : Asked t _ (Runs.fetch id t)
  | instantiate (templateId : String) (u : TemplateUse) (user : String) (now : Time.Stamp) :
      Asked t _ (Workflows.instantiate templateId u t user now)

/-- Whatever a tenant asks for. -/
theorem Asked.isolated {t : String} {α : Type} {op : Operation τ α} (h : Asked t α op) :
    op.Isolated t (· = t) := by
  cases h with
  | create w user now => exact Workflows.isolated_create w
  | fetch id => exact Workflows.isolated_fetch id
  | definition id => exact Workflows.isolated_definition id
  | update id changes user now => exact Workflows.isolated_update changes
  | delete id => exact Workflows.isolated_delete
  | setEnabled id enabled now => exact Workflows.isolated_setEnabled enabled
  | list page size filter => exact Workflows.isolated_list page size filter
  | record id => exact Workflows.isolated_record id
  | runs workflowId page size status => exact Runs.isolated_list workflowId page size status
  | run id => exact Runs.isolated_fetch id
  | instantiate templateId u user now => exact Workflows.isolated_instantiate templateId u

end Operation

end Automation
