import Automation.Proofs.Server.Live
import Automation.Proofs.Store.Row
import Automation.Store.Runs
import Mathlib.Logic.Relation

/-!
# What operations do to the store

A store that is out of order fails an operation before anything is changed, so an operation either
does what it is for or leaves all rows as they are. `Store.Edit` says all that the operations of a
tenant can do to the workflows; runs are inserted when they start and get their outcome when they
are recorded.
-/

namespace Automation

variable {τ : Type}

/-! ## Edits -/

namespace WorkflowRow

/-- A change to a row that leaves alone whose it is, the record of its runs, and whether it can be
run. -/
structure Revises (f : WorkflowRow τ → WorkflowRow τ) : Prop where
  id : ∀ r, (f r).id = r.id
  tenantId : ∀ r, (f r).tenantId = r.tenantId
  record : ∀ r, (f r).record = r.record
  runnable : ∀ r, r.Runnable → (f r).Runnable

end WorkflowRow

namespace Store

/-- One change of a tenant to the stored workflows. Whatever else happens, the store may have been
used and ids may have been given. -/
inductive Edit (tenant : String) (s : Store τ) : Store τ → Prop where
  | idle (given : Nat) (outage : Option Outage) (h : s.given ≤ given) :
      Edit tenant s { s with given, outage }
  | insert (r : WorkflowRow τ) (outage : Option Outage) (hid : r.id = idOf (s.given + 1))
      (hnew : s.workflow? r.id = none) (htenant : r.tenantId = tenant) (hrecord : r.record = {})
      (hrunnable : r.Runnable) :
      Edit tenant s { s.insertWorkflow r with given := s.given + 1, outage }
  | change (r : WorkflowRow τ) (f : WorkflowRow τ → WorkflowRow τ) (outage : Option Outage)
      (hrow : s.workflow? r.id = some r) (htenant : r.tenantId = tenant)
      (hf : WorkflowRow.Revises f) : Edit tenant s { s.changeWorkflow r.id f with outage }
  | remove (r : WorkflowRow τ) (outage : Option Outage) (hrow : s.workflow? r.id = some r)
      (htenant : r.tenantId = tenant) : Edit tenant s { s.removeWorkflow r.id with outage }

/-- Any number of changes of a tenant to the stored workflows. -/
def Edits (tenant : String) : Store τ → Store τ → Prop := Relation.ReflTransGen (Edit tenant)

/-- The runs stay as they are. -/
theorem Edits.runs {tenant : String} {s s' : Store τ} (h : Edits tenant s s') : s'.runs = s.runs := by
  induction h with
  | refl => rfl
  | tail _ he ih => cases he <;> exact ih

/-- All workflows can still be run. -/
theorem Edits.runnable {tenant : String} {s s' : Store τ} (h : Edits tenant s s')
    (hs : ∀ r ∈ s.workflows, r.Runnable) : ∀ r ∈ s'.workflows, r.Runnable := by
  induction h with
  | refl => exact hs
  | tail _ he ih =>
    intro r' hr'
    cases he with
    | idle given outage h => exact ih r' hr'
    | insert r outage hid hnew htenant hrecord hrunnable =>
      rcases List.mem_append.mp hr' with hr' | hr'
      · exact ih r' hr'
      · exact List.mem_singleton.mp hr' ▸ hrunnable
    | change r f outage hrow htenant hf =>
      obtain ⟨old, hold, rfl⟩ := List.mem_map.mp hr'
      split
      · exact hf.runnable old (ih old hold)
      · exact ih old hold
    | remove r outage hrow htenant => exact ih r' (List.mem_of_mem_filter hr')

/-- A workflow is stored, and it is the tenant's. -/
def Owns (s : Store τ) (tenant id : String) : Prop :=
  ∃ row, s.workflow? id = some row ∧ row.tenantId = tenant

theorem workflow?_id {s : Store τ} {id : String} {r : WorkflowRow τ} (h : s.workflow? id = some r) :
    r.id = id := by
  simpa using List.find?_some h

theorem run?_id {s : Store τ} {id : String} {r : RunRow} (h : s.run? id = some r) : r.id = id := by
  simpa using List.find?_some h

/-- A row that is inserted under a new id is found. -/
theorem workflow?_insert {s : Store τ} {r : WorkflowRow τ} (h : s.workflow? r.id = none) :
    (s.insertWorkflow r).workflow? r.id = some r := by
  unfold workflow? at h
  simp [workflow?, insertWorkflow, List.find?_append, h]

theorem run?_insert {s : Store τ} {r : RunRow} (h : s.run? r.id = none) :
    (s.insertRun r).run? r.id = some r := by
  unfold run? at h
  simp [run?, insertRun, List.find?_append, h]

/-- The other rows are found as before. -/
theorem run?_insert_other {s : Store τ} {r : RunRow} {id : String} (h : id ≠ r.id) :
    (s.insertRun r).run? id = s.run? id := by
  simp [run?, insertRun, List.find?_append, Ne.symm h]

theorem run?_change_other {s : Store τ} {id other : String} {f : RunRow → RunRow}
    (hf : ∀ r, (f r).id = r.id) (h : other ≠ id) :
    (s.changeRun id f).run? other = s.run? other := by
  unfold run? changeRun
  dsimp only
  induction s.runs with
  | nil => rfl
  | cons r runs ih =>
    rw [List.map_cons, List.find?_cons, List.find?_cons, ih]
    by_cases hr : r.id = id
    · simp [hr, hf, Ne.symm h]
    · simp [hr]

/-- A row that is changed and keeps its id is found. -/
theorem find?_change {ρ : Type} {id : ρ → String} {x : String} {f : ρ → ρ} {rows : List ρ} {r : ρ}
    (hf : ∀ r, id (f r) = id r) (h : rows.find? (id · = x) = some r) :
    (rows.map fun r => if id r = x then f r else r).find? (id · = x) = some (f r) := by
  have hsame : ((fun r => decide (id r = x)) ∘ fun r => if id r = x then f r else r)
      = fun r => decide (id r = x) := by
    funext r
    by_cases hr : id r = x <;> simp [hr, hf]
  rw [List.find?_map, hsame, h, Option.map_some, if_pos (by simpa using List.find?_some h)]

theorem run?_change {s : Store τ} {id : String} {r : RunRow} {f : RunRow → RunRow}
    (hf : ∀ r, (f r).id = r.id) (h : s.run? id = some r) :
    (s.changeRun id f).run? id = some (f r) := find?_change hf h

theorem workflow?_change {s : Store τ} {id : String} {r : WorkflowRow τ}
    {f : WorkflowRow τ → WorkflowRow τ} (hf : ∀ r, (f r).id = r.id) (h : s.workflow? id = some r) :
    (s.changeWorkflow id f).workflow? id = some (f r) := find?_change hf h

end Store

/-! ## Uses of the store -/

namespace Operation

variable {α β : Type} {op : Operation τ α} {tenant : String}

/-- A use of the store succeeds, or the store is out of order. -/
theorem use_cases (place : OutagePlace) (s : Store τ) :
    (∃ outage, (use place).run s = (.ok (), { s with outage })) ∨
      ∃ message, (use place).run s = (.error (.store (.outage message)), s) := by
  change (∃ outage, ((s.use place).1.mapError Failed.store, (s.use place).2) = _) ∨
    ∃ message, ((s.use place).1.mapError Failed.store, (s.use place).2) = _
  unfold Store.use
  split
  · exact .inl ⟨s.outage, rfl⟩
  · split
    · exact .inl ⟨s.outage, rfl⟩
    · split
      · exact .inr ⟨_, rfl⟩
      · exact .inl ⟨_, rfl⟩

/-- What the store is asked for is answered, unless it is out of order. -/
theorem query_cases (f : Store τ → α) (s : Store τ) :
    (∃ outage, (query f).run s = (.ok (f { s with outage }), { s with outage })) ∨
      ∃ message, (query f).run s = (.error (.store (.outage message)), s) := by
  unfold query
  rw [run_bind]
  rcases use_cases .query s with ⟨outage, huse⟩ | ⟨message, huse⟩ <;> rw [huse]
  · exact .inl ⟨outage, rfl⟩
  · exact .inr ⟨message, rfl⟩

/-- A change is made, or it is refused, or the store is out of order. -/
theorem commit_cases (f : Store τ → Except StoreFault (Store τ)) (s : Store τ) :
    (∃ outage s', f { s with outage } = .ok s' ∧ (commit f).run s = (.ok (), s')) ∨
      (∃ outage fault, f { s with outage } = .error fault ∧
        (commit f).run s = (.error (.store fault), { s with outage })) ∨
      ∃ message, (commit f).run s = (.error (.store (.outage message)), s) := by
  unfold commit
  rw [run_bind]
  rcases use_cases .commit s with ⟨outage, huse⟩ | ⟨message, huse⟩ <;> rw [huse]
  · have hget : (get : Operation τ (Store τ)).run { s with outage }
        = (.ok { s with outage }, { s with outage }) := rfl
    dsimp only
    rw [run_bind, hget]
    cases hf : f { s with outage } with
    | ok s' => exact .inl ⟨outage, s', hf, by dsimp only; rw [hf]; rfl⟩
    | error fault => exact .inr (.inl ⟨outage, fault, hf, by dsimp only; rw [hf]; rfl⟩)
  · exact .inr (.inr ⟨message, rfl⟩)

/-- What follows a change is done if the change is made. -/
theorem commit_bind_cases (g : Store τ → Except StoreFault (Store τ)) (next : Operation τ α)
    (s : Store τ) :
    (∃ outage s', g { s with outage } = .ok s' ∧ (commit g >>= fun _ => next).run s = next.run s') ∨
      (∃ outage fault, g { s with outage } = .error fault ∧
        (commit g >>= fun _ => next).run s = (.error (.store fault), { s with outage })) ∨
      ∃ message, (commit g >>= fun _ => next).run s = (.error (.store (.outage message)), s) := by
  rw [run_bind]
  rcases commit_cases g s with ⟨outage, s', hg, hrun⟩ | ⟨outage, fault, hg, hrun⟩ | ⟨message, hrun⟩ <;>
    rw [hrun]
  · exact .inl ⟨outage, s', hg, rfl⟩
  · exact .inr (.inl ⟨outage, fault, hg, rfl⟩)
  · exact .inr (.inr ⟨message, rfl⟩)

/-- What holds of a store whether or not something is written to it. -/
theorem commit_bind_keeps {P : Store τ → Prop} {g : Store τ → Except StoreFault (Store τ)}
    {next : Operation τ α} {s : Store τ} (hidle : ∀ outage, P { s with outage })
    (hwrite : ∀ outage s', g { s with outage } = .ok s' → P (next.run s').2) :
    P ((commit g >>= fun _ => next).run s).2 := by
  rcases commit_bind_cases g next s with ⟨outage, s', hs', hrun⟩ | ⟨outage, fault, -, hrun⟩ |
    ⟨message, hrun⟩ <;> rw [hrun]
  · exact hwrite outage s' hs'
  · exact hidle outage
  · exact hidle s.outage

/-! ## Operations that only look -/

/-- An operation that changes nothing. -/
def Quiet (op : Operation τ α) : Prop := ∀ s, ∃ outage, (op.run s).2 = { s with outage }

theorem quiet_pure (a : α) : (pure a : Operation τ α).Quiet := fun s => ⟨s.outage, rfl⟩

theorem quiet_throw (failure : Failed) : (throw failure : Operation τ α).Quiet :=
  fun s => ⟨s.outage, rfl⟩

theorem quiet_get : (get : Operation τ (Store τ)).Quiet := fun s => ⟨s.outage, rfl⟩

theorem Quiet.bind {f : α → Operation τ β} (h : op.Quiet) (hf : ∀ a, (f a).Quiet) :
    (op >>= f).Quiet := by
  intro s
  obtain ⟨outage, hfirst⟩ := h s
  rw [run_bind]
  rcases hop : op.run s with ⟨failure | a, s'⟩ <;> rw [hop] at hfirst <;> obtain rfl := hfirst
  · exact ⟨outage, rfl⟩
  · obtain ⟨outage', hrest⟩ := hf a { s with outage }
    exact ⟨outage', hrest⟩

theorem query_quiet (f : Store τ → α) : (query f).Quiet := by
  intro s
  rcases query_cases f s with ⟨outage, hrun⟩ | ⟨message, hrun⟩ <;> rw [hrun]
  · exact ⟨outage, rfl⟩
  · exact ⟨s.outage, rfl⟩

theorem found_quiet (a : Option α) (failure : Failed) : (found a failure : Operation τ α).Quiet := by
  cases a with
  | some a => exact quiet_pure a
  | none => exact quiet_throw failure

theorem of_quiet (result : Except Failed α) : (of result : Operation τ α).Quiet := by
  cases result with
  | ok a => exact quiet_pure a
  | error failure => exact quiet_throw failure

theorem lifted_quiet {ε : Type} (cause : ε → Failed) (result : Except ε α) :
    (lifted cause result : Operation τ α).Quiet := by
  cases result with
  | ok a => exact quiet_pure a
  | error e => exact quiet_throw (cause e)

/-! ## Operations that edit -/

/-- An operation that changes the stored workflows for a tenant, and no runs, on stores of which
something holds. -/
def EditsOn (P : Store τ → Prop) (tenant : String) (op : Operation τ α) : Prop :=
  ∀ s, P s → Store.Edits tenant s (op.run s).2

/-- An operation that changes the stored workflows for a tenant, and no runs. -/
abbrev Edits (tenant : String) (op : Operation τ α) : Prop := op.EditsOn (fun _ => True) tenant

section EditsOn

variable {P : Store τ → Prop} {f : α → Operation τ β}

theorem Quiet.edits (h : op.Quiet) : op.EditsOn P tenant := by
  intro s _
  obtain ⟨outage, hs⟩ := h s
  rw [hs]
  exact .single (.idle s.given outage (Nat.le_refl _))

theorem EditsOn.bind (h : op.Edits tenant) (hf : ∀ a, (f a).Edits tenant) :
    (op >>= f).Edits tenant := by
  intro s _
  have hfirst := h s trivial
  rw [run_bind]
  rcases hop : op.run s with ⟨failure | a, s'⟩ <;> rw [hop] at hfirst
  · exact hfirst
  · exact hfirst.trans (hf a s' trivial)

/-- What holds of a store holds of it when it was only looked at. -/
theorem Quiet.bind_edits (h : op.Quiet) (hP : ∀ s outage, P s → P { s with outage })
    (hf : ∀ a, (f a).EditsOn P tenant) : (op >>= f).EditsOn P tenant := by
  intro s hs
  obtain ⟨outage, hfirst⟩ := h s
  have hidle : Store.Edits tenant s { s with outage } :=
    .single (.idle s.given outage (Nat.le_refl _))
  rw [run_bind]
  rcases hop : op.run s with ⟨failure | a, s'⟩ <;> rw [hop] at hfirst <;> obtain rfl := hfirst
  · exact hidle
  · exact hidle.trans (hf a _ (hP s outage hs))

/-- A change that is made, and behind which the store is only looked at. -/
theorem commit_edits {g : Store τ → Except StoreFault (Store τ)} {next : Operation τ α}
    (h : ∀ s outage s', P s → g { s with outage } = .ok s' → Store.Edits tenant s s')
    (hnext : next.Quiet) : (commit g >>= fun _ => next).EditsOn P tenant := by
  intro s hs
  have hidle (outage : Option Outage) : Store.Edits tenant s { s with outage } :=
    .single (.idle s.given outage (Nat.le_refl _))
  rcases commit_bind_cases g next s with ⟨outage, s', hg, hrun⟩ | ⟨outage, fault, -, hrun⟩ |
    ⟨message, hrun⟩ <;> rw [hrun]
  · exact (h s outage s' hs hg).trans (hnext.edits (P := fun _ => True) s' trivial)
  · exact hidle outage
  · exact hidle s.outage

end EditsOn

end Operation

namespace Workflows

open Operation

variable {α : Type} {tenant : String}

/-! ### The parts of an edit -/

/-- A judgement fails unless a definition can be run. -/
theorem judge_cases (d : Definition) :
    (d.Valid ∧ (judge d : Operation τ Unit) = pure ()) ∨
      ∃ failure, (judge d : Operation τ Unit) = throw failure := by
  unfold judge
  cases hproblems : d.problems with
  | error fault => exact .inr ⟨.longInteger fault, rfl⟩
  | ok problems =>
    cases problems with
    | nil => exact .inl ⟨hproblems, rfl⟩
    | cons problem problems => exact .inr ⟨.invalid (problem :: problems), rfl⟩

theorem judge_quiet (d : Definition) : (judge d : Operation τ Unit).Quiet := by
  rcases judge_cases (τ := τ) d with ⟨-, hjudged⟩ | ⟨failure, hjudged⟩ <;> rw [hjudged]
  · exact quiet_pure ()
  · exact quiet_throw failure

theorem definitionOf_cases (row : WorkflowRow τ) :
    (∃ d, row.definition = .ok d ∧ definitionOf row = pure d) ∨
      ∃ failure, definitionOf row = throw failure := by
  unfold definitionOf
  cases row.definition with
  | ok d => exact .inl ⟨d, rfl, rfl⟩
  | error fault => exact .inr ⟨.unreadable fault, rfl⟩

/-- The row of a workflow is that which is stored, and it belongs to the tenant. -/
theorem owned_cases (id tenant : String) (s : Store τ) :
    (∃ row outage, (owned id tenant).run s = (.ok row, { s with outage }) ∧
      s.workflow? id = some row ∧ row.tenantId = tenant) ∨
    ∃ failure outage, (owned id tenant).run s = (.error failure, { s with outage }) := by
  unfold owned
  rw [run_bind]
  rcases query_cases (·.workflow? id) s with ⟨outage, hrun⟩ | ⟨message, hrun⟩ <;> rw [hrun]
  · have hsame : ({ s with outage } : Store τ).workflow? id = s.workflow? id := rfl
    dsimp only
    rw [hsame]
    cases hrow : s.workflow? id with
    | none => exact .inr ⟨.noWorkflow id, outage, rfl⟩
    | some row =>
      have hfound : (found (some row) (.noWorkflow id) : Operation τ _) = pure row := rfl
      rw [hfound, pure_bind]
      by_cases htenant : row.tenantId = tenant
      · rw [if_pos htenant]
        exact .inl ⟨row, outage, rfl, rfl, htenant⟩
      · rw [if_neg htenant]
        exact .inr ⟨.foreignWorkflow id tenant, outage, rfl⟩
  · exact .inr ⟨_, s.outage, rfl⟩

theorem owned_quiet (id tenant : String) : (owned id tenant : Operation τ _).Quiet := by
  intro s
  rcases owned_cases id tenant s with ⟨row, outage, hrun, -⟩ | ⟨failure, outage, hrun⟩ <;> rw [hrun] <;>
    exact ⟨outage, rfl⟩

/-- A workflow is only edited by its tenant, and as it is stored. -/
theorem owned_edits {id : String} {f : WorkflowRow τ → Operation τ α}
    (h : ∀ row : WorkflowRow τ, row.id = id → row.tenantId = tenant →
      (f row).EditsOn (·.workflow? row.id = some row) tenant) :
    (owned id tenant >>= f).Edits tenant := by
  intro s _
  have hidle (outage : Option Outage) : Store.Edits tenant s { s with outage } :=
    .single (.idle s.given outage (Nat.le_refl _))
  rw [run_bind]
  rcases owned_cases id tenant s with ⟨row, outage, hrun, hrow, htenant⟩ | ⟨failure, outage, hrun⟩ <;>
    rw [hrun]
  · have hid := Store.workflow?_id hrow
    exact (hidle outage).trans (h row hid htenant _ (hid.symm ▸ hrow))
  · exact hidle outage

/-- What is viewed is the row of that id. -/
theorem viewed_run (id : String) (s : Store τ) :
    ∃ result, (viewed id).run s = (result, s) ∧ ∀ v, result = .ok v → v.id = id := by
  unfold viewed
  have hget : (get : Operation τ (Store τ)).run s = (.ok s, s) := rfl
  rw [run_bind, hget]
  dsimp only
  cases hrow : s.workflow? id with
  | none => exact ⟨.error (.noWorkflow id), rfl, fun v hv => by cases hv⟩
  | some row =>
    have hfound : (found (some row) (.noWorkflow id) : Operation τ _) = pure row := rfl
    rw [hfound, pure_bind]
    cases hview : row.view with
    | error failure => exact ⟨.error failure, rfl, fun v hv => by cases hv⟩
    | ok view =>
      refine ⟨.ok view, rfl, ?_⟩
      rintro v ⟨⟩
      unfold WorkflowRow.view at hview
      split at hview <;> cases hview
      exact Store.workflow?_id hrow

theorem viewed_quiet (id : String) : (viewed id : Operation τ (WorkflowView τ)).Quiet :=
  quiet_get.bind fun _ => (found_quiet _ _).bind fun _ => of_quiet _

theorem definitionOf_quiet (row : WorkflowRow τ) : (definitionOf row).Quiet := lifted_quiet _ _

/-! ### Operations that look at workflows -/

theorem fetch_quiet (id tenant : String) : (fetch id tenant : Operation τ _).Quiet :=
  (owned_quiet id tenant).bind fun _ => of_quiet _

theorem definition_quiet (id tenant : String) : (definition id tenant : Operation τ _).Quiet :=
  (owned_quiet id tenant).bind definitionOf_quiet

theorem list_quiet (tenant : String) (page size : Int) (filter : WorkflowFilter) :
    (list tenant page size filter : Operation τ _).Quiet :=
  (query_quiet _).bind fun _ => (lifted_quiet _ _).bind fun _ => (of_quiet _).bind fun _ =>
    quiet_pure _

theorem record_quiet (id tenant : String) : (record id tenant : Operation τ _).Quiet :=
  (owned_quiet id tenant).bind fun _ => quiet_pure _

theorem enabledDefinitions_quiet (tenant kind : String) :
    (enabledDefinitions tenant kind : Operation τ _).Quiet := query_quiet _

theorem templates_quiet (category : String) : (templates category : Operation τ _).Quiet :=
  (query_quiet _).bind fun _ => of_quiet _

/-! ### Edits of workflows -/

theorem update_edits {id user : String} {changes : WorkflowChanges} {now : Time.Stamp}
    (hchanges : ∀ d : Definition, d.WellFormed → (changes.apply d).WellFormed) :
    (update id changes tenant user now : Operation τ _).Edits tenant := by
  refine owned_edits fun row hid htenant => ?_
  subst hid
  rcases definitionOf_cases row with ⟨d, hd, hread⟩ | ⟨failure, hread⟩ <;> rw [hread]
  · rw [pure_bind]
    have hwell := hchanges d (WorkflowRow.definition_ok hd).1
    dsimp only
    rcases judge_cases (τ := τ) (changes.apply d) with ⟨hvalid, hjudged⟩ | ⟨failure, hjudged⟩ <;>
      rw [hjudged]
    · rw [pure_bind]
      refine commit_edits (fun s outage s' hrow hs' => ?_) (viewed_quiet _)
      obtain ⟨version, -, hs'⟩ := Except.bind_eq_ok.mp hs'
      obtain rfl := Except.ok.inj hs'
      exact .single (.change row _ outage hrow htenant ⟨fun _ => rfl, fun _ => rfl, fun _ => rfl,
        fun _ _ => ⟨_, hwell, hvalid, rfl, rfl, rfl, rfl, rfl, rfl, rfl, rfl⟩⟩)
    · exact (quiet_throw failure).edits
  · exact (quiet_throw failure).edits

theorem delete_edits {id : String} : (delete id tenant : Operation τ _).Edits tenant := by
  refine owned_edits fun row hid htenant => ?_
  subst hid
  rw [← bind_pure (commit _)]
  refine commit_edits (fun s outage s' hrow hs' => ?_) (quiet_pure ())
  obtain rfl := Except.ok.inj hs'
  exact .single (.remove row outage hrow htenant)

theorem setEnabled_edits {id : String} {enabled : Bool} {now : Time.Stamp} :
    (setEnabled id tenant enabled now : Operation τ _).Edits tenant := by
  refine owned_edits fun row hid htenant => ?_
  subst hid
  have hset : ((do
      commit fun s => .ok <| s.changeWorkflow row.id fun r =>
        { r with enabled, updatedAt := some now.naiveUtc }
      viewed row.id) : Operation τ _).EditsOn (·.workflow? row.id = some row) tenant := by
    refine commit_edits (fun s outage s' hrow hs' => ?_) (viewed_quiet _)
    obtain rfl := Except.ok.inj hs'
    exact .single (.change row _ outage hrow htenant ⟨fun _ => rfl, fun _ => rfl, fun _ => rfl,
      fun _ ⟨d, hd, hvalid, hkeeps⟩ => ⟨d, hd, hvalid, { hkeeps with }⟩⟩)
  cases enabled with
  | false => exact hset
  | true =>
    exact (definitionOf_quiet row).bind_edits (fun _ _ h => h) fun d =>
      (judge_quiet d).bind_edits (fun _ _ h => h) fun _ => hset

/-- A new workflow is stored under an id that was never given before and is viewed, or nothing is
stored. -/
theorem create_cases (w : NewWorkflow) (tenant user : String) (now : Time.Stamp) (s : Store τ) :
    (∃ failure given outage, s.given ≤ given ∧
      (create w tenant user now).run s = (.error failure, { s with given, outage })) ∨
    ∃ row outage, w.definition.Valid ∧ s.workflow? row.id = none ∧
      row = w.row (idOf (s.given + 1)) tenant user now.naiveUtc ∧
      (create w tenant user now).run s
        = (viewed row.id).run { s.insertWorkflow row with given := s.given + 1, outage } := by
  unfold create
  rcases judge_cases (τ := τ) w.definition with ⟨hvalid, hjudged⟩ | ⟨failure, hjudged⟩ <;>
    rw [hjudged]
  · let id := idOf (s.given + 1)
    have hfresh : (freshId : Operation τ String).run s
        = (.ok id, { s with given := s.given + 1 }) := rfl
    rw [pure_bind, run_bind, hfresh]
    dsimp only
    rcases commit_bind_cases (fun s : Store τ =>
        if (s.workflow? id).isSome then .error .integrity
        else .ok (s.insertWorkflow (w.row id tenant user now.naiveUtc))) (viewed id)
      { s with given := s.given + 1 } with
      ⟨outage, s', hs', hrun⟩ | ⟨outage, fault, -, hrun⟩ | ⟨message, hrun⟩ <;> rw [hrun]
    · split at hs'
      · cases hs'
      · rename_i hnone
        obtain rfl := Except.ok.inj hs'
        exact .inr ⟨w.row id tenant user now.naiveUtc, outage, hvalid,
          Option.not_isSome_iff_eq_none.mp hnone, rfl, rfl⟩
    · exact .inl ⟨_, _, _, Nat.le_succ _, rfl⟩
    · exact .inl ⟨_, _, _, Nat.le_succ _, rfl⟩
  · exact .inl ⟨failure, s.given, s.outage, Nat.le_refl _, rfl⟩

theorem create_edits {w : NewWorkflow} {user : String} {now : Time.Stamp}
    (hw : w.definition.WellFormed) : (create w tenant user now : Operation τ _).Edits tenant := by
  intro s _
  rcases create_cases w tenant user now s with ⟨failure, given, outage, hgiven, hrun⟩ |
    ⟨row, outage, hvalid, hnew, hrow, hrun⟩ <;> rw [hrun]
  · exact .single (.idle given outage hgiven)
  · obtain ⟨result, hviewed, -⟩ := viewed_run row.id
      { s.insertWorkflow row with given := s.given + 1, outage }
    rw [hviewed]
    subst hrow
    exact .single (.insert _ outage rfl hnew rfl rfl ⟨_, hw, hvalid, w.row_keeps ..⟩)

/-- The new workflow is the tenant's. -/
theorem create_owns {w : NewWorkflow} {user : String} {now : Time.Stamp} {s s' : Store τ}
    {v : WorkflowView τ} (h : (create w tenant user now).run s = (.ok v, s')) :
    s'.Owns tenant v.id := by
  rcases create_cases w tenant user now s with ⟨failure, given, outage, -, hrun⟩ |
    ⟨row, outage, -, hnew, hrow, hrun⟩ <;> rw [hrun] at h
  · cases h
  · obtain ⟨result, hviewed, hid⟩ := viewed_run row.id
      { s.insertWorkflow row with given := s.given + 1, outage }
    rw [hviewed] at h
    cases h
    rw [hid v rfl]
    exact ⟨row, Store.workflow?_insert hnew, hrow ▸ rfl⟩

theorem instantiate_edits {templateId user : String} {u : TemplateUse} {now : Time.Stamp}
    (hu : ∀ d : Definition, d.WellFormed → (u.workflow d).definition.WellFormed) :
    (instantiate templateId u tenant user now : Operation τ _).Edits tenant := by
  refine (query_quiet _).edits.bind fun template? => ?_
  refine (found_quiet _ _).edits.bind fun template => ?_
  rcases definitionOf_cases template with ⟨d, hd, hread⟩ | ⟨failure, hread⟩ <;> rw [hread]
  · rw [pure_bind]
    intro s _
    have hedits : Store.Edits tenant s ((create (u.workflow d) tenant user now).run s).2 :=
      create_edits (hu d (WorkflowRow.definition_ok hd).1) s trivial
    rw [run_bind]
    rcases hrun : (create (u.workflow d) tenant user now).run s with ⟨failure | made, s'⟩ <;>
      rw [hrun] at hedits
    · exact hedits
    · obtain ⟨row, hrow, htenant⟩ := create_owns hrun
      have hid := Store.workflow?_id hrow
      -- The row that was inserted belongs to the tenant, and only the mark of its template is added.
      have hmarked : ((do
          let _ ← query fun s => s.workflow? made.id
          commit fun s => .ok <| s.changeWorkflow made.id fun r =>
            { r with templateId := some templateId, updatedAt := some now.naiveUtc }
          viewed made.id) : Operation τ _).EditsOn (·.workflow? row.id = some row) tenant := by
        rw [← hid]
        refine (query_quiet _).bind_edits (fun _ _ h => h) fun _ => ?_
        refine commit_edits (fun s outage s' hrow hs' => ?_) (viewed_quiet _)
        obtain rfl := Except.ok.inj hs'
        exact .single (.change row _ outage hrow htenant ⟨fun _ => rfl, fun _ => rfl, fun _ => rfl,
          fun _ ⟨d, hd, hvalid, hkeeps⟩ => ⟨d, hd, hvalid, { hkeeps with }⟩⟩)
      exact hedits.trans (hmarked s' (hid.symm ▸ hrow))
  · exact (quiet_throw failure).edits

end Workflows

/-! ## Runs -/

namespace Runs

open Operation

theorem owned_quiet (runId tenant : String) : (owned runId tenant : Operation τ RunRow).Quiet := by
  refine (query_quiet _).bind fun row? => (found_quiet _ _).bind fun row => ?_
  split
  · exact quiet_pure row
  · exact quiet_throw _

theorem fetch_quiet (runId tenant : String) : (fetch runId tenant : Operation τ RunView).Quiet :=
  (owned_quiet runId tenant).bind fun _ => of_quiet _

theorem list_quiet (workflowId tenant : String) (page size : Int) (status : String) :
    (list workflowId tenant page size status : Operation τ _).Quiet :=
  (Workflows.owned_quiet workflowId tenant).bind fun _ => (query_quiet _).bind fun _ =>
    (lifted_quiet _ _).bind fun _ => (of_quiet _).bind fun _ => quiet_pure _

theorem current_run {id : String} {row : RunRow} {s : Store τ} (h : s.run? id = some row) :
    (current id : Operation τ RunRow).run s = (.ok row, s) := by
  have hget : (get : Operation τ (Store τ)).run s = (.ok s, s) := rfl
  unfold current
  rw [run_bind, hget]
  dsimp only
  rw [h]
  rfl

theorem rowFor_id {d : Definition} {event : Event} {id : String} {isTest : Bool} {now : Time.Stamp}
    {row : RunRow} (h : rowFor d event id isTest now = .ok row) : row.id = id := by
  unfold rowFor at h
  split at h <;> cases h
  rfl

/-- A run that starts is inserted. If it has a workflow and a tenant and was not there before, only
a store that is out of order refuses it. -/
theorem start_cases (d : Definition) (event : Event) (id : String) (isTest : Bool)
    (now : Time.Stamp) (s : Store τ) :
    (∃ row outage, rowFor d event id isTest now = .ok row ∧ s.run? id = none ∧
      (start d event id isTest now).run s = (.ok row, { s.insertRun row with outage })) ∨
    ∃ fault outage, (start d event id isTest now).run s = (.error (.store fault), { s with outage }) ∧
      ∀ row, rowFor d event id isTest now = .ok row → s.run? id = none → fault ≠ .integrity := by
  unfold start
  rcases commit_bind_cases (fun s : Store τ => do
      let row ← rowFor d event id isTest now
      if (s.run? id).isSome then throw .integrity
      return s.insertRun row) (current id) s with
    ⟨outage, s', hs', hrun⟩ | ⟨outage, fault, hfault, hrun⟩ | ⟨message, hrun⟩ <;> rw [hrun]
  · obtain ⟨row, hrow, hs'⟩ := Except.bind_eq_ok.mp hs'
    split at hs'
    · cases hs'
    · rename_i hnone
      obtain rfl := Except.ok.inj hs'
      have hnew : s.run? id = none := Option.not_isSome_iff_eq_none.mp hnone
      have hfound : ({ s.insertRun row with outage } : Store τ).run? id = some row := by
        obtain rfl := rowFor_id hrow
        exact Store.run?_insert hnew
      exact .inl ⟨row, outage, hrow, hnew, current_run hfound⟩
  · refine .inr ⟨fault, outage, rfl, fun row hrow hnew => ?_⟩
    have hnone : ({ s with outage } : Store τ).run? id = none := hnew
    rw [hrow] at hfault
    simp only [hnone, Option.isSome_none, bind, Except.bind] at hfault
    cases hfault
  · exact .inr ⟨.outage message, s.outage, rfl, fun row hrow hnew => by rintro ⟨⟩⟩

section Started

variable {d : Definition} {event : Event} {id : String} {isTest : Bool} {now : Time.Stamp}
  {s s' : Store τ}

theorem start_ok {row : RunRow} (h : (start d event id isTest now).run s = (.ok row, s')) :
    ∃ x outage, rowFor d event id isTest now = .ok x ∧ s.run? id = none ∧
      s' = { s.insertRun x with outage } := by
  rcases start_cases d event id isTest now s with ⟨x, outage, hx, hnone, hrun⟩ |
    ⟨fault, outage, hrun, -⟩ <;> rw [hrun] at h <;> cases h
  exact ⟨row, outage, hx, hnone, rfl⟩

theorem start_error {failure : Failed}
    (h : (start d event id isTest now).run s = (.error failure, s')) :
    ∃ fault outage, failure = .store fault ∧ s' = { s with outage } ∧
      ∀ row, rowFor d event id isTest now = .ok row → s.run? id = none → fault ≠ .integrity := by
  rcases start_cases d event id isTest now s with ⟨x, outage, -, -, hrun⟩ |
    ⟨fault, outage, hrun, hfault⟩ <;> rw [hrun] at h <;> cases h
  exact ⟨fault, outage, rfl, rfl, hfault⟩

end Started

variable [ActiveTime τ] [RunningMean τ]

/-- The store with the outcome of a run that is there. -/
def recorded (s : Store τ) (d : Definition) (result : RunResult τ) (isTest : Bool)
    (now : Time.Stamp) : Store τ :=
  let s := s.changeRun result.runId fun row => outcome row result now
  match countsFor d isTest with
  | some id => counted s id result now
  | none => s

theorem recorded_runs (s : Store τ) (d : Definition) (result : RunResult τ) (isTest : Bool)
    (now : Time.Stamp) : (recorded s d result isTest now).runs
      = (s.changeRun result.runId fun row => outcome row result now).runs := by
  unfold recorded
  split <;> rfl

/-- The outcome of a run that is there is recorded as a whole, or nothing of it is. -/
theorem record_cases (d : Definition) (event : Event) (result : RunResult τ) (isTest : Bool)
    (now : Time.Stamp) {s : Store τ} {row : RunRow} (hrow : s.run? result.runId = some row) :
    (∃ row' outage, (record d event result isTest now).run s
      = (.ok row', { recorded s d result isTest now with outage })) ∨
    ∃ fault outage, fault ≠ .integrity ∧
      (record d event result isTest now).run s = (.error (.store fault), { s with outage }) := by
  unfold record
  dsimp only
  split
  · exact .inr ⟨.hugeDuration, s.outage, by rintro ⟨⟩, rfl⟩
  · rcases commit_bind_cases (fun s : Store τ => do
        let s ← saved s d event result isTest now
        return match countsFor d isTest with
          | some id => counted s id result now
          | none => s) (current result.runId) s with
      ⟨outage, s', hs', hrun⟩ | ⟨outage, fault, hfault, hrun⟩ | ⟨message, hrun⟩
    · obtain ⟨s₁, hs₁, hs'⟩ := Except.bind_eq_ok.mp hs'
      obtain ⟨_, -, hs₁⟩ := Except.bind_eq_ok.mp hs₁
      have hthere : ({ s with outage } : Store τ).run? result.runId = some row := hrow
      rw [hthere] at hs₁
      obtain rfl := Except.ok.inj hs₁
      have heq : s' = { recorded s d result isTest now with outage } := by
        rw [← Except.ok.inj hs', recorded]
        cases countsFor d isTest <;> rfl
      subst heq
      refine .inl ⟨outcome row result now, outage, hrun.trans (current_run ?_)⟩
      have hchanged := Store.run?_change (f := fun row => outcome row result now) (fun _ => rfl) hrow
      unfold Store.run? at hchanged ⊢
      rwa [← recorded_runs s d result isTest now] at hchanged
    · refine .inr ⟨fault, outage, ?_, hrun⟩
      have hthere : ({ s with outage } : Store τ).run? result.runId = some row := hrow
      -- The row is there, so its duration is all that can be refused.
      rintro rfl
      unfold saved stored at hfault
      rw [hthere] at hfault
      split at hfault <;> cases hfault
    · exact .inr ⟨.outage message, s.outage, by rintro ⟨⟩, hrun⟩

section Recorded

variable {d : Definition} {event : Event} {result : RunResult τ} {isTest : Bool}
  {now : Time.Stamp} {s s' : Store τ} {x : RunRow}

theorem record_ok (hx : s.run? result.runId = some x) {row : RunRow}
    (h : (record d event result isTest now).run s = (.ok row, s')) :
    ∃ outage, s' = { recorded s d result isTest now with outage } := by
  rcases record_cases d event result isTest now hx with ⟨row', outage, hrun⟩ |
    ⟨fault, outage, -, hrun⟩ <;> rw [hrun] at h <;> cases h
  exact ⟨outage, rfl⟩

theorem record_error (hx : s.run? result.runId = some x) {failure : Failed}
    (h : (record d event result isTest now).run s = (.error failure, s')) :
    ∃ fault outage, failure = .store fault ∧ fault ≠ .integrity ∧ s' = { s with outage } := by
  rcases record_cases d event result isTest now hx with ⟨row', outage, hrun⟩ |
    ⟨fault, outage, hfault, hrun⟩ <;> rw [hrun] at h <;> cases h
  exact ⟨fault, outage, rfl, hfault, rfl⟩

/-- The row of the run has its outcome. -/
theorem recorded_run? (hx : s.run? result.runId = some x) :
    (recorded s d result isTest now).run? result.runId = some (outcome x result now) := by
  unfold Store.run?
  rw [recorded_runs]
  exact Store.run?_change (fun _ => rfl) hx

theorem recorded_run?_other {id : String} (hid : id ≠ result.runId) :
    (recorded s d result isTest now).run? id = s.run? id := by
  unfold Store.run?
  rw [recorded_runs]
  exact Store.run?_change_other (fun _ => rfl) hid

/-- The workflows can still be run. -/
theorem recorded_runnable (hs : ∀ r ∈ s.workflows, r.Runnable) :
    ∀ r ∈ (recorded s d result isTest now).workflows, r.Runnable := by
  unfold recorded
  split
  · rename_i id _
    intro r' hr'
    obtain ⟨r, hr, rfl⟩ := List.mem_map.mp hr'
    obtain ⟨d, hd, hvalid, hkeeps⟩ := hs r hr
    refine ⟨d, hd, hvalid, ?_⟩
    split
    · split <;> exact { hkeeps with }
    · exact hkeeps
  · exact hs

end Recorded

end Runs

end Automation
