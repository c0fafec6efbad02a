import Automation.Proofs.Store.Operations
import Mathlib.Data.List.Nodup

/-!
# Stores that are alike for a tenant

All that a tenant knows of a store are its own rows, the templates, and which ids are taken and by
whom. Stores that are alike in this stay alike when the same is done to both (`Store.Alike`). What is
done to the rows of one tenant leaves those of another as they are (`Store.Spares`).
-/

namespace Automation

variable {τ : Type}

/-! ## Tables -/

section Tables

variable {ρ : Type} {id tenant : ρ → String} {t other x : String} {rows rows' : List ρ} {r : ρ}
  {f : ρ → ρ}

/-- Two tables are alike for a tenant: its rows are the same in both, and so are the ids that are
taken and the tenants that have taken them. An id is taken once. -/
structure RowsAlike (id tenant : ρ → String) (t : String) (rows rows' : List ρ) : Prop where
  own : rows.filter (tenant · = t) = rows'.filter (tenant · = t)
  owners : (rows.map fun r => (id r, tenant r)).Perm (rows'.map fun r => (id r, tenant r))
  ids : (rows.map id).Nodup

theorem RowsAlike.ids_perm (h : RowsAlike id tenant t rows rows') :
    (rows.map id).Perm (rows'.map id) := by
  have hfirst := h.owners.map Prod.fst
  rwa [List.map_map, List.map_map] at hfirst

theorem RowsAlike.ids' (h : RowsAlike id tenant t rows rows') : (rows'.map id).Nodup :=
  h.ids_perm.nodup_iff.mp h.ids

theorem RowsAlike.refl (hids : (rows.map id).Nodup) : RowsAlike id tenant t rows rows :=
  ⟨rfl, .refl _, hids⟩

theorem RowsAlike.symm (h : RowsAlike id tenant t rows rows') : RowsAlike id tenant t rows' rows :=
  ⟨h.own.symm, h.owners.symm, h.ids'⟩

theorem find?_of_nodup (hids : (rows.map id).Nodup) (hr : r ∈ rows) :
    rows.find? (id · = id r) = some r := by
  cases hfound : rows.find? (id · = id r) with
  | none => exact absurd (decide_eq_true rfl) (List.find?_eq_none.mp hfound r hr)
  | some r' =>
    have hid : id r' = id r := by simpa using List.find?_some hfound
    rw [List.inj_on_of_nodup_map hids (List.mem_of_find?_eq_some hfound) hr hid]

/-- The row of an id is the tenant's and the same in both tables, or in both it is a row of the same
other tenant, or there is none. -/
theorem RowsAlike.find (h : RowsAlike id tenant t rows rows') (x : String) :
    (∃ r, tenant r = t ∧ rows.find? (id · = x) = some r ∧ rows'.find? (id · = x) = some r) ∨
      (∃ r r', tenant r ≠ t ∧ tenant r' = tenant r ∧ rows.find? (id · = x) = some r ∧
        rows'.find? (id · = x) = some r') ∨
      rows.find? (id · = x) = none ∧ rows'.find? (id · = x) = none := by
  cases hfound : rows.find? (id · = x) with
  | none =>
    refine .inr (.inr ⟨rfl, List.find?_eq_none.mpr fun r' hr' hid => ?_⟩)
    obtain ⟨r, hr, hsame⟩ := List.mem_map.mp (h.ids_perm.mem_iff.mpr (List.mem_map_of_mem hr'))
    exact List.find?_eq_none.mp hfound r hr (by simpa [hsame] using hid)
  | some r =>
    obtain rfl : id r = x := by simpa using List.find?_some hfound
    have hr := List.mem_of_find?_eq_some hfound
    obtain ⟨r', hr', hsame⟩ := List.mem_map.mp (h.owners.mem_iff.mp
      (List.mem_map_of_mem (f := fun r => (id r, tenant r)) hr))
    obtain ⟨hid, htenant⟩ := Prod.mk.inj hsame
    have hfound' : rows'.find? (id · = id r) = some r' := hid ▸ find?_of_nodup h.ids' hr'
    by_cases hown : tenant r = t
    · have hmem : r ∈ rows'.filter (tenant · = t) :=
        h.own ▸ List.mem_filter.mpr ⟨hr, by simpa using hown⟩
      obtain rfl := List.inj_on_of_nodup_map h.ids' (List.mem_of_mem_filter hmem) hr' hid.symm
      exact .inl ⟨r, hown, rfl, hfound'⟩
    · exact .inr (.inl ⟨r, r', hown, htenant, rfl, hfound'⟩)

theorem RowsAlike.taken (h : RowsAlike id tenant t rows rows') (x : String) :
    (rows.find? (id · = x)).isSome = (rows'.find? (id · = x)).isSome := by
  rcases h.find x with ⟨_, _, hr, hr'⟩ | ⟨_, _, _, _, hr, hr'⟩ | ⟨hr, hr'⟩
  · rw [hr, hr']
  · rw [hr, hr']
    rfl
  · rw [hr, hr']

/-! ### Changes of tables -/

theorem map_change {α : Type} {g : ρ → α} (hg : ∀ r, g (f r) = g r) :
    (rows.map fun r => if id r = x then f r else r).map g = rows.map g := by
  rw [List.map_map]
  refine List.map_congr_left fun r _ => ?_
  rw [Function.comp_apply]
  split
  · exact hg r
  · rfl

theorem filter_change {p : ρ → Bool} (hp : ∀ r, p (f r) = p r) :
    (rows.map fun r => if id r = x then f r else r).filter p
      = (rows.filter p).map fun r => if id r = x then f r else r := by
  rw [List.filter_map]
  congr 2
  funext r
  rw [Function.comp_apply]
  split
  · exact hp r
  · rfl

/-- A change to the row of an id is none to the rows that do not have it. -/
theorem filter_change_of_not {p : ρ → Bool} (hp : ∀ r, p (f r) = p r)
    (h : ∀ r ∈ rows, id r = x → p r = false) :
    (rows.map fun r => if id r = x then f r else r).filter p = rows.filter p := by
  rw [filter_change hp]
  refine (List.map_congr_left fun r hr => ?_).trans (List.map_id _)
  obtain ⟨hr, hpr⟩ := List.mem_filter.mp hr
  rw [if_neg fun hid => by rw [h r hr hid] at hpr; cases hpr]
  rfl

theorem filter_remove_of_not {p : ρ → Bool} (h : ∀ r ∈ rows, id r = x → p r = false) :
    (rows.filter (id · ≠ x)).filter p = rows.filter p := by
  rw [List.filter_filter]
  refine List.filter_congr fun r hr => ?_
  by_cases hid : id r = x
  · simp [hid, h r hr hid]
  · simp [hid]

theorem filter_insert_of_not {p : ρ → Bool} (h : p r = false) :
    (rows ++ [r]).filter p = rows.filter p := by
  simp [List.filter_append, h]

namespace RowsAlike

variable (h : RowsAlike id tenant t rows rows')
include h

theorem insert (hnew : rows.find? (id · = id r) = none) :
    RowsAlike id tenant t (rows ++ [r]) (rows' ++ [r]) where
  own := by rw [List.filter_append, List.filter_append, h.own]
  owners := by
    rw [List.map_append, List.map_append]
    exact h.owners.append_right _
  ids := by
    rw [List.map_append, List.map_singleton, ← List.concat_eq_append]
    refine h.ids.concat fun hmem => ?_
    obtain ⟨r', hr', hid⟩ := List.mem_map.mp hmem
    exact List.find?_eq_none.mp hnew r' hr' (by simpa using hid)

theorem change (hid : ∀ r, id (f r) = id r) (htenant : ∀ r, tenant (f r) = tenant r) :
    RowsAlike id tenant t (rows.map fun r => if id r = x then f r else r)
      (rows'.map fun r => if id r = x then f r else r) where
  own := by
    have hp (r : ρ) : decide (tenant (f r) = t) = decide (tenant r = t) := by rw [htenant]
    rw [filter_change hp, filter_change hp, h.own]
  owners := by
    have hg (r : ρ) : (id (f r), tenant (f r)) = (id r, tenant r) := by rw [hid, htenant]
    rw [map_change (g := fun r => (id r, tenant r)) hg,
      map_change (g := fun r => (id r, tenant r)) hg]
    exact h.owners
  ids := by
    rw [map_change hid]
    exact h.ids

theorem remove :
    RowsAlike id tenant t (rows.filter (id · ≠ x)) (rows'.filter (id · ≠ x)) where
  own := by
    rw [List.filter_comm, h.own, List.filter_comm]
  owners := by
    have hfilter (rows : List ρ) : (rows.filter (id · ≠ x)).map (fun r => (id r, tenant r))
        = (rows.map fun r => (id r, tenant r)).filter (·.1 ≠ x) := by
      rw [List.filter_map]
      rfl
    rw [hfilter, hfilter]
    exact h.owners.filter _
  ids := h.ids.sublist (List.filter_sublist.map id)

end RowsAlike

end Tables

/-! ## Stores -/

/-- A change to a row that leaves alone whose it is and whether it is a template. -/
structure WorkflowRow.StaysWith (f : WorkflowRow τ → WorkflowRow τ) : Prop where
  id : ∀ r, (f r).id = r.id
  tenantId : ∀ r, (f r).tenantId = r.tenantId
  isTemplate : ∀ r, (f r).isTemplate = r.isTemplate

namespace Store

variable {s s' s'' : Store τ} {t other id : String}

/-- Two stores are alike for a tenant: its rows are the same in both, so are the templates, and so
are the ids that are taken and the tenants that have taken them. New ids will be the same, and what
is out of order is. -/
structure Alike (t : String) (s s' : Store τ) : Prop where
  workflows : RowsAlike WorkflowRow.id WorkflowRow.tenantId t s.workflows s'.workflows
  templates : s.workflows.filter (·.isTemplate) = s'.workflows.filter (·.isTemplate)
  runs : RowsAlike RunRow.id RunRow.tenantId t s.runs s'.runs
  given : s.given = s'.given
  outage : s.outage = s'.outage

/-- The rows of a tenant are left as they are. -/
structure Spares (other : String) (s s' : Store τ) : Prop where
  workflows : s'.workflows.filter (·.tenantId = other) = s.workflows.filter (·.tenantId = other)
  runs : s'.runs.filter (·.tenantId = other) = s.runs.filter (·.tenantId = other)

theorem Spares.refl (other : String) (s : Store τ) : s.Spares other s := ⟨rfl, rfl⟩

theorem Spares.trans (h : s.Spares other s') (h' : s'.Spares other s'') : s.Spares other s'' :=
  ⟨h'.workflows.trans h.workflows, h'.runs.trans h.runs⟩

theorem Alike.symm (h : s.Alike t s') : s'.Alike t s :=
  ⟨h.workflows.symm, h.templates.symm, h.runs.symm, h.given.symm, h.outage.symm⟩

theorem Alike.used (h : s.Alike t s') (outage : Option Outage) :
    ({ s with outage } : Store τ).Alike t { s' with outage } :=
  ⟨h.workflows, h.templates, h.runs, h.given, rfl⟩

/-- The workflows of a tenant are found alike. -/
theorem Alike.workflow? (h : s.Alike t s') {row : WorkflowRow τ} (hrow : s.workflow? id = some row)
    (htenant : row.tenantId = t) : s'.workflow? id = some row := by
  rcases h.workflows.find id with ⟨r, -, hr, hr'⟩ | ⟨r, r', hother, -, hr, -⟩ | ⟨hnone, -⟩
  · exact Option.some.inj (hr.symm.trans hrow) ▸ hr'
  · exact absurd htenant (Option.some.inj (hr.symm.trans hrow) ▸ hother)
  · cases hnone.symm.trans hrow

/-! ### Changes of stores -/

section Change

variable {f : WorkflowRow τ → WorkflowRow τ}

theorem Alike.insertWorkflow (h : s.Alike t s') {r : WorkflowRow τ} (hnew : s.workflow? r.id = none) :
    (s.insertWorkflow r).Alike t (s'.insertWorkflow r) where
  workflows := h.workflows.insert hnew
  templates := by
    unfold Store.insertWorkflow
    rw [List.filter_append, List.filter_append, h.templates]
  runs := h.runs
  given := h.given
  outage := h.outage

theorem Alike.changeWorkflow (h : s.Alike t s') (hf : WorkflowRow.StaysWith f) :
    (s.changeWorkflow id f).Alike t (s'.changeWorkflow id f) where
  workflows := h.workflows.change hf.id hf.tenantId
  templates := by
    unfold Store.changeWorkflow
    dsimp only
    rw [filter_change hf.isTemplate, filter_change hf.isTemplate, h.templates]
  runs := h.runs
  given := h.given
  outage := h.outage

/-- A change to a workflow of another tenant is none to a tenant, unless it is a template. -/
theorem Alike.changeOther (h : s.Alike t s)
    (hother : ∀ r ∈ s.workflows, r.id = id → r.tenantId ≠ t ∧ r.isTemplate = false)
    (hf : WorkflowRow.StaysWith f) : s.Alike t (s.changeWorkflow id f) where
  workflows := by
    have howners (r : WorkflowRow τ) : ((f r).id, (f r).tenantId) = (r.id, r.tenantId) := by
      rw [hf.id, hf.tenantId]
    refine ⟨?_, ?_, h.workflows.ids⟩
    · exact (filter_change_of_not (fun r => by rw [hf.tenantId])
        fun r hr hid => decide_eq_false (hother r hr hid).1).symm
    · unfold Store.changeWorkflow
      exact .of_eq (map_change howners).symm
  templates := (filter_change_of_not hf.isTemplate fun r hr hid => (hother r hr hid).2).symm
  runs := h.runs
  given := rfl
  outage := rfl

theorem Alike.removeWorkflow (h : s.Alike t s') :
    (s.removeWorkflow id).Alike t (s'.removeWorkflow id) where
  workflows := h.workflows.remove
  templates := by
    unfold Store.removeWorkflow
    rw [List.filter_comm, h.templates, List.filter_comm]
  runs := h.runs
  given := h.given
  outage := h.outage

theorem Alike.insertRun (h : s.Alike t s') {r : RunRow} (hnew : s.run? r.id = none) :
    (s.insertRun r).Alike t (s'.insertRun r) :=
  ⟨h.workflows, h.templates, h.runs.insert hnew, h.given, h.outage⟩

theorem Alike.changeRun (h : s.Alike t s') {f : RunRow → RunRow} (hid : ∀ r, (f r).id = r.id)
    (htenant : ∀ r, (f r).tenantId = r.tenantId) :
    (s.changeRun id f).Alike t (s'.changeRun id f) :=
  ⟨h.workflows, h.templates, h.runs.change hid htenant, h.given, h.outage⟩

theorem Spares.insertWorkflow {r : WorkflowRow τ} (h : r.tenantId ≠ other) :
    s.Spares other (s.insertWorkflow r) :=
  ⟨filter_insert_of_not (decide_eq_false h), rfl⟩

theorem Spares.insertRun {r : RunRow} (h : r.tenantId ≠ other) : s.Spares other (s.insertRun r) :=
  ⟨rfl, filter_insert_of_not (decide_eq_false h)⟩

/-- A change to a workflow of one tenant is none to the rows of another. -/
theorem Spares.changeWorkflow (h : ∀ r ∈ s.workflows, r.id = id → r.tenantId ≠ other)
    (hf : ∀ r, (f r).tenantId = r.tenantId) : s.Spares other (s.changeWorkflow id f) :=
  ⟨filter_change_of_not (fun r => by rw [hf])
    fun r hr hid => decide_eq_false (h r hr hid), rfl⟩

theorem Spares.changeRun {f : RunRow → RunRow}
    (h : ∀ r ∈ s.runs, r.id = id → r.tenantId ≠ other) (hf : ∀ r, (f r).tenantId = r.tenantId) :
    s.Spares other (s.changeRun id f) :=
  ⟨rfl, filter_change_of_not (fun r => by rw [hf])
    fun r hr hid => decide_eq_false (h r hr hid)⟩

theorem Spares.removeWorkflow (h : ∀ r ∈ s.workflows, r.id = id → r.tenantId ≠ other) :
    s.Spares other (s.removeWorkflow id) :=
  ⟨filter_remove_of_not fun r hr hid => decide_eq_false (h r hr hid), rfl⟩

/-- A workflow that a tenant has is no other tenant's. -/
theorem Owns.tenantId (h : s.Owns t id) (hids : (s.workflows.map (·.id)).Nodup)
    (hother : other ≠ t) : ∀ r ∈ s.workflows, r.id = id → r.tenantId ≠ other := by
  rintro r hr rfl
  obtain ⟨row, hrow, rfl⟩ := h
  have hsame : s.workflow? r.id = some r := find?_of_nodup hids hr
  obtain rfl := Option.some.inj (hsame.symm.trans hrow)
  exact hother.symm

theorem Owns.changeWorkflow (h : s.Owns t id) (hf : WorkflowRow.StaysWith f) :
    (s.changeWorkflow id f).Owns t id := by
  obtain ⟨row, hrow, htenant⟩ := h
  exact ⟨f row, workflow?_change hf.id hrow, (hf.tenantId row).trans htenant⟩

end Change

end Store

end Automation
