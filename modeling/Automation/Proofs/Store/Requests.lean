import Automation.Proofs.Store.Operations
import Mathlib.Data.List.Nodup

/-!
# Requests to change workflows

A request creates a workflow, changes, enables, disables or deletes one, or makes one from a template.
`Change.Does` says all that it can do to the stored workflows and how it is then answered. After any
requests of any tenants the store holds only workflows that can be run, each with the count of its
changes as its version, and a request that fails has changed none (`Served.workflows_runnable`).
-/

namespace Automation

variable {τ : Type}

/-! ## Requests -/

/-- What can be asked for. -/
inductive Change where
  | create (w : NewWorkflow)
  | update (id : String) (changes : WorkflowChanges)
  | setEnabled (id : String) (enabled : Bool)
  | delete (id : String)
  | instantiate (templateId : String) (u : TemplateUse)

namespace Change

/-- What came with the request has been read. -/
def Accepted : Change → Prop
  | .create w => NewWorkflow.codec.Accepts w
  | .update _ changes => WorkflowChanges.codec.Accepts changes
  | .setEnabled _ _ => True
  | .delete _ => True
  | .instantiate _ u => TemplateUse.codec.Accepts u

/-- The operation for a request. The workflow is answered, unless it was deleted. -/
def operation (tenant user : String) (now : Time.Stamp) :
    Change → Operation τ (Option (WorkflowView τ))
  | .create w => some <$> Workflows.create w tenant user now
  | .update id changes => some <$> Workflows.update id changes tenant user now
  | .setEnabled id enabled => some <$> Workflows.setEnabled id tenant enabled now
  | .delete id => (fun _ => none) <$> Workflows.delete id tenant
  | .instantiate templateId u => some <$> Workflows.instantiate templateId u tenant user now

/-- All that a request of a tenant can do, and how it is answered. -/
inductive Does (tenant : String) (s : Store τ) :
    Change → Except Failed (Option (WorkflowView τ)) → Store τ → Prop where
  | fails (c : Change) (failure : Failed) (given : Nat) (outage : Option Outage)
      (hgiven : s.given ≤ given) : Does tenant s c (.error failure) { s with given, outage }
  | creates (w : NewWorkflow) (v : WorkflowView τ) (row : WorkflowRow τ) (outage : Option Outage)
      (hid : row.id = idOf (s.given + 1)) (htenant : row.tenantId = tenant)
      (hversion : row.version = 1) (hrunnable : row.Runnable) :
      Does tenant s (.create w) (.ok (some v)) { s.insertWorkflow row with given := s.given + 1, outage }
  | updates (changes : WorkflowChanges) (v : WorkflowView τ) (row : WorkflowRow τ)
      (f : WorkflowRow τ → WorkflowRow τ) (outage : Option Outage)
      (hrow : s.workflow? row.id = some row) (htenant : row.tenantId = tenant)
      (hf : WorkflowRow.Revises f) (hversion : ∀ r, (f r).version = Workflows.nextVersion row.version) :
      Does tenant s (.update row.id changes) (.ok (some v)) { s.changeWorkflow row.id f with outage }
  | enables (enabled : Bool) (v : WorkflowView τ) (row : WorkflowRow τ)
      (f : WorkflowRow τ → WorkflowRow τ) (outage : Option Outage)
      (hrow : s.workflow? row.id = some row) (htenant : row.tenantId = tenant)
      (hf : WorkflowRow.Revises f) (hversion : ∀ r, (f r).version = r.version)
      (henabled : ∀ r, (f r).enabled = enabled) :
      Does tenant s (.setEnabled row.id enabled) (.ok (some v))
        { s.changeWorkflow row.id f with outage }
  | deletes (row : WorkflowRow τ) (outage : Option Outage) (hrow : s.workflow? row.id = some row)
      (htenant : row.tenantId = tenant) :
      Does tenant s (.delete row.id) (.ok none) { s.removeWorkflow row.id with outage }
  | instantiates (templateId : String) (u : TemplateUse) (v : WorkflowView τ) (row : WorkflowRow τ)
      (outage : Option Outage) (hid : row.id = idOf (s.given + 1)) (htenant : row.tenantId = tenant)
      (hversion : row.version = 1) (hrunnable : row.Runnable) (hdisabled : row.enabled = false)
      (htemplate : row.isTemplate = false) (hfrom : row.templateId = some templateId) :
      Does tenant s (.instantiate templateId u) (.ok (some v))
        { s.insertWorkflow row with given := s.given + 1, outage }
  /-- The store goes out of order before the new workflow has the mark of its template. -/
  | breaks (templateId : String) (u : TemplateUse) (fault : StoreFault) (row : WorkflowRow τ)
      (outage : Option Outage) (hid : row.id = idOf (s.given + 1)) (htenant : row.tenantId = tenant)
      (hversion : row.version = 1) (hrunnable : row.Runnable) (hdisabled : row.enabled = false)
      (htemplate : row.isTemplate = false) :
      Does tenant s (.instantiate templateId u) (.error (.store fault))
        { s.insertWorkflow row with given := s.given + 1, outage }

/-- That the store was used before makes no difference. -/
theorem Does.used {tenant : String} {s s' : Store τ} {c : Change}
    {result : Except Failed (Option (WorkflowView τ))} {outage : Option Outage}
    (h : c.Does tenant { s with outage } result s') : c.Does tenant s result s' := by
  cases h with
  | fails _ failure given outage hgiven => exact .fails c failure given outage hgiven
  | creates w v row outage hid htenant hversion hrunnable =>
    exact .creates w v row outage hid htenant hversion hrunnable
  | updates changes v row f outage hrow htenant hf hversion =>
    exact .updates changes v row f outage hrow htenant hf hversion
  | enables enabled v row f outage hrow htenant hf hversion henabled =>
    exact .enables enabled v row f outage hrow htenant hf hversion henabled
  | deletes row outage hrow htenant => exact .deletes row outage hrow htenant
  | instantiates templateId u v row outage hid htenant hversion hrunnable hdisabled htemplate hfrom =>
    exact .instantiates templateId u v row outage hid htenant hversion hrunnable hdisabled htemplate
      hfrom
  | breaks templateId u fault row outage hid htenant hversion hrunnable hdisabled htemplate =>
    exact .breaks templateId u fault row outage hid htenant hversion hrunnable hdisabled htemplate

/-- The runs stay as they are. -/
theorem Does.runs {tenant : String} {s s' : Store τ} {c : Change}
    {result : Except Failed (Option (WorkflowView τ))} (h : c.Does tenant s result s') :
    s'.runs = s.runs := by
  cases h <;> rfl

end Change

/-! ## What requests do -/

namespace WorkflowRow

/-- A row with the parts of another definition. -/
def holding (r : WorkflowRow τ) (d : Definition) (version : Int) (user : String) (now : Time.Stamp) :
    WorkflowRow τ :=
  { r with
    name := d.name, description := d.description, category := d.category.name
    tags := .texts d.tags, triggerKind := d.trigger.kind.name
    triggerConfig := triggerConfigOf d.trigger, actions := actionsOf d.actions
    vars := .object (d.vars.mapValues .text), version
    updatedBy := some user, updatedAt := some now.naiveUtc }

theorem holding_keeps (r : WorkflowRow τ) (d : Definition) (version : Int) (user : String)
    (now : Time.Stamp) : (r.holding d version user now).Keeps d :=
  ⟨rfl, rfl, rfl, rfl, rfl, rfl, rfl, rfl⟩

/-- A new row with the mark of its template. -/
def marked (r : WorkflowRow τ) (templateId : String) (now : Time.Stamp) : WorkflowRow τ :=
  { r with templateId := some templateId, updatedAt := some now.naiveUtc }

/-- What keeps the parts of a definition can be run as well. -/
theorem Runnable.congr {r r' : WorkflowRow τ} (h : r.Runnable)
    (hkeeps : ∀ d : Definition, r.Keeps d → r'.Keeps d) : r'.Runnable := by
  obtain ⟨d, hd, hvalid, hk⟩ := h
  exact ⟨d, hd, hvalid, hkeeps d hk⟩

end WorkflowRow

/-- All workflows can be run. -/
def Store.Runnable (s : Store τ) : Prop := ∀ r ∈ s.workflows, r.Runnable

namespace Workflows

open Operation

variable {s s' : Store τ} {tenant user : String} {now : Time.Stamp}

/-- A row that can be run is viewed. -/
theorem viewed_ok {row : WorkflowRow τ} (hrow : s.workflow? row.id = some row) (h : row.Runnable) :
    ∃ v, (viewed row.id).run s = (.ok v, s) ∧ v.id = row.id := by
  obtain ⟨d, hd, -⟩ := h.definition
  obtain ⟨v, hview⟩ : ∃ v, row.view = .ok v := by
    unfold WorkflowRow.view
    rw [hd]
    exact ⟨_, rfl⟩
  have hrun : (viewed row.id).run s = (.ok v, s) := by
    unfold viewed
    have hget : (get : Operation τ (Store τ)).run s = (.ok s, s) := rfl
    have hfound : (found (some row) (.noWorkflow row.id) : Operation τ _) = pure row := rfl
    rw [run_bind, hget]
    dsimp only
    rw [hrow, hfound, pure_bind, hview]
    rfl
  obtain ⟨result, hviewed, hid⟩ := viewed_run row.id s
  rw [hrun] at hviewed
  cases hviewed
  exact ⟨v, hrun, hid v rfl⟩

theorem stored_eq_ok {n m : Int} (h : stored n = .ok m) : n = m := by
  unfold stored at h
  split at h
  · exact Except.ok.inj h
  · cases h

/-- What is committed is viewed, if the row can then be run, or the store refuses it. -/
theorem commit_viewed (id : String) {g : Store τ → Except StoreFault (Store τ)}
    {Q : Store τ → Prop} (hg : ∀ outage s', g { s with outage } = .ok s' →
      Q s' ∧ ∃ row, s'.workflow? id = some row ∧ row.Runnable) :
    (∃ v s', Q s' ∧ (commit g >>= fun _ => viewed id).run s = (.ok v, s')) ∨
    ∃ fault outage, (commit g >>= fun _ => viewed id).run s
      = (.error (.store fault), { s with outage }) := by
  rcases commit_bind_cases g (viewed id) s with ⟨outage, s', hs', hrun⟩ |
    ⟨outage, fault, -, hrun⟩ | ⟨message, hrun⟩ <;> rw [hrun]
  · obtain ⟨hQ, row, hrow, hrunnable⟩ := hg outage s' hs'
    obtain rfl := Store.workflow?_id hrow
    obtain ⟨v, hviewed, -⟩ := viewed_ok hrow hrunnable
    exact .inl ⟨v, s', hQ, hviewed⟩
  · exact .inr ⟨fault, outage, rfl⟩
  · exact .inr ⟨.outage message, s.outage, rfl⟩

/-- A row that is changed is found, and it can be run as before. -/
theorem changed_runnable {row : WorkflowRow τ} {f : WorkflowRow τ → WorkflowRow τ}
    (hrow : s.workflow? row.id = some row) (hf : WorkflowRow.Revises f) (h : (f row).Runnable)
    (outage : Option Outage) : ∃ r, ({ s.changeWorkflow row.id f with outage } : Store τ).workflow? row.id
      = some r ∧ r.Runnable :=
  ⟨f row, Store.workflow?_change hf.id hrow, h⟩

/-- A row that was just inserted is the only one to change under its id. -/
theorem change_insert {row : WorkflowRow τ} (hnew : s.workflow? row.id = none)
    (f : WorkflowRow τ → WorkflowRow τ) :
    (s.insertWorkflow row).changeWorkflow row.id f = s.insertWorkflow (f row) := by
  have hother : ∀ r ∈ s.workflows, r.id ≠ row.id := by
    simpa [Store.workflow?] using hnew
  have hsame : (s.workflows.map fun r => if r.id = row.id then f r else r) = s.workflows :=
    (List.map_congr_left fun r hr => if_neg (hother r hr)).trans (List.map_id' _)
  simp [Store.changeWorkflow, Store.insertWorkflow, hsame]

/-- An operation does what a request can do, on stores of which something holds. -/
def Performs {α : Type} (P : Store τ → Prop) (tenant : String) (c : Change)
    (answer : α → Option (WorkflowView τ)) (op : Operation τ α) : Prop :=
  ∀ s, P s → c.Does tenant s ((op.run s).1.map answer) (op.run s).2

section Performs

variable {α : Type} {P : Store τ → Prop} {c : Change} {answer : α → Option (WorkflowView τ)}

theorem performs_throw (failure : Failed) :
    Performs P tenant c answer (throw failure : Operation τ α) :=
  fun s _ => .fails c failure s.given s.outage (Nat.le_refl _)

theorem performs_bind {β : Type} {op : Operation τ β} {f : β → Operation τ α} (h : op.Quiet)
    (hP : ∀ s outage, P s → P { s with outage })
    (hf : ∀ b, Performs P tenant c answer (f b)) : Performs P tenant c answer (op >>= f) := by
  intro s hs
  obtain ⟨outage, hfirst⟩ := h s
  rw [run_bind]
  rcases hop : op.run s with ⟨failure | b, s'⟩ <;> rw [hop] at hfirst <;> obtain rfl := hfirst
  · exact .fails c failure s.given outage (Nat.le_refl _)
  · exact (hf b _ (hP s outage hs)).used

/-- The operation on a workflow goes on with the row that is stored, which can be run. -/
theorem owned_performs {id : String} {f : WorkflowRow τ → Operation τ α}
    (h : ∀ row : WorkflowRow τ, row.id = id → row.tenantId = tenant → row.Runnable →
      Performs (·.workflow? row.id = some row) tenant c answer (f row)) :
    Performs Store.Runnable tenant c answer (owned id tenant >>= f) := by
  intro s hs
  rw [run_bind]
  rcases owned_cases id tenant s with ⟨row, outage, hrun, hrow, htenant⟩ | ⟨failure, outage, hrun⟩ <;>
    rw [hrun]
  · have hid := Store.workflow?_id hrow
    have hrunnable := hs row (List.mem_of_find?_eq_some hrow)
    exact (h row hid htenant hrunnable { s with outage } (hid.symm ▸ hrow)).used
  · exact .fails c failure s.given outage (Nat.le_refl _)

theorem commit_performs {g : Store τ → Except StoreFault (Store τ)} {id : String}
    (hg : ∀ s outage s', P s → g { s with outage } = .ok s' →
      (∀ v, c.Does tenant s (.ok (some v)) s') ∧ ∃ row, s'.workflow? id = some row ∧ row.Runnable) :
    Performs P tenant c some (commit g >>= fun _ => viewed id) := by
  intro s hs
  rcases commit_viewed id fun outage s' => hg s outage s' hs with ⟨v, s', hdoes, hrun⟩ |
    ⟨fault, outage, hrun⟩ <;> rw [hrun]
  · exact hdoes v
  · exact .fails c (.store fault) s.given outage (Nat.le_refl _)

end Performs

theorem create_performs {w : NewWorkflow} (hw : w.definition.WellFormed) :
    Performs Store.Runnable tenant (.create w) some
      (create w tenant user now : Operation τ (WorkflowView τ)) := by
  intro s _
  rcases create_cases w tenant user now s with ⟨failure, given, outage, hgiven, hrun⟩ |
    ⟨row, outage, hvalid, hnew, hrow, hrun⟩ <;> rw [hrun]
  · exact .fails _ failure given outage hgiven
  · have hrunnable : row.Runnable := ⟨_, hw, hvalid, hrow ▸ w.row_keeps ..⟩
    obtain ⟨v, hviewed, -⟩ := viewed_ok
      (s := { s.insertWorkflow row with given := s.given + 1, outage })
      (Store.workflow?_insert hnew) hrunnable
    rw [hviewed]
    subst hrow
    exact .creates w v _ outage rfl rfl rfl hrunnable

theorem update_performs {id : String} {changes : WorkflowChanges}
    (hchanges : ∀ d : Definition, d.WellFormed → (changes.apply d).WellFormed) :
    Performs Store.Runnable tenant (.update id changes) some
      (update id changes tenant user now : Operation τ (WorkflowView τ)) := by
  refine owned_performs fun row hid htenant _ => ?_
  subst hid
  rcases definitionOf_cases row with ⟨d, hd, hread⟩ | ⟨failure, hread⟩ <;> rw [hread]
  · rw [pure_bind]
    have hwell := hchanges d (WorkflowRow.definition_ok hd).1
    dsimp only
    rcases judge_cases (τ := τ) (changes.apply d) with ⟨hvalid, hjudged⟩ | ⟨failure, hjudged⟩ <;>
      rw [hjudged]
    · rw [pure_bind]
      refine commit_performs fun s outage s' hrow hs' => ?_
      obtain ⟨version, hversion, hs'⟩ := Except.bind_eq_ok.mp hs'
      obtain rfl := Except.ok.inj hs'
      obtain rfl := stored_eq_ok hversion
      have hrunnable (r : WorkflowRow τ) :
          (r.holding (changes.apply d) (nextVersion row.version) user now).Runnable :=
        ⟨_, hwell, hvalid, r.holding_keeps ..⟩
      have hf : WorkflowRow.Revises fun r : WorkflowRow τ =>
          r.holding (changes.apply d) (nextVersion row.version) user now :=
        ⟨fun _ => rfl, fun _ => rfl, fun _ => rfl, fun r _ => hrunnable r⟩
      exact ⟨fun v => .updates changes v row _ outage hrow htenant hf fun _ => rfl,
        changed_runnable hrow hf (hrunnable row) outage⟩
    · exact performs_throw failure
  · exact performs_throw failure

theorem setEnabled_performs {id : String} {enabled : Bool} :
    Performs Store.Runnable tenant (.setEnabled id enabled) some
      (setEnabled id tenant enabled now : Operation τ (WorkflowView τ)) := by
  refine owned_performs fun row hid htenant hrunnable => ?_
  subst hid
  have hf : WorkflowRow.Revises fun r : WorkflowRow τ =>
      { r with enabled, updatedAt := some now.naiveUtc } :=
    ⟨fun _ => rfl, fun _ => rfl, fun _ => rfl, fun _ h => h.congr fun _ hk => { hk with }⟩
  have hset : Performs (·.workflow? row.id = some row) tenant (.setEnabled row.id enabled) some ((do
      commit fun s => .ok <| s.changeWorkflow row.id fun r =>
        { r with enabled, updatedAt := some now.naiveUtc }
      viewed row.id) : Operation τ (WorkflowView τ)) := by
    refine commit_performs fun s outage s' hrow hs' => ?_
    obtain rfl := Except.ok.inj hs'
    exact ⟨fun v => .enables enabled v row _ outage hrow htenant hf (fun _ => rfl) fun _ => rfl,
      changed_runnable hrow hf (hf.runnable row hrunnable) outage⟩
  cases enabled with
  | false => exact hset
  | true =>
    exact performs_bind (definitionOf_quiet row) (fun _ _ h => h) fun d =>
      performs_bind (judge_quiet d) (fun _ _ h => h) fun _ => hset

theorem delete_performs {id : String} :
    Performs Store.Runnable tenant (.delete id) (fun _ => none)
      (delete id tenant : Operation τ Unit) := by
  refine owned_performs fun row hid htenant _ => ?_
  subst hid
  intro s hrow
  rcases commit_cases (fun s : Store τ => .ok (s.removeWorkflow row.id)) s with
    ⟨outage, s', hs', hrun⟩ | ⟨outage, fault, -, hrun⟩ | ⟨message, hrun⟩ <;> rw [hrun]
  · obtain rfl := Except.ok.inj hs'
    exact .deletes row outage hrow htenant
  · exact .fails _ (.store fault) s.given outage (Nat.le_refl _)
  · exact .fails _ (.store (.outage message)) s.given s.outage (Nat.le_refl _)

/-- A new workflow is looked up once more and linked to its template. -/
def linked (id templateId : String) (now : Time.Stamp) : Operation τ (WorkflowView τ) := do
  let _ ← query fun s => s.workflow? id
  commit fun s => .ok (s.changeWorkflow id (·.marked templateId now))
  viewed id

/-- The mark of its template is added to a row that was just inserted, or the store refuses it. -/
theorem linked_cases {row : WorkflowRow τ} (given : Nat) (outage : Option Outage)
    (templateId : String) (now : Time.Stamp) (hnew : s.workflow? row.id = none)
    (hrunnable : row.Runnable) :
    (∃ v outage', (linked row.id templateId now).run { s.insertWorkflow row with given, outage }
      = (.ok v, { s.insertWorkflow (row.marked templateId now) with given, outage := outage' })) ∨
    ∃ fault outage', (linked row.id templateId now).run { s.insertWorkflow row with given, outage }
      = (.error (.store fault), { s.insertWorkflow row with given, outage := outage' }) := by
  unfold linked
  rw [run_bind]
  rcases query_cases (·.workflow? row.id) ({ s.insertWorkflow row with given, outage } : Store τ) with
    ⟨outage₁, hquery⟩ | ⟨message, hquery⟩ <;> rw [hquery]
  · rcases commit_viewed row.id (s := { s.insertWorkflow row with given, outage := outage₁ })
      (g := fun s => .ok (s.changeWorkflow row.id (·.marked templateId now)))
      (Q := fun s' => ∃ outage',
        s' = { s.insertWorkflow (row.marked templateId now) with given, outage := outage' })
      (fun outage' s' hs' => by
        obtain rfl := Except.ok.inj hs'
        have hchange := congrArg (fun s : Store τ => { s with given, outage := outage' })
          (change_insert hnew (·.marked templateId now))
        have hfound := Store.workflow?_insert (r := row.marked templateId now) hnew
        exact ⟨⟨outage', hchange⟩, row.marked templateId now,
          (congrArg (fun s : Store τ => s.workflow? row.id) hchange).trans hfound,
          hrunnable.congr fun _ hk => { hk with }⟩) with
      ⟨v, s', ⟨outage', rfl⟩, hrun⟩ | ⟨fault, outage', hrun⟩
    · exact .inl ⟨v, outage', hrun⟩
    · exact .inr ⟨fault, outage', hrun⟩
  · exact .inr ⟨.outage message, outage, rfl⟩

theorem instantiate_performs {templateId : String} {u : TemplateUse}
    (hu : ∀ d : Definition, d.WellFormed → (u.workflow d).definition.WellFormed) :
    Performs Store.Runnable tenant (.instantiate templateId u) some
      (instantiate templateId u tenant user now : Operation τ (WorkflowView τ)) := by
  refine performs_bind (query_quiet _) (fun _ _ h => h) fun template? => ?_
  refine performs_bind (found_quiet _ _) (fun _ _ h => h) fun template => ?_
  rcases definitionOf_cases template with ⟨d, hd, hread⟩ | ⟨failure, hread⟩ <;> rw [hread]
  · have hw := hu d (WorkflowRow.definition_ok hd).1
    intro s hs
    change Change.Does tenant s (.instantiate templateId u)
      (((create (u.workflow d) tenant user now >>= fun made =>
        linked made.id templateId now).run s).1.map some)
      ((create (u.workflow d) tenant user now >>= fun made => linked made.id templateId now).run s).2
    rw [run_bind]
    rcases create_cases (u.workflow d) tenant user now s with ⟨failure, given, outage, hgiven, hrun⟩ |
      ⟨row, outage, hvalid, hnew, hrow, hrun⟩ <;> rw [hrun]
    · exact .fails _ failure given outage hgiven
    · have hrunnable : row.Runnable := ⟨_, hw, hvalid, hrow ▸ (u.workflow d).row_keeps ..⟩
      obtain ⟨made, hviewed, hmade⟩ := viewed_ok
        (s := { s.insertWorkflow row with given := s.given + 1, outage })
        (Store.workflow?_insert hnew) hrunnable
      rw [hviewed]
      dsimp only
      rw [hmade]
      rcases linked_cases (s.given + 1) outage templateId now hnew hrunnable with
        ⟨v, outage', hlinked⟩ | ⟨fault, outage', hlinked⟩ <;> rw [hlinked] <;> subst hrow
      · exact .instantiates templateId u v _ outage' rfl rfl rfl
          (hrunnable.congr fun _ hk => { hk with }) rfl rfl rfl
      · exact .breaks templateId u fault _ outage' rfl rfl rfl hrunnable rfl rfl
  · exact performs_throw failure

end Workflows

/-- A request whose data was read does what it can do. -/
theorem Change.operation_does {c : Change} {tenant user : String} {now : Time.Stamp} {s s' : Store τ}
    {result : Except Failed (Option (WorkflowView τ))} (hc : c.Accepted) (hs : s.Runnable)
    (h : (c.operation tenant user now).run s = (result, s')) : c.Does tenant s result s' := by
  have hmap {α : Type} {answer : α → Option (WorkflowView τ)} {op : Operation τ α}
      (hop : Workflows.Performs Store.Runnable tenant c answer op)
      (hrun : (answer <$> op).run s = (result, s')) : c.Does tenant s result s' := by
    have hdoes := hop s hs
    have heq : (answer <$> op).run s = ((op.run s).1.map answer, (op.run s).2) := by
      change (op >>= fun a => pure (answer a)).run s = _
      rw [run_bind]
      rcases op.run s with ⟨failure | a, s₁⟩ <;> rfl
    rw [heq] at hrun
    obtain ⟨rfl, rfl⟩ := Prod.mk.inj hrun
    exact hdoes
  cases c with
  | create w => exact hmap (Workflows.create_performs (NewWorkflow.codec_ensures.accepts hc)) h
  | update id changes =>
    exact hmap (Workflows.update_performs (WorkflowChanges.codec_ensures.accepts hc)) h
  | setEnabled id enabled => exact hmap Workflows.setEnabled_performs h
  | delete id => exact hmap Workflows.delete_performs h
  | instantiate templateId u =>
    exact hmap (Workflows.instantiate_performs (TemplateUse.codec_ensures.accepts hc)) h

/-! ## Any requests -/

/-- The workflow that a request changes as to its definition. -/
def Change.updated? : Change → Option String
  | .update id _ => some id
  | _ => none

/-- How often a workflow was changed by the requests so far, of which some succeeded. -/
def updates (id : String) (log : List (Change × Bool)) : Nat :=
  log.countP fun entry => entry.2 && entry.1.updated? = some id

/-- A store that began without workflows and has served requests of any tenants; of each it is known
whether it succeeded. In between the store may go out of order and come back. -/
inductive Served : List (Change × Bool) → Store τ → Prop where
  | new {s : Store τ} (h : s.workflows = []) : Served [] s
  | outage {log : List (Change × Bool)} {s : Store τ} (outage : Option Outage) (h : Served log s) :
      Served log { s with outage }
  | request {log : List (Change × Bool)} {s s' : Store τ}
      {result : Except Failed (Option (WorkflowView τ))} (c : Change) (tenant user : String)
      (now : Time.Stamp) (h : Served log s) (hc : c.Accepted)
      (hrun : (c.operation tenant user now).run s = (result, s')) :
      Served (log ++ [(c, result.isOk)]) s'

/-- Each workflow can be run and has its changes counted, under an id of its own. -/
structure Store.Counts (s : Store τ) (log : List (Change × Bool)) : Prop where
  runnable : s.Runnable
  versions : ∀ r ∈ s.workflows, r.version = 1 + updates r.id log
  ids : (s.workflows.map (·.id)).Nodup
  gave : ∀ r ∈ s.workflows, s.Gave r.id
  /-- Only what was there has been changed. -/
  logged : ∀ id, updates id log ≠ 0 → s.Gave id

section Counts

variable {s : Store τ} {log : List (Change × Bool)} {c : Change} {succeeded : Bool}

theorem updates_concat (id : String) : updates id (log ++ [(c, succeeded)])
    = updates id log + if succeeded && c.updated? = some id then 1 else 0 := by
  simp [updates, List.countP_append, List.countP_singleton]

theorem updates_other {id : String}
    (h : ¬ (succeeded = true ∧ c.updated? = some id)) :
    updates id (log ++ [(c, succeeded)]) = updates id log := by
  rw [updates_concat, if_neg (by simpa using h)]
  rfl

/-- Nothing but one workflow is counted differently. -/
theorem Store.Counts.idle (h : s.Counts log) {given : Nat} (outage : Option Outage)
    (hgiven : s.given ≤ given) (hlog : ∀ id, updates id (log ++ [(c, succeeded)]) = updates id log) :
    ({ s with given, outage } : Store τ).Counts (log ++ [(c, succeeded)]) where
  runnable := h.runnable
  versions r hr := (hlog r.id).symm ▸ h.versions r hr
  ids := h.ids
  gave r hr := (h.gave r hr).mono hgiven
  logged id hid := (h.logged id (hlog id ▸ hid)).mono hgiven

theorem Store.Counts.insert (h : s.Counts log) {row : WorkflowRow τ} (outage : Option Outage)
    (hid : row.id = idOf (s.given + 1)) (hversion : row.version = 1) (hrunnable : row.Runnable)
    (hlog : ∀ id, updates id (log ++ [(c, succeeded)]) = updates id log) :
    ({ s.insertWorkflow row with given := s.given + 1, outage } : Store τ).Counts
      (log ++ [(c, succeeded)]) := by
  have hfresh : ¬ s.Gave row.id := hid ▸ Store.not_gave (Nat.lt_succ_self _)
  have hnever : updates row.id log = 0 := by
    by_contra hne
    exact hfresh (h.logged _ hne)
  have hmono {id : String} (hgave : s.Gave id) :
      ({ s.insertWorkflow row with given := s.given + 1, outage } : Store τ).Gave id :=
    hgave.mono (Nat.le_succ _)
  refine ⟨?_, ?_, ?_, ?_, fun id hne => hmono (h.logged id (hlog id ▸ hne))⟩
  · exact List.forall_mem_append.mpr ⟨h.runnable, List.forall_mem_singleton.mpr hrunnable⟩
  · refine List.forall_mem_append.mpr ⟨fun r hr => (hlog r.id).symm ▸ h.versions r hr, ?_⟩
    exact List.forall_mem_singleton.mpr (by rw [hlog, hnever, hversion]; rfl)
  · change ((s.workflows ++ [row]).map (·.id)).Nodup
    rw [List.map_append, List.nodup_append]
    refine ⟨h.ids, List.nodup_singleton _, fun id hold id' hnew => ?_⟩
    obtain ⟨r, hr, rfl⟩ := List.mem_map.mp hold
    obtain rfl := List.mem_singleton.mp hnew
    intro heq
    have hsame : r.id = row.id := heq
    exact hfresh (hsame ▸ h.gave r hr)
  · refine List.forall_mem_append.mpr ⟨fun r hr => hmono (h.gave r hr), ?_⟩
    exact List.forall_mem_singleton.mpr ⟨s.given + 1, Nat.le_refl _, hid⟩

theorem Store.Counts.change (h : s.Counts log) {row : WorkflowRow τ}
    {f : WorkflowRow τ → WorkflowRow τ} (outage : Option Outage)
    (hrow : s.workflow? row.id = some row) (hf : WorkflowRow.Revises f)
    (hversion : (f row).version = 1 + updates row.id (log ++ [(c, succeeded)]))
    (hlog : ∀ id, id ≠ row.id → updates id (log ++ [(c, succeeded)]) = updates id log) :
    ({ s.changeWorkflow row.id f with outage } : Store τ).Counts (log ++ [(c, succeeded)]) := by
  have hmem : row ∈ s.workflows := List.mem_of_find?_eq_some hrow
  have hid (r : WorkflowRow τ) : (if r.id = row.id then f r else r).id = r.id := by
    split
    · exact hf.id r
    · rfl
  refine ⟨?_, ?_, ?_, ?_, fun id hne => ?_⟩
  · intro r' hr'
    obtain ⟨r, hr, rfl⟩ := List.mem_map.mp hr'
    split
    · exact hf.runnable r (h.runnable r hr)
    · exact h.runnable r hr
  · intro r' hr'
    obtain ⟨r, hr, rfl⟩ := List.mem_map.mp hr'
    rw [hid]
    split
    · rename_i hsame
      obtain rfl := List.inj_on_of_nodup_map h.ids hr hmem hsame
      exact hversion
    · rename_i hother
      rw [hlog _ hother]
      exact h.versions r hr
  · have hids : (s.changeWorkflow row.id f).workflows.map (·.id) = s.workflows.map (·.id) := by
      simp only [Store.changeWorkflow, List.map_map]
      exact List.map_congr_left fun r _ => hid r
    exact hids ▸ h.ids
  · intro r' hr'
    obtain ⟨r, hr, rfl⟩ := List.mem_map.mp hr'
    rw [hid]
    exact h.gave r hr
  · by_cases hsame : id = row.id
    · exact hsame ▸ h.gave row hmem
    · exact h.logged id (hlog id hsame ▸ hne)

theorem Store.Counts.remove (h : s.Counts log) (id : String) (outage : Option Outage)
    (hlog : ∀ id, updates id (log ++ [(c, succeeded)]) = updates id log) :
    ({ s.removeWorkflow id with outage } : Store τ).Counts (log ++ [(c, succeeded)]) where
  runnable r hr := h.runnable r (List.mem_of_mem_filter hr)
  versions r hr := (hlog r.id).symm ▸ h.versions r (List.mem_of_mem_filter hr)
  ids := h.ids.sublist (List.filter_sublist.map _)
  gave r hr := h.gave r (List.mem_of_mem_filter hr)
  logged id hid := h.logged id (hlog id ▸ hid)

/-- What a request does is counted. -/
theorem Change.Does.counts {tenant : String} {s' : Store τ}
    {result : Except Failed (Option (WorkflowView τ))} (h : c.Does tenant s result s')
    (hs : s.Counts log) : s'.Counts (log ++ [(c, result.isOk)]) := by
  cases h with
  | fails _ failure given outage hgiven =>
    exact hs.idle outage hgiven fun _ => updates_other (by rintro ⟨⟨⟩, -⟩)
  | creates w v row outage hid _ hversion hrunnable =>
    exact hs.insert outage hid hversion hrunnable fun _ => updates_other (by rintro ⟨-, ⟨⟩⟩)
  | updates changes v row f outage hrow _ hf hversion =>
    refine hs.change outage hrow hf ?_ fun id hne => updates_other ?_
    · have hold := hs.versions row (List.mem_of_find?_eq_some hrow)
      rw [hversion, updates_concat, if_pos (by simp [Except.isOk, Except.toBool, updated?])]
      unfold Workflows.nextVersion
      push_cast
      split <;> omega
    · rintro ⟨-, hsame⟩
      exact hne (Option.some.inj hsame).symm
  | enables enabled v row f outage hrow _ hf hversion _ =>
    refine hs.change outage hrow hf ?_ fun _ _ => updates_other (by rintro ⟨-, ⟨⟩⟩)
    rw [hversion, updates_other (by rintro ⟨-, ⟨⟩⟩)]
    exact hs.versions row (List.mem_of_find?_eq_some hrow)
  | deletes row outage _ _ =>
    exact hs.remove row.id outage fun _ => updates_other (by rintro ⟨-, ⟨⟩⟩)
  | instantiates templateId u v row outage hid _ hversion hrunnable _ _ _ =>
    exact hs.insert outage hid hversion hrunnable fun _ => updates_other (by rintro ⟨-, ⟨⟩⟩)
  | breaks templateId u fault row outage hid _ hversion hrunnable _ _ =>
    exact hs.insert outage hid hversion hrunnable fun _ => updates_other (by rintro ⟨⟨⟩, -⟩)

/-- What was served is counted. -/
theorem Served.counts (h : Served log s) : s.Counts log := by
  induction h with
  | @new s h =>
    have hnone : ∀ r, r ∉ s.workflows := by simp [h]
    exact ⟨fun r hr => absurd hr (hnone r), fun r hr => absurd hr (hnone r), by simp [h],
      fun r hr => absurd hr (hnone r), fun id hne => absurd rfl hne⟩
  | outage outage _ ih => exact ⟨ih.runnable, ih.versions, ih.ids, ih.gave, ih.logged⟩
  | request c tenant user now _ hc hrun ih =>
    exact (Change.operation_does hc ih.runnable hrun).counts ih

end Counts

/-- The store only holds workflows that can be run, each with its first version and one more for each
change that was made to it. A request that fails leaves all rows as they were; only where the store
goes out of order behind the first of two steps, a new workflow has been stored without the mark of
its template. A template makes one more workflow, which is disabled and no template. -/
theorem Served.workflows_runnable {log : List (Change × Bool)} {s : Store τ} (h : Served log s) :
    (∀ r ∈ s.workflows, (∃ d, r.definition = .ok d ∧ d.Valid) ∧ r.version = 1 + updates r.id log) ∧
    ∀ (c : Change) (tenant user : String) (now : Time.Stamp) (s' : Store τ)
      (result : Except Failed (Option (WorkflowView τ))), c.Accepted →
      (c.operation tenant user now).run s = (result, s') →
      s'.runs = s.runs ∧
      (∀ failure, result = .error failure → s'.workflows = s.workflows ∨
        ∃ templateId u fault, c = .instantiate templateId u ∧ failure = .store fault) ∧
      ∀ templateId u, c = .instantiate templateId u → result.isOk = true →
        ∃ row, s'.workflows = s.workflows ++ [row] ∧ row.tenantId = tenant ∧ row.enabled = false ∧
          row.isTemplate = false ∧ row.templateId = some templateId := by
  have hcounts := h.counts
  refine ⟨fun r hr => ⟨?_, hcounts.versions r hr⟩, fun c tenant user now s' result hc hrun => ?_⟩
  · obtain ⟨d, hd, -, hvalid⟩ := (hcounts.runnable r hr).definition
    exact ⟨d, hd, hvalid⟩
  · have hdoes := Change.operation_does hc hcounts.runnable hrun
    refine ⟨hdoes.runs, fun failure hfailed => ?_, fun templateId u hmade hok => ?_⟩
    · subst hfailed
      cases hdoes with
      | fails => exact .inl rfl
      | breaks templateId u fault => exact .inr ⟨templateId, u, fault, rfl, rfl⟩
    · subst hmade
      cases hdoes with
      | fails => cases hok
      | breaks => cases hok
      | instantiates _ _ v row outage _ htenant _ _ hdisabled htemplate hfrom =>
        exact ⟨row, rfl, htenant, hdisabled, htemplate, hfrom⟩

/-! ### A template that is used -/

/-- A template that waits for an hour. -/
def NewWorkflow.reminder : NewWorkflow where
  name := "Reminder"
  trigger := { kind := .manual }
  actions := [{ id := "wait", work := .delay { duration := 1, unit := .hours } }]
  isTemplate := true

/-- One tenant makes the template, and another one makes a workflow of it, which it then renames. -/
def reminderRequests : List (String × Change) :=
  [("tenant-1", .create .reminder), ("tenant-2", .instantiate (idOf 1) {}),
   ("tenant-2", .update (idOf 2) { name := some "Follow up" })]

/-- A store with a request served. -/
def serve (s : Store Float) (request : String × Change) : Store Float :=
  ((request.2.operation request.1 "user-1" (.ofInstant 0)).run s).2

/-- The store behind these requests. -/
def reminderStore : Store Float := reminderRequests.foldl serve {}

theorem reminderStore_served : ∃ log, Served log reminderStore ∧ updates (idOf 1) log = 0 ∧
    updates (idOf 2) log = 1 := by
  have hmade := (Served.new (s := ({} : Store Float)) rfl).request (.create .reminder) "tenant-1"
    "user-1" (.ofInstant 0) ⟨NewWorkflow.codec.write .wire .reminder, rfl⟩ rfl
  have hcopied := hmade.request (.instantiate (idOf 1) {}) "tenant-2" "user-1" (.ofInstant 0)
    ⟨TemplateUse.codec.write .wire {}, rfl⟩ rfl
  have hrenamed := hcopied.request (.update (idOf 2) { name := some "Follow up" }) "tenant-2" "user-1"
    (.ofInstant 0) ⟨WorkflowChanges.codec.write .wire { name := some "Follow up" }, rfl⟩ rfl
  exact ⟨_, hrenamed, by decide +kernel, by decide +kernel⟩

/-- Both workflows can be run, the second one with its second version, and the tenant of the template
cannot delete it. -/
theorem reminderStore_runnable : ∃ log, Served log reminderStore ∧
    (∀ r ∈ reminderStore.workflows,
      (∃ d, r.definition = .ok d ∧ d.Valid) ∧ r.version = 1 + updates r.id log) ∧
    reminderStore.workflows.map (fun r => (r.id, r.version, r.enabled)) =
      [(idOf 1, 1, false), (idOf 2, 2, false)] ∧
    (serve reminderStore ("tenant-1", .delete (idOf 2))).workflows = reminderStore.workflows := by
  obtain ⟨log, hserved, -, -⟩ := reminderStore_served
  obtain ⟨hrows, hnext⟩ := hserved.workflows_runnable
  obtain ⟨-, hfails, -⟩ := hnext (.delete (idOf 2)) "tenant-1" "user-1" (.ofInstant 0) _ _ trivial rfl
  have hrefused : (((Change.delete (idOf 2)).operation "tenant-1" "user-1" (.ofInstant 0)).run
      reminderStore).1.isOk = false := by
    decide +kernel
  refine ⟨log, hserved, hrows, by decide +kernel, ?_⟩
  cases hanswer : (((Change.delete (idOf 2)).operation "tenant-1" "user-1" (.ofInstant 0)).run
      reminderStore).1 with
  | ok v => rw [hanswer] at hrefused; cases hrefused
  | error failure =>
    rcases hfails failure hanswer with hsame | ⟨templateId, u, fault, hother, -⟩
    · exact hsame
    · cases hother

end Automation
