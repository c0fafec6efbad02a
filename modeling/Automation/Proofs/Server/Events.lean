import Automation.Proofs.Server.Books

/-!
# Runs that events start

The workflows that an event may start are looked up by the column that holds the kind of their
trigger, and only those are read and compared with the event. Nothing is lost in this way as long as
the column tells the truth: the same runs are started as if every enabled workflow of the tenant had
been compared with the event (`Server.dispatchEvent_complete`).
-/

namespace Automation

open Schema Schema.Fields

variable {τ : Type}

/-! ## The column of kinds -/

/-- A name keeps its value if no change gives it another one. -/
theorem Entries.get?_merge {α : Type} {name : String} {a : α} {entries changes : Entries α}
    (h : entries.get? name = some a) (hchanges : ∀ b, (name, b) ∈ changes → b = a) :
    (entries.merge changes).get? name = some a := by
  induction changes generalizing entries with
  | nil => exact h
  | cons change changes ih =>
    obtain ⟨key, b⟩ := change
    refine ih ?_ fun b hb => hchanges b (.tail _ hb)
    rw [get?_set]
    split
    · rename_i hkey
      rw [hchanges b (hkey ▸ List.mem_cons_self)]
    · exact h

/-- A field with one name is found where the name is. -/
theorem Schema.FieldName.find?_plain (name : String) (fields : Entries Value) :
    (plain name).find? (fields.map fun (key, v) => (Key.name key, v))
      = (fields.get? name).map (name, ·) := by
  have hnamed : find?.named (fields.map fun (key, v) => (Key.name key, v)) name
      = (fields.get? name).map (name, ·) := by
    induction fields with
    | nil => rfl
    | cons field fields ih =>
      obtain ⟨key, v⟩ := field
      unfold find?.named at ih ⊢
      rw [List.map_cons, List.findSome?_cons, Entries.get?_cons]
      by_cases hkey : key = name
      · simp [hkey]
      · simpa [hkey] using ih
  unfold find? plain
  rw [hnamed]
  cases fields.get? name <;> rfl

/-- What a name is read as has that name. -/
theorem Schema.Codec.ofName?_of_read {α : Type} {names : List String} {ofName? : String → Option α}
    {name : α → String} {s : String} {a : α}
    (h : (Codec.choice names ofName? name).read (Value.text s) = .ok a) : ofName? s = some a := by
  cases hs : ofName? s with
  | none => simp [Codec.choice, Source.shape, valueShape, hs, Checked.fail] at h
  | some found => simpa [Codec.choice, Source.shape, valueShape, hs] using h

/-- A trigger has the kind that it was read with. -/
theorem Trigger.kind_of_read {fields : Entries Value} {kind : String} {t : Trigger}
    (hkind : fields.get? "type" = some (.text kind))
    (h : Trigger.codec.read (Value.object fields) = .ok t) : t.kind.name = kind := by
  obtain ⟨f, schedule, hf, -, rfl⟩ := reads_seq.mp h
  obtain ⟨g, conditions, hg, -, rfl⟩ := reads_seq.mp hf
  obtain ⟨k, hk, rfl⟩ := reads_map.mp hg
  have hfound := FieldName.find?_plain "type" fields
  rw [hkind] at hfound
  simp only [Reads, Fields.required, hfound, Option.map_some, Checked.under_eq_ok] at hk
  simpa using List.find?_some (Codec.ofName?_of_read hk)

/-- A definition has the trigger that it was read with. -/
theorem Definition.trigger_of_read {fields : Entries Value} {trigger : Value} {d : Definition}
    (htrigger : fields.get? "trigger" = some trigger)
    (h : Definition.codec.read (Value.object fields) = .ok d) :
    Trigger.codec.read trigger = .ok d.trigger := by
  obtain ⟨_, body, hids, hbody, rfl⟩ := reads_seq.mp h
  simp only [bodyFields, reads_seq, reads_map] at hids hbody
  obtain ⟨_, _, ⟨_, -, rfl⟩, -, rfl⟩ := hids
  obtain ⟨_, _, ⟨_, _, ⟨_, _, ⟨_, _, ⟨_, _, ⟨_, t, ⟨_, _, ⟨_, _, ⟨_, -, rfl⟩, -, rfl⟩, -, rfl⟩, ht,
    rfl⟩, -, rfl⟩, -, rfl⟩, -, rfl⟩, -, rfl⟩, -, rfl⟩ := hbody
  have hfound := FieldName.find?_plain "trigger" fields
  rw [htrigger] at hfound
  simpa only [Reads, Fields.required, hfound, Option.map_some, Checked.under_eq_ok] using ht

namespace WorkflowRow

variable {r : WorkflowRow τ} {d : Definition}

/-- The configuration of a trigger names no other kind than the column of its row. -/
def NamesOneKind (r : WorkflowRow τ) : Prop :=
  ∀ config, r.triggerConfig = .object config → ∀ kind, ("type", kind) ∈ config →
    kind = .text r.triggerKind

/-- The column of a row is the kind of the trigger that is read from it. -/
theorem NamesOneKind.kind (h : r.NamesOneKind) (hd : r.definition = .ok d) :
    d.trigger.kind.name = r.triggerKind := by
  obtain ⟨data, hdata, hread⟩ := definition_eq_ok.mp hd
  obtain ⟨trigger, htrigger, rfl⟩ := Except.map_eq_ok.mp hdata
  have hread := Definition.trigger_of_read rfl hread
  unfold triggerData at htrigger
  split at htrigger
  · rename_i config hconfig
    cases htrigger
    refine Trigger.kind_of_read (Entries.get?_merge (a := Value.text r.triggerKind) rfl fun kind hkind => ?_) hread
    -- What counts as nothing has no entries.
    unfold orElse at hconfig
    split at hconfig
    · cases hconfig
      cases hkind
    · exact h config hconfig kind hkind
  · cases htrigger

/-- A row that keeps a definition has the kind of its trigger in the column alone. -/
theorem Keeps.namesOneKind (h : r.Keeps d) : r.NamesOneKind := by
  intro config hconfig kind hkind
  rw [h.triggerConfig] at hconfig
  cases hconfig
  exact absurd rfl (of_decide_eq_true (List.mem_filter.mp hkind).2)

theorem Runnable.namesOneKind (h : r.Runnable) : r.NamesOneKind := by
  obtain ⟨d, -, -, hkeeps⟩ := h
  exact hkeeps.namesOneKind

end WorkflowRow

/-! ## The workflows that an event concerns -/

/-- The definition of a row, if it is an enabled workflow of a tenant that an event starts. Templates
are never started, and the empty tenant stands for all. -/
def WorkflowRow.startedOn (r : WorkflowRow τ) (tenant : String) (event : Event) :
    Option Definition :=
  if r.enabled = true ∧ r.isTemplate = false ∧ (tenant = "" ∨ r.tenantId = tenant) then
    r.definition.toOption.filter (·.startsOn event)
  else none

/-- The workflows of a tenant that an event starts, each with its definition, in the order of the
store. -/
def Store.concerned (s : Store τ) (tenant : String) (event : Event) :
    List (WorkflowRow τ × Definition) :=
  s.workflows.filterMap fun r => (r.startedOn tenant event).map (r, ·)

theorem Definition.startsOn_kind {d : Definition} {event : Event} (h : d.startsOn event = true) :
    d.trigger.kind.name = event.type := by
  simp only [Definition.startsOn, Trigger.accepts, Bool.and_eq_true, beq_iff_eq] at h
  exact h.2.1.2.symm

theorem wanted_iff {filter s : String} : wanted filter s = true ↔ filter = "" ∨ s = filter := by
  simp [wanted, String.isEmpty_iff]

namespace Store

variable {s : Store τ} {tenant : String} {event : Event}

/-- Whoever looks among the rows with the wanted kinds finds all that are concerned, if none of these
has another kind. -/
theorem filter_wanted {kind : String}
    (h : ∀ r ∈ s.workflows, ∀ d, r.definition = .ok d → d.startsOn event = true →
      wanted kind r.triggerKind = true) :
    ((s.workflows.filter fun r => r.enabled && !r.isTemplate && wanted tenant r.tenantId
        && wanted kind r.triggerKind).filterMap (·.definition.toOption)).filter (·.startsOn event)
      = (s.concerned tenant event).map (·.2) := by
  rw [List.filterMap_filter, List.filter_filterMap, concerned, List.map_filterMap]
  refine List.filterMap_congr fun r hr => ?_
  have hscan : (r.enabled && !r.isTemplate && wanted tenant r.tenantId) = true ↔
      r.enabled = true ∧ r.isTemplate = false ∧ (tenant = "" ∨ r.tenantId = tenant) := by
    simp [wanted_iff, and_assoc]
  rw [Option.map_map, WorkflowRow.startedOn]
  by_cases hin : r.enabled = true ∧ r.isTemplate = false ∧ (tenant = "" ∨ r.tenantId = tenant)
  · rw [if_pos hin, hscan.mpr hin, Bool.true_and]
    cases hd : r.definition.toOption with
    | none => simp
    | some d =>
      by_cases hstarts : d.startsOn event = true
      · simp [h r hr d (Except.toOption_eq_some.mp hd) hstarts]
      · split <;> simp [Option.filter, hstarts]
  · rw [if_neg hin, Bool.eq_false_iff.mpr (mt hscan.mp hin)]
    simp

/-- The definitions that are found have the ids of their rows. -/
theorem concerned_ids (s : Store τ) (tenant : String) (event : Event) :
    ((s.concerned tenant event).map (·.2)).filterMap (·.id)
      = (s.concerned tenant event).map (·.1.id) := by
  have hid : ∀ w ∈ s.concerned tenant event, w.2.id = some w.1.id := by
    intro w hw
    obtain ⟨r, -, hr⟩ := List.mem_filterMap.mp hw
    obtain ⟨d, hd, rfl⟩ := Option.map_eq_some_iff.mp hr
    unfold WorkflowRow.startedOn at hd
    split at hd
    · obtain ⟨hd, -⟩ := Option.filter_eq_some_iff.mp hd
      exact (WorkflowRow.definition_ok (Except.toOption_eq_some.mp hd)).2.1
    · cases hd
  rw [List.filterMap_map]
  exact (List.filterMap_congr hid).trans (congrFun List.filterMap_eq_map _)

end Store

/-! ## Runs that are started -/

/-- A task is about to start a run of a workflow in the background. -/
structure Task.Starts [ActiveTime τ] (t : Task τ) (s : Server τ) (d : Dispatcher) (w : Definition)
    (e : Event) : Prop where
  kind : t.kind = .background
  dispatcher : t.dispatcher = d
  workflow : t.workflow = w
  event : t.event = e
  started : t.started = false
  wakesAt : t.wakesAt = s.elapsed
  rest : t.rest = (s.engine d).run w e t.runId

namespace Server

variable [ActiveTime τ] {s : Server τ} {d : Dispatcher} {event : Event}

/-- Runs that are started get the next ids. -/
theorem spawns_run (s : Server τ) (d : Dispatcher) (event : Event) (workflows : List Definition) :
    ∃ started s', (workflows.mapM fun workflow => Service.spawn d workflow event).run s
        = (.ok (started.map (·.runId)), s') ∧
      s'.tasks = s.tasks ++ started ∧
      List.Forall₂ (fun workflow (t : Task τ) => t.Starts s d workflow event) workflows started ∧
      started.map (·.runId) = (List.range' (s.store.given + 1) workflows.length).map idOf ∧
      s'.store = { s.store with given := s.store.given + workflows.length } := by
  -- Each run leaves the server to the next one with one more task and one more id given.
  induction workflows generalizing s with
  | nil => exact ⟨[], s, rfl, (List.append_nil _).symm, .nil, rfl, rfl⟩
  | cons workflow workflows ih =>
    let t : Task τ := {
      number := s.turns, kind := .background, dispatcher := d, runId := idOf (s.store.given + 1)
      workflow, event, started := false, wakesAt := s.elapsed, turn := s.turns
      rest := (s.engine d).run workflow event (idOf (s.store.given + 1)) }
    let s₁ : Server τ :=
      { s with
        store := { s.store with given := s.store.given + 1 }, turns := s.turns + 1
        tasks := s.tasks ++ [t] }
    have hspawn : (Service.spawn d workflow event).run s = (.ok t.runId, s₁) := rfl
    obtain ⟨started, s', hspawns, htasks, hstarts, hids, hstore⟩ := ih s₁
    refine ⟨t :: started, s', ?_, ?_, .cons ⟨rfl, rfl, rfl, rfl, rfl, rfl, rfl⟩ ?_, ?_, ?_⟩
    · rw [List.mapM_cons, run_bind, hspawn]
      dsimp only
      rw [run_bind, hspawns]
      rfl
    · rw [htasks, List.append_assoc, List.singleton_append]
    · exact hstarts.imp fun _ _ h => ⟨h.kind, h.dispatcher, h.workflow, h.event, h.started, h.wakesAt,
        h.rest⟩
    · rw [List.map_cons, hids, List.length_cons, List.range'_succ, List.map_cons]
    · rw [hstore, List.length_cons, Nat.add_comm workflows.length, ← Nat.add_assoc]

omit [ActiveTime τ] in
/-- The definitions that are found, if the store can be asked. -/
theorem enabledDefinitions_run {store : Store τ} (hquery : (store.use .query).1 = .ok ())
    (tenant kind : String) :
    ∃ outage, (Workflows.enabledDefinitions tenant kind).run store
      = (.ok ((store.workflows.filter fun r => r.enabled && !r.isTemplate
            && wanted tenant r.tenantId && wanted kind r.triggerKind).filterMap
          (·.definition.toOption)), { store with outage }) := by
  unfold Workflows.enabledDefinitions
  rcases Operation.query_cases (fun s : Store τ => (s.workflows.filter fun r =>
      r.enabled && !r.isTemplate && wanted tenant r.tenantId && wanted kind r.triggerKind).filterMap
        (·.definition.toOption)) store with ⟨outage, hrun⟩ | ⟨message, hrun⟩
  · exact ⟨outage, hrun⟩
  · have huse : (Operation.use .query : Operation τ Unit).run store
        = (.ok (), (store.use .query).2) := by
      change ((store.use .query).1.mapError Failed.store, (store.use .query).2) = _
      rw [hquery]
      rfl
    unfold Operation.query at hrun
    rw [run_bind, huse] at hrun
    cases hrun

/-- An event starts exactly one run for each workflow that it concerns, each under an id of its own
that was never given, and it changes no row. -/
structure Dispatches (s : Server τ) (d : Dispatcher) (tenant : String) (event : Event)
    (answer : Dispatched) (s' : Server τ) : Prop where
  tasks : ∃ started, s'.tasks = s.tasks ++ started ∧
    List.Forall₂ (fun (w : WorkflowRow τ × Definition) (t : Task τ) => t.Starts s d w.2 event)
      (s.store.concerned tenant event) started ∧
    answer.runIds = started.map (·.runId)
  distinct : answer.runIds.Nodup
  fresh : ∀ id ∈ answer.runIds, ¬ s.store.Gave id
  eventType : answer.eventType = event.type
  matched : answer.workflows = (s.store.concerned tenant event).map (·.1.id)
  workflows : s'.store.workflows = s.store.workflows
  runs : s'.store.runs = s.store.runs

omit [ActiveTime τ] in
/-- Looking up the workflows by the column of kinds loses none of those that an event starts. -/
theorem enabledDefinitions_filter {store : Store τ} (hquery : (store.use .query).1 = .ok ())
    (hkinds : ∀ r ∈ store.workflows, r.NamesOneKind) (tenant : String) (event : Event) :
    ((Workflows.enabledDefinitions tenant event.type).run store).1.map
        (List.filter (·.startsOn event))
      = .ok ((store.concerned tenant event).map (·.2)) := by
  obtain ⟨outage, hfind⟩ := enabledDefinitions_run hquery tenant event.type
  rw [hfind]
  -- What the event starts has the kind of the event, and so has the column of its row.
  refine congrArg Except.ok (Store.filter_wanted fun r hr w hw hstarts => wanted_iff.mpr (.inr ?_))
  exact ((hkinds r hr).kind hw).symm.trans (Definition.startsOn_kind hstarts)

theorem dispatchEvent_run (d : Dispatcher) (tenant : String) (event : Event)
    (hquery : (s.store.use .query).1 = .ok ())
    (hkinds : ∀ r ∈ s.store.workflows, r.NamesOneKind) :
    ∃ answer s', (Service.dispatchEvent d tenant event).run s = (.ok answer, s') ∧
      s.Dispatches d tenant event answer s' := by
  have hfilter := enabledDefinitions_filter hquery hkinds tenant event
  obtain ⟨outage, hfind⟩ := enabledDefinitions_run hquery tenant event.type
  rw [hfind] at hfilter
  have hfilter := Except.ok.inj hfilter
  let s₁ : Server τ := { s with store := { s.store with outage } }
  obtain ⟨started, s', hspawns, htasks, hstarts, hids, hstore⟩ :=
    spawns_run s₁ d event ((s.store.concerned tenant event).map (·.2))
  have hdispatch : (Service.dispatchEvent d tenant event).run s
      = (.ok { eventType := event.type, runIds := started.map (·.runId)
               workflows := ((s.store.concerned tenant event).map (·.2)).filterMap (·.id) }, s') := by
    unfold Service.dispatchEvent
    rw [Service.store_bind_run, hfind]
    dsimp only
    rw [hfilter, run_bind, hspawns]
    rfl
  refine ⟨_, s', hdispatch, ⟨started, htasks, ?_, rfl⟩, ?_, ?_, rfl,
    s.store.concerned_ids tenant event, by rw [hstore], by rw [hstore]⟩
  · exact (List.forall₂_map_left_iff.mp hstarts).imp fun _ _ h =>
      ⟨h.kind, h.dispatcher, h.workflow, h.event, h.started, h.wakesAt, h.rest⟩
  · rw [hids]
    exact (List.nodup_range' (h := Nat.one_pos)).map idOf_injective
  · intro id hid
    rw [hids] at hid
    obtain ⟨count, hcount, rfl⟩ := List.mem_map.mp hid
    exact Store.not_gave (Nat.lt_of_succ_le (List.mem_range'_1.mp hcount).1)

/-- For every store that can be asked and in which no row hides the kind of its trigger, and for
every event of whatever type: looking up the workflows by the column of kinds and comparing only
these with the event finds what comparing all enabled workflows finds, and a run is started for each
of them and for no other. -/
theorem dispatchEvent_complete (s : Server τ) (d : Dispatcher) (tenant : String) (event : Event)
    (hquery : (s.store.use .query).1 = .ok ())
    (hkinds : ∀ r ∈ s.store.workflows, r.NamesOneKind) :
    (∃ answer s', (Service.dispatchEvent d tenant event).run s = (.ok answer, s') ∧
      s.Dispatches d tenant event answer s') ∧
    ((Workflows.enabledDefinitions tenant event.type).run s.store).1.map
        (List.filter (·.startsOn event))
      = ((Workflows.enabledDefinitions tenant "").run s.store).1.map
        (List.filter (·.startsOn event)) := by
  refine ⟨dispatchEvent_run d tenant event hquery hkinds, ?_⟩
  rw [enabledDefinitions_filter hquery hkinds]
  obtain ⟨outage, hall⟩ := enabledDefinitions_run hquery tenant ""
  rw [hall]
  exact (congrArg Except.ok (Store.filter_wanted fun _ _ _ _ _ => rfl)).symm

variable [RunningMean τ]

/-- The row of a run that is told of is in the store. -/
theorem Standing.row_of_told (h : s.Standing) {t : Task τ} {others : List (Task τ)}
    (htasks : s.tasks.Perm (t :: others)) (hstarted : t.started = true) {talk : List Exchange}
    {told : RunResult τ} (hrest : t.rest.Course talk (.ok told)) :
    ∃ x, s.store.run? told.runId = some x := by
  have htask := (h.beside htasks).task
  obtain ⟨e, htells, -⟩ := htask.tells hrest
  obtain ⟨-, -, x, hx, -⟩ := htask.started hstarted
  exact ⟨x, htells.id ▸ hx⟩

/-- Whatever happens to a server that stands, its workflows can still be run. -/
theorem Moves.runnable {s₀ s : Server τ} {log : List (Noted τ)} (h : s₀.Moves log s)
    (h₀ : s₀.Standing) (hrunnable : ∀ r ∈ s₀.store.workflows, r.Runnable) :
    ∀ r ∈ s.store.workflows, r.Runnable := by
  induction h with
  | start => exact hrunnable
  | @move _ _ s s' h hmove _ ih =>
    have hstanding := (h.proceeds h₀).standing
    have hsame {store : Store τ} (hstore : store.workflows = s.store.workflows) :
        ∀ r ∈ store.workflows, r.Runnable := hstore ▸ ih
    cases hmove with
    | idles given outage hgiven hstore => exact hsame (by rw [hstore])
    | edits tenant hstore => exact hstore.runnable ih
    | joins t e row outage hstore => exact hsame (by rw [hstore])
    | starts t others now hstarted htasks hrun =>
      obtain ⟨x, outage, -, -, hstore⟩ := Runs.start_ok hrun
      exact hsame (by rw [hstore]; rfl)
    | waits t others talk rest wakesAt turn hstarted htasks hclock hrest hstore =>
      exact hsame (by rw [hstore])
    | fails t others hfails htasks =>
      cases hfails with
      | refused now hstarted hrun =>
        obtain ⟨fault, outage, -, hstore, -⟩ := Runs.start_error hrun
        exact hsame (by rw [hstore])
      | escaped talk cause hstarted hclock hrest hstore => exact hsame (by rw [hstore])
      | unrecorded talk told now hstarted hrest hrun =>
        obtain ⟨x, hx⟩ := hstanding.row_of_told htasks hstarted hrest
        obtain ⟨fault, outage, -, -, hstore⟩ := Runs.record_error hx hrun
        exact hsame (by rw [hstore])
    | records t others talk told now hstarted htasks hclock hrest hrun =>
      obtain ⟨x, hx⟩ := hstanding.row_of_told htasks hstarted hrest
      obtain ⟨outage, hstore⟩ := Runs.record_ok hx hrun
      rw [hstore]
      exact Runs.recorded_runnable ih
    | resumes t e id c hjob hqueue hworkflow hstore => exact hsame (by rw [hstore])
    | loses id c hjob hqueue hunread hstore => exact hsame (by rw [hstore])

/-- What tenants store hides no kinds: whatever happens to a server on which nothing has happened,
every event starts the runs that it should. -/
theorem History.dispatches {s₀ s : Server τ} {log : List (Noted τ)} (h₀ : s₀.New)
    (h : s₀.History log s) (hquery : (s.store.use .query).1 = .ok ()) (d : Dispatcher)
    (tenant : String) (event : Event) :
    ∃ answer s', (Service.dispatchEvent d tenant event).run s = (.ok answer, s') ∧
      s.Dispatches d tenant event answer s' := by
  have hnone : ∀ r ∈ s₀.store.workflows, r.Runnable := by simp [h₀.workflows]
  exact dispatchEvent_run d tenant event hquery fun r hr =>
    (h.moves.runnable h₀.standing hnone r hr).namesOneKind

/-- A call has ended. -/
def callEnded : Event := { type := TriggerKind.callCompleted.name }

/-- The workflow has another kind of trigger in its configuration than in its column. -/
def pauseHidden : Server ℚ :=
  { pauseMade with store := pauseMade.store.changeWorkflow (idOf 1) fun r =>
      { r with triggerConfig := .object [("type", .text TriggerKind.callCompleted.name)] } }

/-- An event starts no run of a workflow whose kind is hidden, though it is a readable, enabled
workflow of the tenant that the event starts. And on behalf of no tenant, the workflows of all
tenants are started. -/
theorem dispatchEvent_misses_hidden :
    pauseHidden.store.outage = none ∧
    (pauseHidden.store.workflows.map fun r => (r.enabled, r.isTemplate, r.tenantId,
      r.definition.toOption.map (·.startsOn callEnded))) = [(true, false, "tenant-1", some true)] ∧
    ((Service.dispatchEvent {} "tenant-1" callEnded).run pauseHidden).1.toOption.map (·.runIds)
      = some [] ∧
    ((Service.dispatchEvent {} "tenant-1" callEnded).run pauseHidden).2.tasks.map (·.runId) = [] ∧
    pauseMade.store.workflows.map (·.tenantId) = ["tenant-1"] ∧
    ((Service.dispatchEvent {} "" .manual).run pauseMade).1.toOption.map (·.runIds)
      = some [idOf 2] := by
  decide +kernel

theorem dispatchEvent_complete_pause :
    (pauseMade.store.use .query).1 = .ok () ∧
    (∀ r ∈ pauseMade.store.workflows, r.NamesOneKind) ∧
    (pauseMade.store.concerned "tenant-1" .manual).map (·.1.id) = [idOf 1] ∧
    ∃ answer s', (Service.dispatchEvent {} "tenant-1" .manual).run pauseMade = (.ok answer, s') ∧
      pauseMade.Dispatches {} "tenant-1" .manual answer s' := by
  have hrow : pauseMade.store.workflows
      = [NewWorkflow.pause.row (idOf 1) "tenant-1" "user-1" exact.now.naiveUtc] := by decide +kernel
  have houtage : pauseMade.store.outage = none := by decide +kernel
  have hquery : (pauseMade.store.use .query).1 = .ok () := by simp [Store.use, houtage]
  have hkinds : ∀ r ∈ pauseMade.store.workflows, r.NamesOneKind := by
    rw [hrow]
    rintro _ (_ | ⟨_, ⟨⟩⟩)
    exact (NewWorkflow.row_keeps _ _ _ _ _).namesOneKind
  exact ⟨hquery, hkinds, by decide +kernel,
    (dispatchEvent_complete pauseMade {} "tenant-1" .manual hquery hkinds).1⟩

end Server

end Automation
