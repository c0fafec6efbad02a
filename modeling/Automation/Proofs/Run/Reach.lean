import Automation.Proofs.Definition.Reach
import Automation.Proofs.Run.Record
import Automation.Proofs.Run.Reference

/-!
# Unreachable nodes in runs

A walk goes only where nodes refer to, so all that a run visits is reached by references from the entry.
The nodes that are listed as unreachable therefore leave no result in any run.
-/

namespace Automation

open Relation (ReflTransGen)

variable {τ : Type} [ActiveTime τ] {e : Engine} {s s' : RunState τ} {t : List Exchange}
  {d : Definition} {start : String}

namespace Engine

/-- Whatever an errand leads to, it is asked for where the errand is asked for, or a node there refers
to it. -/
theorem step_refers {errand : Errand} {more : List Errand} (hs : s.workflow = d)
    (h : (e.step errand).Course s t (.ok more) s') :
    ∀ x ∈ more, ∀ id ∈ x.asks, id ∈ errand.asks ∨ ∃ a ∈ errand.asks, d.Refers a id := by
  cases step_cases h with
  | entered target locals hd =>
    refine List.forall_mem_cons.mpr ⟨fun id hid => .inl hid, List.forall_mem_singleton.mpr ?_⟩
    rintro id ⟨⟩
  | left | ended => exact List.forall_mem_nil _
  | @visited id n locals top t₁ t₂ inner s' hn hb hv =>
    obtain ⟨started, hproceed⟩ := visit_inner hv
    rw [hs] at hn
    obtain ⟨hnode, hid⟩ := Definition.node?_some hn
    intro x hx target htarget
    refine .inr ⟨id, rfl, Definition.refers_iff.mpr ⟨n, hnode, hid, ?_⟩⟩
    rcases List.mem_append.mp hx with hx | hx
    · obtain ⟨walk, hwalk, rfl⟩ := List.mem_map.mp hx
      cases htarget
      exact .inr (proceed_targets hproceed walk hwalk)
    · obtain rfl := List.mem_singleton.mp hx
      exact .inl htarget

/-- All results of a state are of nodes that are reached from one. -/
def ReachedFrom (d : Definition) (start : String) (s : RunState τ) : Prop :=
  s.workflow = d ∧ ∀ step ∈ s.stepResults, ReflTransGen d.Refers start step.nodeId

/-- A pass that is asked for what is reached leaves results of what is reached, and leads to what is
reached. -/
theorem Does.reached {p : Pass τ} (h : e.Does p) (hbefore : ReachedFrom d start p.before)
    (hasks : ∀ id ∈ p.errand.asks, ReflTransGen d.Refers start id) :
    ReachedFrom d start p.after ∧ ∀ more, p.result = .ok more →
      ∀ x ∈ more, ∀ id ∈ x.asks, ReflTransGen d.Refers start id := by
  obtain ⟨hworkflow, hsteps⟩ := hbefore
  refine ⟨⟨?_, ?_⟩, fun more hr x hx id hid => ?_⟩
  · exact (step_continues h).workflow.trans hworkflow
  · rcases h.records_cases with ⟨-, ⟨step, _, _, _, n, herrand, hn, hid, -, hadded⟩, -⟩ |
      ⟨-, hsame, -⟩ | ⟨-, hsame, -⟩
    · rw [hadded]
      refine List.forall_mem_append.mpr ⟨hsteps, List.forall_mem_singleton.mpr ?_⟩
      rw [hid]
      exact hasks _ (by rw [herrand]; rfl)
    · rwa [hsame]
    · rwa [hsame]
  · unfold Does at h
    rw [hr] at h
    rcases step_refers hworkflow h x hx id hid with hsame | ⟨a, ha, hrefers⟩
    · exact hasks id hsame
    · exact (hasks a ha).tail hrefers

/-- A segment that begins where a walk can come to has results of such nodes only, and is resumed at
such a node. -/
theorem segment_reached {g : Segment τ} (hg : e.DoesSegment g) (hbefore : ReachedFrom d start g.before)
    (hstart : ∀ id ∈ g.start, ReflTransGen d.Refers start id) :
    ReachedFrom d start g.after ∧ ∀ next resumeAt, g.result = .error (.suspended next resumeAt) →
      ∀ id ∈ next, ReflTransGen d.Refers start id := by
  obtain ⟨hafter, hlog⟩ := hg.passes.all (I := ReachedFrom d start)
    (P := fun errand => ∀ id ∈ errand.asks, ReflTransGen d.Refers start id)
    (fun p hp hbefore hasks => hp.reached hbefore hasks) hbefore (List.forall_mem_singleton.mpr hstart)
  refine ⟨hafter, fun next resumeAt hr id hid => ?_⟩
  have hpasses := hg.passes
  rw [hr] at hpasses
  obtain ⟨pre, p, hlast, hdoes, -, hresult, -⟩ := hpasses.halted_by
  have hp : p ∈ g.log := by rw [hlast]; exact List.mem_append_right _ (List.mem_singleton_self p)
  obtain ⟨⟨hworkflow, -⟩, hasks⟩ := hlog p hp
  unfold Does at hdoes
  rw [hresult] at hdoes
  obtain ⟨-, a, locals, n, -, herrand, hn, -, rfl⟩ := step_suspended hdoes
  rw [hworkflow] at hn
  obtain ⟨hnode, rfl⟩ := Definition.node?_some hn
  exact (hasks _ (by rw [herrand]; rfl)).tail (.next hnode hid)

theorem story_reached [ActiveTime.Storable τ] {event : Event} {runId : String} {entry : Node}
    {story : List (Segment τ)} (hwell : d.WellFormed) (hevent : event.Storable)
    (hentry : d.entry? = some entry) (h : e.Story d event runId story) :
    ∀ g ∈ story, ReachedFrom d entry.id g.after := by
  obtain ⟨first, reading, hfirst, hreading, hchain⟩ := h
  obtain rfl := Option.some.inj (hentry.symm.trans hfirst)
  refine hchain.all
    (J := fun s start => ReachedFrom d entry.id s ∧ ∀ id ∈ start, ReflTransGen d.Refers entry.id id)
    (fun g hg _ hj => ?_) (opening_settled hwell hevent hreading)
    ⟨⟨rfl, fun _ h => absurd h List.not_mem_nil⟩, ?_⟩
  · obtain ⟨hafter, hnext⟩ := segment_reached hg hj.1 hj.2
    exact ⟨hafter, fun next resumeAt hr suspended woken => ⟨hafter, hnext next resumeAt hr⟩⟩
  · rintro id ⟨⟩
    exact .refl

omit [ActiveTime τ] in
/-- Each result is told of a segment. -/
theorem exists_told {story : List (Segment τ)} {results : List (Except Escape (RunResult τ))}
    (h : List.Forall₂ Segment.Tells story results) :
    ∀ result ∈ results, ∃ g ∈ story, g.Tells result := by
  induction h with
  | nil => exact List.forall_mem_nil _
  | cons hfirst _ ih =>
    refine List.forall_mem_cons.mpr ⟨⟨_, List.mem_cons_self, hfirst⟩, fun result hresult => ?_⟩
    obtain ⟨g, hg, htells⟩ := ih result hresult
    exact ⟨g, List.mem_cons_of_mem _ hg, htells⟩

/-- The nodes that are listed as unreachable are, in their order, exactly those that no references lead to
from the entry, and no run has a result of any of them, in whatever segment and whatever it is answered. -/
theorem unreachable_exact [ActiveTime.Storable τ] {σ : Type} [Schema.Source σ] {x y : σ} {event : Event}
    {runId : String} (hd : Definition.codec.read x = .ok d) (hvalid : d.Valid)
    (hevent : Event.codec.read y = .ok event) :
    (∃ entry, d.entry? = some entry ∧ d.unreachable.Sublist d.nodeIds ∧ d.nodeIds.Nodup ∧
      ∀ id, id ∈ d.unreachable ↔ id ∈ d.nodeIds ∧ ¬ ReflTransGen d.Refers entry.id id) ∧
    ∀ (t : List Exchange) (results : List (Except Escape (RunResult τ))),
      e.OnCalendar t → e.Stored (e.run d event runId) t results →
        ∀ result ∈ results, ∃ told, result = .ok told ∧
          ∀ step ∈ told.stepResults, step.nodeId ∉ d.unreachable := by
  have hwell := Definition.codec_ensures.of_read x d hd
  have hstorable := Event.codec_ensures.of_read y event hevent
  have hsound := hvalid.sound
  obtain ⟨entry, hentry⟩ := hsound.exists_entry
  have hmem : ∀ id, id ∈ d.unreachable ↔ id ∈ d.nodeIds ∧ ¬ ReflTransGen d.Refers entry.id id :=
    fun id => Definition.mem_unreachable_iff hsound hwell.empty_not_mem hentry
  refine ⟨⟨entry, hentry, Definition.unreachable_sublist, hsound.ids, hmem⟩, ?_⟩
  intro t results ht h result hresult
  obtain ⟨story, hstory, htold, -⟩ := stored_story hwell hvalid hstorable ht h
  obtain ⟨g, hg, told, rfl, hsteps, -⟩ := exists_told htold result hresult
  refine ⟨told, rfl, fun step hstep hlost => ?_⟩
  exact ((hmem _).mp hlost).2
    ((story_reached hwell hstorable hentry hstory g hg).2 step (hsteps ▸ hstep))

end Engine

/-- A definition of a pause that comes after itself, and of a note from which it can be reached, but
which cannot be reached from it. -/
def Definition.roundabout : Definition where
  name := "Roundabout"
  trigger := { kind := .manual }
  actions :=
    [{ id := "wait", nextAction := some "wait", work := .delay { duration := 0, unit := .minutes } },
     { id := "note", nextAction := some "wait",
       work := .action (.addNote { targetId := "lead-1", text := "lost" }) }]

theorem Definition.roundabout_wellFormed : Definition.roundabout.WellFormed where
  name_ne := show 1 ≤ "Roundabout".length by decide
  name_le := show "Roundabout".length ≤ 255 by decide
  trigger := by rintro _ ⟨⟩
  nodes := by
    have hpause : (Work.delay { duration := 0, unit := .minutes }).WellFormed := by
      change (!((0 : Float) < 0)) = true
      decide
    exact List.forall_mem_cons.mpr ⟨⟨show 1 ≤ "wait".length by decide, hpause⟩,
      List.forall_mem_singleton.mpr ⟨show 1 ≤ "note".length by decide, trivial⟩⟩

/-- From the pause there is only the pause. -/
theorem Definition.roundabout_unreached : Definition.roundabout.unreachable = ["note"] := by
  obtain ⟨pause, hpause, htargets⟩ : ∃ n, Definition.roundabout.node? "wait" = some n ∧
      n.targets = ["wait"] := ⟨_, rfl, rfl⟩
  have hseen : ["wait"].contains "wait" = true := by decide
  have hreach : Definition.roundabout.reach [] ["wait"] = ["wait"] := by
    rw [reach_node rfl hpause, htargets, List.append_nil, reach_seen hseen, reach_nil]
  change Definition.roundabout.nodeIds.filter
    (fun id => !(Definition.roundabout.reach [] ["wait"]).contains id) = _
  rw [hreach]
  decide +kernel

namespace Engine

/-- A run goes round until it has no steps left, and never comes to the note. -/
theorem roundabout_unreachable :
    let d := Definition.roundabout
    let e : Engine := { alone with maxSteps := 3 }
    Definition.codec.read (Definition.codec.write .wire d) = .ok d ∧ d.Valid ∧
      Event.codec.read (Event.codec.write .wire .manual) = .ok .manual ∧
      d.unreachable = ["note"] ∧ ¬ ReflTransGen d.Refers "wait" "note" ∧
      ∃ (t : List Exchange) (told : RunResult Float),
        e.Stored (e.run d .manual "run-1") t [.ok told] ∧
          told.stepResults.map (·.nodeId) = ["wait", "wait", "wait"] ∧
          ∀ step ∈ told.stepResults, step.nodeId ∉ d.unreachable := by
  intro d e
  have hread : Definition.codec.read (Definition.codec.write .wire d) = .ok d :=
    (Definition.codec_restores (d := d) Definition.roundabout_wellFormed).read
  have hvalid : d.Valid := by decide +kernel
  have hevent : Event.codec.read (Event.codec.write .wire .manual) = .ok .manual :=
    (Event.codec_restores (by rintro _ ⟨⟩)).read
  obtain ⟨⟨entry, hentry, -, -, hmem⟩, hruns⟩ :=
    unreachable_exact (e := e) (τ := Float) hread hvalid hevent
  have hlost : d.unreachable = ["note"] := Definition.roundabout_unreached
  let dialogue : Dialogue (Except Escape (RunResult Float)) := e.run d .manual "run-1"
  have hseen : (dialogue.answered Dialogue.still).2.toOption.map
      (fun told => told.stepResults.map (·.nodeId)) = some ["wait", "wait", "wait"] := by
    decide +kernel
  obtain ⟨told, htold, hids⟩ := Option.map_eq_some_iff.mp hseen
  have hcourse := Dialogue.course_answered Dialogue.still dialogue
  have hcalendar := OnCalendar.of_world (e := e) (show Dialogue.still .clock = (0 : Nat) from rfl)
    (by decide) fun x hx => Dialogue.answered_mem (d := dialogue) hx
  rw [Except.toOption_eq_some.mp htold] at hcourse
  obtain ⟨told', htold', hsteps⟩ := hruns _ _ hcalendar (.last hcourse) _ (List.mem_singleton_self _)
  obtain rfl := Except.ok.inj htold'
  obtain rfl : _ = entry := Option.some.inj hentry
  exact ⟨hread, hvalid, hevent, hlost, ((hmem "note").mp (by rw [hlost]; simp)).2, _, told,
    .last hcourse, hids, hsteps⟩

end Engine

end Automation
