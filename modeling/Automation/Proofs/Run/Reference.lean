import Automation.Proofs.Run.Story

/-!
# References between nodes

A walk of a definition without problems is asked for nodes that are there. There is one exception:
the checks take an empty id after a node for no reference at all, and the walk takes it for one. A
run that comes behind such a node ends in a surprise, and no other run does for want of a node.
-/

namespace Automation

variable {τ : Type} [ActiveTime τ] {e : Engine} {s s' : RunState τ} {t : List Exchange}
  {d : Definition}

/-! ## What is asked for -/

/-- The id of the node that a walk is asked to visit. -/
def Errand.asks : Errand → Option String
  | .enter target _ => some target
  | .leave => none
  | .go next _ _ => next

/-- An id that the walk of a definition can be asked for: that of a node, or the empty one behind a
node that is said to have it next. -/
def Definition.Leads (d : Definition) (id : String) : Prop :=
  id ∈ d.nodeIds ∨ (id = "" ∧ ∃ n ∈ d.actions, n.nextAction = some "")

namespace Engine

omit [ActiveTime τ] in
/-- The walks inside a node begin at nodes that its work refers to. -/
theorem proceed_targets {n : Node} {c : Context} {top : Bool} {started : Nat}
    {inner : List (String × Entries Value)} (h : e.proceed n c top started = .ok inner) :
    ∀ walk ∈ inner, walk.1 ∈ n.work.targets := by
  unfold proceed at h
  split at h <;> rename_i hwork <;> rw [hwork]
  · obtain rfl := Except.ok.inj h
    exact List.forall_mem_nil _
  · rename_i b
    obtain rfl := Except.ok.inj h
    intro walk hwalk
    obtain ⟨target, htarget, rfl⟩ := List.mem_map.mp hwalk
    unfold Branch.side at htarget
    split at htarget
    · exact List.mem_append_left _ htarget
    · exact List.mem_append_right _ htarget
  · rename_i l
    obtain rfl := Except.ok.inj h
    intro walk hwalk
    obtain ⟨inner, -, rfl⟩ := List.mem_map.mp hwalk
    exact List.mem_singleton_self l.actionId
  · obtain ⟨_, -, rfl⟩ := Except.map_eq_ok.mp h
    exact List.forall_mem_nil _

/-- What a visit leads to is how the run goes on at the node. -/
theorem visit_inner {n : Node} {locals : Entries Value} {top : Bool}
    {inner : List (String × Entries Value)}
    (h : (e.visit n locals top).Course s t (.ok inner) s') :
    ∃ started, e.proceed n { s.context with locals } top started = .ok inner := by
  obtain ⟨started, t', rfl, ⟨x, -, hr, _⟩ | ⟨o, _, _, hr, _⟩⟩ := visit_cases h
  · cases hr
  · obtain ⟨_, -, hproceed⟩ := Except.bind_eq_ok.mp hr.symm
    exact ⟨started, hproceed⟩

/-- What an errand leads to asks for what the definition leads to. -/
theorem step_leads {errand : Errand} {more : List Errand} (hd : d.Sound) (hs : s.workflow = d)
    (hasks : ∀ id ∈ errand.asks, d.Leads id) (h : (e.step errand).Course s t (.ok more) s') :
    ∀ x ∈ more, ∀ id ∈ x.asks, d.Leads id := by
  cases step_cases h with
  | entered target locals hd =>
    refine List.forall_mem_cons.mpr ⟨hasks, List.forall_mem_singleton.mpr ?_⟩
    rintro id ⟨⟩
  | left | ended => exact List.forall_mem_nil _
  | @visited id n locals top t₁ t₂ inner s' hn hb hv =>
    obtain ⟨started, hproceed⟩ := visit_inner hv
    rw [hs] at hn
    have hnode := (Definition.node?_some hn).1
    intro x hx id' hid'
    rcases List.mem_append.mp hx with hx | hx
    · obtain ⟨walk, hwalk, rfl⟩ := List.mem_map.mp hx
      cases hid'
      exact .inl (hd.work_known hnode (proceed_targets hproceed walk hwalk))
    · obtain rfl := List.mem_singleton.mp hx
      -- Only for the next node do the checks and the walk not take the same ids for references.
      rcases hd.next_known hnode hid' with hknown | rfl
      · exact .inl hknown
      · exact .inr ⟨rfl, n, hnode, hid'⟩

end Engine

namespace Definition

/-- No node has the empty id, so exactly the other ids that are asked for are those of nodes. -/
theorem Leads.count_eq_one_iff {id : String} (h : d.Leads id) (hd : d.Sound) (hwell : d.WellFormed) :
    d.nodeIds.count id = 1 ↔ id ≠ "" := by
  constructor
  · rintro hcount rfl
    have hmem : "" ∈ d.nodeIds := List.count_pos_iff.mp (by omega)
    obtain ⟨n, hn, hid⟩ := List.mem_map.mp hmem
    have hlength := (hwell.nodes n hn).id
    rw [hid] at hlength
    simp at hlength
  · intro hne
    rcases h with hknown | ⟨rfl, _⟩
    · exact hd.count_eq_one hknown
    · exact absurd rfl hne

theorem Leads.node?_eq_none_iff {id : String} (h : d.Leads id) (hd : d.Sound)
    (hwell : d.WellFormed) : d.node? id = none ↔ id = "" := by
  constructor
  · intro hnone
    by_contra hne
    have hcount := (h.count_eq_one_iff hd hwell).mpr hne
    obtain ⟨n, hn⟩ := node?_of_mem (List.count_pos_iff.mp (by omega : 0 < d.nodeIds.count id))
    rw [hn] at hnone
    cases hnone
  · rintro rfl
    by_contra hsome
    obtain ⟨n, hn⟩ := Option.ne_none_iff_exists'.mp hsome
    obtain ⟨hmem, hid⟩ := node?_some hn
    have hcount := (h.count_eq_one_iff hd hwell).mp
      (hd.count_eq_one (hid ▸ List.mem_map_of_mem hmem))
    exact hcount rfl

end Definition

namespace Engine

/-- A node is missing exactly where the empty id is asked for. -/
theorem step_missing {errand : Errand} {r : Except Halt (List Errand)} (hd : d.Sound)
    (hwell : d.WellFormed) (hs : s.workflow = d) (hasks : ∀ id ∈ errand.asks, d.Leads id)
    (h : (e.step errand).Course s t r s') :
    (∃ id, r = .error (.surprise (.noNode id))) ↔
      ∃ locals top, errand = .go (some "") locals top := by
  have hfound : ∀ {id : String} {n : Node} {locals : Entries Value} {top : Bool},
      s.workflow.node? id = some n → d.Leads id →
        ¬∃ locals' top', Errand.go (some id) locals top = .go (some "") locals' top' := by
    rintro id n locals top hn hleads ⟨_, _, ⟨⟩⟩
    rw [hs, (hleads.node?_eq_none_iff hd hwell).mpr rfl] at hn
    cases hn
  cases step_cases h with
  | tooDeep | entered | left | ended => simp
  | missing locals top hn =>
    rw [hs] at hn
    simp [((hasks _ rfl).node?_eq_none_iff hd hwell).mp hn]
  | stopped locals top hn hb =>
    refine iff_of_false ?_ (hfound hn (hasks _ rfl))
    rintro ⟨missing, ⟨⟩⟩
    cases hb
  | halted hn hb hv =>
    refine iff_of_false ?_ (hfound hn (hasks _ rfl))
    rintro ⟨missing, ⟨⟩⟩
    obtain ⟨started, t', rfl, ⟨x, hx, hr, _⟩ | ⟨o, _, _, _, hr⟩⟩ := visit_cases hv
    · cases hr
      exact hx
    · exact hr _ rfl
  | visited hn hb hv => exact iff_of_false (by rintro ⟨missing, ⟨⟩⟩) (hfound hn (hasks _ rfl))

/-- In a segment of a definition that begins at an id the definition leads to, only such ids are
asked for, and so they are where the run goes on after a suspension. -/
theorem segment_leads {g : Segment τ} (hd : d.Sound) (hg : e.DoesSegment g)
    (hworkflow : g.before.workflow = d) (hstart : ∀ id ∈ g.start, d.Leads id) :
    (∀ p ∈ g.log, p.before.workflow = d ∧ ∀ id ∈ p.errand.asks, d.Leads id) ∧
      ∀ next resumeAt, g.result = .error (.suspended next resumeAt) →
        ∀ suspended woken, (g.after.revive suspended woken).workflow = d ∧
          ∀ id ∈ next, d.Leads id := by
  obtain ⟨hafter, hlog⟩ := hg.passes.all_errands (P := fun errand => ∀ id ∈ errand.asks, d.Leads id)
    (step_leads hd) hworkflow (List.forall_mem_singleton.mpr hstart)
  refine ⟨hlog, fun next resumeAt hr suspended woken => ⟨hafter, fun id hid => ?_⟩⟩
  have hpasses := hg.passes
  rw [hr] at hpasses
  obtain ⟨-, _, n, hn, rfl⟩ := hpasses.suspended
  rw [hworkflow] at hn
  have hnode := (Definition.node?_some hn).1
  rcases hd.next_known hnode hid with hknown | rfl
  · exact .inl hknown
  · exact .inr ⟨rfl, n, hnode, hid⟩

theorem story_leads [ActiveTime.Storable τ] {event : Event} {runId : String}
    {story : List (Segment τ)} (hwell : d.WellFormed) (hd : d.Sound) (hevent : event.Storable)
    (h : e.Story d event runId story) :
    ∀ g ∈ story, ∀ p ∈ g.log, e.Does p ∧ p.before.workflow = d ∧
      ∀ id ∈ p.errand.asks, d.Leads id := by
  obtain ⟨entry, reading, hentry, hreading, hchain⟩ := h
  refine hchain.all
    (J := fun s start => s.workflow = d ∧ ∀ id ∈ start, d.Leads id)
    (Q := fun g => ∀ p ∈ g.log, e.Does p ∧ p.before.workflow = d ∧
      ∀ id ∈ p.errand.asks, d.Leads id)
    (fun g hg _ hj => ?_) (opening_settled hwell hevent hreading) ⟨rfl, ?_⟩
  · obtain ⟨hlog, hnext⟩ := segment_leads hd hg hj.1 hj.2
    exact ⟨fun p hp => ⟨(hg.passes.mem hp).1, hlog p hp⟩, hnext⟩
  · rintro id ⟨⟩
    exact .inl (List.mem_map_of_mem (Definition.entry?_mem hentry))

/-- In every run of a definition without problems, in all of its segments, each id that is asked
for is that of exactly one node, but for the empty id behind a node that has it next. Only there a
node is missing. -/
theorem asked_once_iff [ActiveTime.Storable τ] {σ : Type} [Schema.Source σ] {x y : σ}
    {event : Event} {runId : String} (hd : Definition.codec.read x = .ok d) (hvalid : d.Valid)
    (hevent : Event.codec.read y = .ok event) :
    (∀ t results, e.OnCalendar t → e.Stored (e.run d event runId) t results →
      ∃ story : List (Segment τ), e.Story d event runId story ∧
        List.Forall₂ Segment.Tells story results ∧ Exchange.deeds t = Segment.deeds story) ∧
      ∀ story : List (Segment τ), e.Story d event runId story → ∀ g ∈ story, ∀ p ∈ g.log,
        (∀ id ∈ p.errand.asks, (d.nodeIds.count id = 1 ↔ id ≠ "") ∧
          (id = "" → ∃ n ∈ d.actions, n.nextAction = some "")) ∧
        ((∃ id, p.result = .error (.surprise (.noNode id))) ↔
          ∃ locals top, p.errand = .go (some "") locals top) := by
  have hwell := Definition.codec_ensures.of_read x d hd
  have hstorable := Event.codec_ensures.of_read y event hevent
  have hsound := hvalid.sound
  refine ⟨fun t results ht h => stored_story hwell hvalid hstorable ht h, ?_⟩
  intro story hstory g hg p hp
  obtain ⟨hdoes, hworkflow, hasks⟩ := story_leads hwell hsound hstorable hstory g hg p hp
  refine ⟨fun id hid => ?_, step_missing hsound hwell hworkflow hasks hdoes⟩
  have hcount := (hasks id hid).count_eq_one_iff hsound hwell
  refine ⟨hcount, fun hempty => ?_⟩
  rcases hasks id hid with hknown | ⟨-, hnext⟩
  · exact absurd hempty (hcount.mp (hsound.count_eq_one hknown))
  · exact hnext

end Engine

/-! ## A pause with an empty id after it -/

/-- A definition of one pause of no length and an id after it. -/
def Definition.pauseBefore (next : String) : Definition where
  name := "Pause"
  trigger := { kind := .callCompleted }
  actions :=
    [{ id := "wait", nextAction := some next, work := .delay { duration := 0, unit := .minutes } }]

namespace Engine

/-- An engine whose clock starts with the year 1970, and that has no one to ask. -/
def alone : Engine := { origin := 0, places := ⟨""⟩, watchesAborts := false }

theorem pauseBefore_wellFormed (next : String) : (Definition.pauseBefore next).WellFormed where
  name_ne := show 1 ≤ "Pause".length by decide
  name_le := show "Pause".length ≤ 255 by decide
  trigger := by rintro _ ⟨⟩
  nodes := by
    refine List.forall_mem_singleton.mpr ⟨show 1 ≤ "wait".length by decide, ?_⟩
    change (!((0 : Float) < 0)) = true
    decide

theorem pauseBefore_asked_once :
    let d := Definition.pauseBefore ""
    Definition.codec.read (Definition.codec.write .wire d) = .ok d ∧ d.Valid ∧
      Event.codec.read (Event.codec.write .wire .manual) = .ok .manual ∧
      ∃ story : List (Segment Float), alone.Story d .manual "run-1" story ∧
        ∀ g ∈ story, ∀ p ∈ g.log, ∀ id ∈ p.errand.asks, d.nodeIds.count id = 1 ↔ id ≠ "" := by
  intro d
  have hread : Definition.codec.read (Definition.codec.write .wire d) = .ok d :=
    (Definition.codec_restores (pauseBefore_wellFormed "")).read
  have hvalid : d.Valid := by decide +kernel
  have hevent : Event.codec.read (Event.codec.write .wire .manual) = .ok .manual :=
    (Event.codec_restores (by rintro _ ⟨⟩)).read
  refine ⟨hread, hvalid, hevent, ?_⟩
  obtain ⟨hruns, hstories⟩ := asked_once_iff (e := alone) (τ := Float) hread hvalid hevent
  let dialogue : Dialogue (Except Escape (RunResult Float)) := alone.run d .manual "run-1"
  have hstored := Stored.last (e := alone) (Dialogue.course_answered Dialogue.still dialogue)
  have hcalendar := OnCalendar.of_world (e := alone)
    (show Dialogue.still .clock = (0 : Nat) from rfl) (by decide)
    fun x hx => Dialogue.answered_mem (d := dialogue) hx
  obtain ⟨story, hstory, -⟩ := hruns _ _ hcalendar hstored
  exact ⟨story, hstory, fun g hg p hp id hid => ((hstories story hstory g hg p hp).1 id hid).1⟩

/-- A run of a definition without problems can end for want of a node: its walk is asked for an id
of none. -/
theorem pauseBefore_missing :
    (Definition.pauseBefore "").Valid ∧ (Definition.pauseBefore "").nodeIds.count "" = 0 ∧
      (∃ (t : List Exchange) (told : RunResult Float),
        alone.Stored (alone.run (Definition.pauseBefore "") .manual "run-1") t [.ok told] ∧
        told.error = some "Unexpected error: ''") ∧
      ∃ story : List (Segment Float), alone.Story (Definition.pauseBefore "") .manual "run-1" story ∧
        ∃ g ∈ story, ∃ p ∈ g.log, p.errand.asks = some "" ∧
          p.result = .error (.surprise (.noNode "")) := by
  refine ⟨by decide +kernel, by decide +kernel, ?_, ?_⟩
  · let dialogue : Dialogue (Except Escape (RunResult Float)) :=
      alone.run (Definition.pauseBefore "") .manual "run-1"
    have herror : (dialogue.answered Dialogue.still).2.toOption.map (·.error)
        = some (some "Unexpected error: ''") := by
      decide +kernel
    obtain ⟨told, htold, herror⟩ := Option.map_eq_some_iff.mp herror
    have hcourse := Dialogue.course_answered Dialogue.still dialogue
    rw [Except.toOption_eq_some.mp htold] at hcourse
    exact ⟨_, told, .last hcourse, herror⟩
  · let s : RunState Float := alone.opening (Definition.pauseBefore "") .manual "run-1" 0
    have hplayed : (alone.play Dialogue.still 2 [.go (some "wait") [] true] s).map
        (fun (log, r, _) => (log.map fun p => (p.errand, p.result), r))
        = some ([(.go (some "wait") [] true, .ok [.go (some "") [] true]),
            (.go (some "") [] true, .error (.surprise (.noNode "")))],
          .error (.surprise (.noNode ""))) := by
      decide +kernel
    obtain ⟨⟨log, r, s'⟩, hplay, heq⟩ := Option.map_eq_some_iff.mp hplayed
    have hclock : Dialogue.still .clock = (0 : Nat) := rfl
    have hentry : Definition.entry? (Definition.pauseBefore "") = some _ := rfl
    have hstory := Story.of_play hentry hclock (by decide) hplay
    have hlog := (Prod.mk.inj heq).1
    obtain ⟨p, hp, hpass⟩ := List.mem_map.mp (hlog ▸ List.mem_cons_of_mem _ List.mem_cons_self)
    obtain ⟨herrand, hr⟩ := Prod.mk.inj hpass
    exact ⟨_, hstory, _, List.mem_singleton_self _, p, hp, congrArg Errand.asks herrand, hr⟩

end Engine

end Automation
