import Automation.Proofs.Run.Outputs
import Automation.Proofs.Run.Story
import Automation.Trigger.Matching

/-!
# Fields of events

A trigger asks for a field of an event, and so do the templates of the run that the event starts. The
trigger takes a custom field before one of the payload, and the templates take that of the payload
first. So they see the same field unless the event has two values under its name
(`Engine.field_precedence`).
-/

namespace Automation

/-! ## Maps over maps -/

/-- The second of two maps comes first. -/
theorem Entries.get?_merge_or {α : Type} {name : String} {entries changes : Entries α}
    (h : changes.keys.Nodup) :
    (entries.merge changes).get? name = (changes.get? name).or (entries.get? name) := by
  induction changes generalizing entries with
  | nil => rfl
  | cons change changes ih =>
    obtain ⟨key, b⟩ := change
    obtain ⟨hkey, hchanges⟩ := List.nodup_cons.mp h
    change ((entries.set key b).merge changes).get? name = _
    rw [ih hchanges, get?_set, get?_cons]
    split
    · rename_i heq
      have hnone : get? name changes = none := by
        rw [← Option.not_isSome_iff_eq_none, ← mem_keys, ← heq]
        exact hkey
      rw [hnone]
      rfl
    · rfl

namespace Event

variable {event : Event} {name : String}

/-- No two custom fields have one name, and no two fields of the payload. -/
structure Distinct (event : Event) : Prop where
  custom : event.customFields.keys.Nodup
  payload : event.payload.keys.Nodup

/-- An event has a field beside the attributes that every system knows. -/
def Gives (event : Event) (name : String) : Prop :=
  event.customFields.has name = true ∨ event.payload.has name = true

/-- An event gives two values to one name. -/
def Ambiguous (event : Event) (name : String) : Prop :=
  ∃ v v', event.customFields.get? name = some v ∧ event.payload.get? name = some v' ∧ v ≠ v'

theorem get?_fields (h : event.Distinct) : event.fields.get? name
    = ((event.payload.get? name).or (event.customFields.get? name)).or
        (event.attributes.get? name) := by
  unfold fields
  rw [Entries.get?_merge_or h.payload, Entries.get?_merge_or h.custom, Option.or_assoc]

/-- An attribute does not count under a name that is given. -/
theorem get?_fields_of_gives (h : event.Distinct) (hname : event.Gives name) :
    event.fields.get? name = (event.payload.get? name).or (event.customFields.get? name) := by
  have hsome : ((event.payload.get? name).or (event.customFields.get? name)).isSome = true := by
    rw [Option.isSome_or, Bool.or_comm, Bool.or_eq_true]
    exact hname
  rw [get?_fields h, Option.or_of_isSome hsome]

/-- A trigger and a template see the same, except of a name that has two values. -/
theorem fieldOf_eq_iff (h : event.Distinct) (hname : event.Gives name) :
    TriggerConditions.fieldOf event name = event.fields.get? name ↔ ¬event.Ambiguous name := by
  rw [get?_fields_of_gives h hname]
  unfold TriggerConditions.fieldOf Ambiguous
  cases event.customFields.get? name <;> cases event.payload.get? name <;> simp

/-- An event with two values under one name. -/
def twoCampaigns : Event where
  type := "manual"
  customFields := [("campaign", .text "spring"), ("source", .text "ads")]
  payload := [("campaign", .text "fall"), ("region", .text "west")]

end Event

/-! ## Fields in a run -/

theorem RunState.Continues.event {τ : Type} {s s' : RunState τ} (h : s.Continues s') :
    s'.context.event = s.context.event := by
  obtain ⟨_, _, _, _, _, _, rfl⟩ := h
  rfl

namespace Engine

variable {τ : Type} [ActiveTime τ] [ActiveTime.Storable τ] {e : Engine} {d : Definition}
  {event : Event} {runId : String}

/-- A run is about the event that started it, at each of its passes. -/
theorem Story.keeps_event {story : List (Segment τ)} (hd : d.WellFormed) (hevent : event.Storable)
    (h : e.Story d event runId story) : ∀ g ∈ story, ∀ p ∈ g.log, p.before.context.event = event := by
  obtain ⟨entry, reading, -, hreading, hchain⟩ := h
  refine hchain.all (J := fun s _ => s.context.event = event) (fun g hg _ hbefore => ⟨?_, ?_⟩)
    (opening_settled hd hevent hreading) rfl
  · exact fun p hp => (hg.passes.mem hp).2.event.trans hbefore
  · exact fun _ _ _ _ _ => hg.passes.continues.event.trans hbefore

/-- At every point of a run the context has a layer with the fields of the event that started it, behind
the locals and the outputs. Of a name that the event gives beside its attributes, this layer has the
value of the payload, or else that of the custom fields, while a trigger compares the custom one, or
else that of the payload. Both are there, and they are the same exactly if the event does not give two
values to the name. -/
theorem field_precedence {σ : Type} [Schema.Source σ] {x y : σ}
    (hd : Definition.codec.read x = .ok d) (hvalid : d.Valid)
    (hevent : Event.codec.read y = .ok event) (hdistinct : event.Distinct) :
    (∀ t results, e.OnCalendar t → e.Stored (e.run d event runId) t results →
      ∃ story : List (Segment τ), e.Story d event runId story ∧
        List.Forall₂ Segment.Tells story results ∧ Exchange.deeds t = Segment.deeds story) ∧
    ∀ story : List (Segment τ), e.Story d event runId story →
      ∀ g ∈ story, ∀ p ∈ g.log, ∀ locals, ∃ layer : Layer,
        ({ p.before.context with locals }).layers[2]? = some layer ∧
        ∀ name, event.Gives name → ∃ seen compared : Value,
          layer.get? name = .ok (some seen) ∧
          TriggerConditions.fieldOf event name = some compared ∧
          (event.payload.get? name).or (event.customFields.get? name) = some seen ∧
          (event.customFields.get? name).or (event.payload.get? name) = some compared ∧
          (compared = seen ↔ ¬event.Ambiguous name) := by
  have hwell := Definition.codec_ensures.of_read x d hd
  have hstorable := Event.codec_ensures.of_read y event hevent
  refine ⟨fun t results ht h => stored_story hwell hvalid hstorable ht h,
    fun story hstory g hg p hp locals => ⟨⟨event.fields, none⟩, ?_, fun name hname => ?_⟩⟩
  · change some (⟨p.before.context.event.fields, none⟩ : Layer) = _
    rw [hstory.keeps_event hwell hstorable g hg p hp]
  · have hfields := Event.get?_fields_of_gives hdistinct hname
    have hsame := Event.fieldOf_eq_iff hdistinct hname
    obtain ⟨seen, hseen⟩ : ∃ seen, event.fields.get? name = some seen := by
      rw [← Option.isSome_iff_exists, hfields, Option.isSome_or, Bool.or_comm, Bool.or_eq_true]
      exact hname
    obtain ⟨compared, hcompared⟩ :
        ∃ compared, TriggerConditions.fieldOf event name = some compared := by
      rw [← Option.isSome_iff_exists, TriggerConditions.fieldOf, Option.isSome_or, Bool.or_eq_true]
      exact hname
    rw [hcompared, hseen, Option.some.injEq] at hsame
    refine ⟨seen, compared, ?_, hcompared, hfields.symm.trans hseen, hcompared, hsame⟩
    change Except.ok (event.fields.get? name) = _
    rw [hseen]

/-- In a run that this event starts, a template sees the campaign of the payload, and a trigger
compares the other one. Of the source they see the same. -/
theorem twoCampaigns_precedence :
    let d := Definition.pauses
    let event := Event.twoCampaigns
    Definition.codec.read (Definition.codec.write .wire d) = .ok d ∧ d.Valid ∧
      Event.codec.read (Event.codec.write .wire event) = .ok event ∧ event.Distinct ∧
      ∃ g : Segment Rat, patient.Story d event "run-1" [g] ∧ ∃ p ∈ g.log, ∃ layer : Layer,
        p.before.context.layers[2]? = some layer ∧
        (layer.get? "campaign" = .ok (some (.text "fall")) ∧
          TriggerConditions.fieldOf event "campaign" = some (.text "spring")) ∧
        layer.get? "source" = .ok (TriggerConditions.fieldOf event "source") := by
  intro d event
  have hread : Definition.codec.read (Definition.codec.write .wire d) = .ok d :=
    (Definition.codec_restores Definition.pauses_wellFormed).read
  have hvalid : d.Valid := by decide +kernel
  have hevent : Event.codec.read (Event.codec.write .wire event) = .ok event :=
    (Event.codec_restores (by rintro _ ⟨⟩)).read
  have hdistinct : event.Distinct := ⟨by decide, by decide⟩
  let s : RunState Rat := patient.opening d event "run-1" 0
  have hplayed : ((patient.play Dialogue.still 2 [.go (some "first") [] true] s).map (·.1.length))
      = some 1 := by
    decide +kernel
  obtain ⟨⟨log, r, s'⟩, hplay, hlength⟩ := Option.map_eq_some_iff.mp hplayed
  have hentry : d.entry? = some _ := rfl
  have hstory := Story.of_play hentry (show Dialogue.still .clock = (0 : Nat) from rfl) (by decide)
    hplay
  obtain ⟨p, hp⟩ := List.exists_mem_of_length_pos (hlength ▸ Nat.one_pos : 0 < log.length)
  obtain ⟨layer, hlayer, hfields⟩ := (field_precedence (τ := Rat) (e := patient)
    hread hvalid hevent hdistinct).2 _ hstory _ (List.mem_singleton_self _) p hp p.before.context.locals
  refine ⟨hread, hvalid, hevent, hdistinct, _, hstory, p, hp, layer, hlayer, ?_, ?_⟩
  · obtain ⟨seen, compared, hseen, hcompared, hpayload, -, -⟩ := hfields "campaign" (.inl (by decide))
    obtain rfl : .text "fall" = seen := Option.some.inj hpayload
    exact ⟨hseen, rfl⟩
  · obtain ⟨seen, compared, hseen, hcompared, -, -, hsame⟩ := hfields "source" (.inl (by decide))
    rw [hseen, hcompared, hsame.mpr (by rintro ⟨v, v', -, ⟨⟩, -⟩)]

end Engine

/-- A trigger and the templates of a run do not see the same field of every event. -/
theorem Event.fields_seen_apart :
    ¬∀ (event : Event) (name : String), event.Distinct → event.Gives name →
      ∀ (runId : String) (now : Time.Stamp),
        ((Context.create runId event none none [] now).layers[2]?.map (·.get? name))
          = some (.ok (TriggerConditions.fieldOf event name)) := by
  intro h
  have hsame := h .twoCampaigns "campaign" ⟨by decide, by decide⟩ (.inl (by decide)) "run-1" default
  exact absurd hsame (by decide)

end Automation
