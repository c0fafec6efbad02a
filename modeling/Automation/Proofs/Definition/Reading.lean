import Automation.Definition.Reading
import Automation.Proofs.Definition.RoundTrip
import Automation.Proofs.Schema.Reading

/-!
# What the reader of definitions checks

Whatever is read as a definition is well-formed, so it reads back when it is written.
-/

namespace Automation

open Schema Schema.Fields

theorem TriggerConditions.codec_ensures :
    TriggerConditions.codec.Ensures TriggerConditions.WellFormed :=
  .record <| (Ensures.map (.any _)
    |>.seq (.any _)
    |>.seq (.any _)
    |>.seq (.any _)
    |>.seq (.any _)
    |>.seq (.any _)
    |>.seq (.optional .guarded)
    |>.seq (.any _)).mono (by
      rintro c ⟨_, _, ⟨_, _, ⟨_, _, ⟨_, _, ⟨_, _, ⟨_, _, ⟨_, _, ⟨_, _, rfl⟩, _, rfl⟩, _, rfl⟩, _, rfl⟩,
        _, rfl⟩, _, rfl⟩, hduration, rfl⟩, _, rfl⟩
      exact hduration)

theorem Trigger.codec_ensures : Trigger.codec.Ensures fun t => t.conditions.WellFormed :=
  .record <| (Ensures.map (.any _)
    |>.seq (.default TriggerConditions.codec_ensures (by rintro x ⟨⟩))
    |>.seq (.any _)).mono (by
      rintro t ⟨_, _, ⟨_, _, ⟨_, _, rfl⟩, hconditions, rfl⟩, _, rfl⟩
      exact hconditions)

theorem HttpAction.codec_ensures : HttpAction.codec.Ensures HttpAction.WellFormed :=
  .closedRecord <| (Ensures.map (.any _)
    |>.seq (.any _)
    |>.seq (.any _)
    |>.seq (.any _)
    |>.seq (.optional .guarded)).mono (by
      rintro a ⟨_, _, ⟨_, _, ⟨_, _, ⟨_, _, ⟨_, _, rfl⟩, _, rfl⟩, _, rfl⟩, _, rfl⟩, htimeout, rfl⟩
      exact fun ms hms => of_decide_eq_true (htimeout ms hms))

theorem Delay.codec_ensures : Delay.codec.Ensures Delay.WellFormed :=
  .closedRecord <| (Ensures.map (.required .guarded) |>.seq (.any _)).mono (by
    rintro d ⟨_, _, ⟨_, hduration, rfl⟩, _, rfl⟩
    exact hduration)

theorem ActionKind.readConfig_wellFormed {σ : Type} [Source σ] {kind : ActionKind} {x : σ}
    {a : Action} (h : kind.readConfig x = .ok a) : a.WellFormed := by
  cases kind <;> obtain ⟨c, hc, rfl⟩ := Checked.map_eq_ok.mp h <;>
    first | trivial | exact HttpAction.codec_ensures.of_read x c hc

theorem Work.read_wellFormed {σ : Type} [Source σ] {kind : String} {x : σ} {w : Work}
    (h : Work.read kind x = .ok w) : w.WellFormed := by
  unfold Work.read at h
  split at h
  · obtain ⟨a, ha, rfl⟩ := Checked.map_eq_ok.mp h
    exact ActionKind.readConfig_wellFormed ha
  · split at h
    · obtain ⟨d, hd, rfl⟩ := Checked.map_eq_ok.mp h
      exact Delay.codec_ensures.of_read x d hd
    · split at h <;> obtain ⟨_, _, rfl⟩ := Checked.map_eq_ok.mp h <;> trivial

theorem Node.fields_ensures (kind : String) : (Node.fields kind).Ensures Node.WellFormed :=
  (Ensures.map (.required .boundedText)
    |>.seq (.any _)
    |>.seq (.any _)
    |>.seq (.any _)
    |>.seq (.any _)
    |>.seq (.any _)
    |>.seq (.any _)
    |>.seq (.required ⟨fun _ _ => Work.read_wellFormed⟩)).mono (by
      rintro n ⟨_, _, ⟨_, _, ⟨_, _, ⟨_, _, ⟨_, _, ⟨_, _, ⟨_, _, ⟨_, ⟨hid, _⟩, rfl⟩, _, rfl⟩, _, rfl⟩,
        _, rfl⟩, _, rfl⟩, _, rfl⟩, _, rfl⟩, hwork, rfl⟩
      exact ⟨hid, hwork⟩)

theorem Node.codec_ensures : Node.codec.Ensures Node.WellFormed := by
  refine ⟨fun x n h => ?_⟩
  simp only [Node.codec] at h
  split at h
  · split at h
    · cases h
    · split at h
      · split at h
        · exact (Node.fields_ensures _).of_read _ n (Checked.under_eq_ok.mp h)
        · cases h
      · cases h
  · cases h

theorem Definition.bodyFields_ensures :
    bodyFields.Ensures fun body => ∀ id tenantId, (body id tenantId).WellFormed :=
  (Ensures.map (.required .boundedText)
    |>.seq (.any _)
    |>.seq (.any _)
    |>.seq (.required Trigger.codec_ensures)
    |>.seq (.default (.list Node.codec_ensures) fun _ h => absurd h List.not_mem_nil)
    |>.seq (.any _)
    |>.seq (.any _)
    |>.seq (.any _)
    |>.seq (.any _)).mono (by
      rintro body ⟨_, _, ⟨_, _, ⟨_, _, ⟨_, _, ⟨_, _, ⟨_, _, ⟨_, _, ⟨_, _, ⟨_, ⟨hne, hle⟩, rfl⟩, _, rfl⟩,
        _, rfl⟩, htrigger, rfl⟩, hnodes, rfl⟩, _, rfl⟩, _, rfl⟩, _, rfl⟩, _, rfl⟩ id tenantId
      exact ⟨hne, hle 255 rfl, htrigger, hnodes⟩)

/-- Whatever is read as a definition is well-formed. -/
theorem Definition.codec_ensures : Definition.codec.Ensures Definition.WellFormed :=
  .record <| (Ensures.map (.any _) |>.seq (.any _) |>.seq bodyFields_ensures).mono (by
    rintro d ⟨_, body, ⟨_, tenantId, ⟨id, _, rfl⟩, _, rfl⟩, hbody, rfl⟩
    exact hbody id tenantId)

theorem Definition.read_eq_ok {σ : Type} [Source σ] {x : σ} {d : Definition} :
    Definition.read x = .ok d ↔ Definition.codec.read x = .ok d := by
  unfold Definition.read
  cases Definition.codec.read x <;> constructor <;> intro h <;> cases h <;> rfl

end Automation
