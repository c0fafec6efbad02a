import Automation.Proofs.Definition.RoundTrip
import Automation.Proofs.Schema.Plain

/-!
# Definitions of plain data

What is written of a definition that was read of plain data is plain.
-/

namespace Automation

open Schema Schema.Fields

/-! ## Triggers -/

theorem TriggerConditions.codec_keeps : TriggerConditions.codec.Keeps :=
  .record (by decide) (fun _ _ => rfl) <| (Keeps.map (.any _)
    |>.seq (.any _)
    |>.seq (.any _)
    |>.seq (.any _)
    |>.seq (.any _)
    |>.seq (.any _)
    |>.seq (.any _)
    |>.seq (.optional (.dictionary .any))).mono (by
      rintro c ⟨_, _, ⟨_, _, ⟨_, _, ⟨_, _, ⟨_, _, ⟨_, _, ⟨_, _, ⟨_, _, rfl⟩, _, rfl⟩, _, rfl⟩, _, rfl⟩,
        _, rfl⟩, _, rfl⟩, _, rfl⟩, hfields, rfl⟩ layout
      simpa using hfields layout)

theorem TriggerSchedule.codec_keeps : TriggerSchedule.codec.Keeps :=
  .record (by decide) (fun _ _ => rfl) (.always fun _ => by simp)

theorem TriggerKind.codec_keeps : TriggerKind.codec.Keeps := .always fun _ _ => Codec.plain_choice

theorem Trigger.codec_keeps : Trigger.codec.Keeps :=
  .record (by decide) (fun _ _ => rfl) <| (Keeps.map (.required TriggerKind.codec_keeps)
    |>.seq (.default TriggerConditions.codec_keeps fun _ =>
        Fields.plain_object (by decide) rfl (by simp))
    |>.seq (.optional TriggerSchedule.codec_keeps)).mono (by
      rintro t ⟨_, _, ⟨_, _, ⟨_, hkind, rfl⟩, hconditions, rfl⟩, hschedule, rfl⟩ layout
      simpa [fields] using And.intro (hkind layout) (And.intro (hconditions layout) (hschedule layout)))

/-! ## Actions -/

theorem SendSms.codec_keeps : SendSms.codec.Keeps :=
  .closedRecord (by decide) (fun _ _ => rfl) (.always fun _ => by simp)

theorem SendEmail.codec_keeps : SendEmail.codec.Keeps :=
  .closedRecord (by decide) (fun _ _ => rfl) (.always fun _ => by simp)

theorem MakeCall.codec_keeps : MakeCall.codec.Keeps :=
  .closedRecord (by decide) (fun _ _ => rfl) (.always fun _ => by simp)

theorem SendSlack.codec_keeps : SendSlack.codec.Keeps :=
  .closedRecord (by decide) (fun _ _ => rfl) (.always fun _ => by simp)

theorem CreateTask.codec_keeps : CreateTask.codec.Keeps :=
  .closedRecord (by decide) (fun _ _ => rfl) (.always fun _ => by simp)

theorem AddNote.codec_keeps : AddNote.codec.Keeps :=
  .closedRecord (by decide) (fun _ _ => rfl) (.always fun _ => by simp)

theorem CalendarEvent.codec_keeps : CalendarEvent.codec.Keeps :=
  .closedRecord (by decide) (fun _ _ => rfl) (.always fun _ => by simp)

theorem CreateLead.codec_keeps : CreateLead.codec.Keeps :=
  .closedRecord (by decide) (fun _ _ => rfl) <| (Keeps.map (.required (.dictionary .any))).mono (by
    rintro a ⟨_, hdata, rfl⟩ layout
    simpa using hdata layout)

theorem UpdateLead.codec_keeps : UpdateLead.codec.Keeps :=
  .closedRecord (by decide) (fun _ _ => rfl) <| (Keeps.map (.any _)
    |>.seq (.required (.dictionary .any))).mono (by
      rintro a ⟨_, _, ⟨_, _, rfl⟩, hdata, rfl⟩ layout
      simpa using hdata layout)

theorem UpdateDeal.codec_keeps : UpdateDeal.codec.Keeps :=
  .closedRecord (by decide) (fun _ _ => rfl) <| (Keeps.map (.any _)
    |>.seq (.required (.dictionary .any))).mono (by
      rintro a ⟨_, _, ⟨_, _, rfl⟩, hdata, rfl⟩ layout
      simpa using hdata layout)

theorem SheetRow.codec_keeps : SheetRow.codec.Keeps :=
  .closedRecord (by decide) (fun _ _ => rfl) <| (Keeps.map (.any _)
    |>.seq (.any _)
    |>.seq (.required (.dictionary .any))).mono (by
      rintro a ⟨_, _, ⟨_, _, ⟨_, _, rfl⟩, _, rfl⟩, hvalues, rfl⟩ layout
      simpa using hvalues layout)

theorem HttpAction.codec_keeps : HttpAction.codec.Keeps :=
  .closedRecord (by decide) (fun _ _ => rfl) <| (Keeps.map (.any _)
    |>.seq (.any _)
    |>.seq (.default (.dictionary .text) (by simp [Entries.keys]))
    |>.seq (.optional (.dictionary .any))
    |>.seq (.optional (.guarded .integer))).mono (by
      rintro a ⟨_, _, ⟨_, _, ⟨_, _, ⟨_, _, ⟨_, _, rfl⟩, _, rfl⟩, hheaders, rfl⟩, hbody, rfl⟩, htimeout,
        rfl⟩ layout
      simpa using And.intro (hheaders layout) (And.intro (hbody layout) (htimeout layout)))

theorem ActionKind.readConfig_plain {kind : ActionKind} {v : Value} {a : Action} (hv : v.Plain)
    (h : kind.readConfig v = .ok a) (layout : Layout) : (a.writeConfig layout).Plain := by
  cases kind <;> obtain ⟨c, hc, rfl⟩ := Checked.map_eq_ok.mp h
  case sendSms => exact SendSms.codec_keeps.plain hv hc layout
  case sendEmail => exact SendEmail.codec_keeps.plain hv hc layout
  case makeCall => exact MakeCall.codec_keeps.plain hv hc layout
  case sendSlack => exact SendSlack.codec_keeps.plain hv hc layout
  case createLead => exact CreateLead.codec_keeps.plain hv hc layout
  case updateLead => exact UpdateLead.codec_keeps.plain hv hc layout
  case createTask => exact CreateTask.codec_keeps.plain hv hc layout
  case updateDeal => exact UpdateDeal.codec_keeps.plain hv hc layout
  case addNote => exact AddNote.codec_keeps.plain hv hc layout
  case createCalendarEvent => exact CalendarEvent.codec_keeps.plain hv hc layout
  case sendCalendarInvite => exact CalendarEvent.codec_keeps.plain hv hc layout
  case addSheetRow => exact SheetRow.codec_keeps.plain hv hc layout
  case webhook => exact HttpAction.codec_keeps.plain hv hc layout
  case apiCall => exact HttpAction.codec_keeps.plain hv hc layout

/-! ## Steering the walk -/

theorem Delay.codec_keeps : Delay.codec.Keeps :=
  .closedRecord (by decide) (fun _ _ => rfl) (.always fun _ => by simp [DelayUnit.codec])

theorem Branch.codec_keeps : Branch.codec.Keeps :=
  .closedRecord (by decide) (fun _ _ => rfl) (.always fun _ => by simp)

theorem Loop.codec_keeps : Loop.codec.Keeps :=
  .closedRecord (by decide) (fun _ _ => rfl) (.always fun _ => by simp)

/-! ## Nodes -/

theorem Position.codec_keeps : Position.codec.Keeps :=
  .record (by decide) (fun _ _ => rfl) (.always fun _ => by simp)

theorem Work.keeps (kind : String) : (⟨Work.read kind, Work.write⟩ : Codec Work).Keeps := by
  refine ⟨fun {v w} hv h layout => ?_⟩
  simp only [Work.read] at h
  split at h
  · obtain ⟨a, ha, rfl⟩ := Checked.map_eq_ok.mp h
    exact ActionKind.readConfig_plain hv ha layout
  · split at h
    · obtain ⟨d, hd, rfl⟩ := Checked.map_eq_ok.mp h
      exact Delay.codec_keeps.plain hv hd layout
    · split at h
      · obtain ⟨b, hb, rfl⟩ := Checked.map_eq_ok.mp h
        exact Branch.codec_keeps.plain hv hb layout
      · obtain ⟨l, hl, rfl⟩ := Checked.map_eq_ok.mp h
        exact Loop.codec_keeps.plain hv hl layout

theorem Node.fields_keeps (kind : String) : (fields kind).Keeps fun n =>
    ∀ layout, ∀ field ∈ (fields kind).write layout n, field.2.Plain :=
  (Keeps.map (.any _)
    |>.seq (.any _)
    |>.seq (.any _)
    |>.seq (.optional Position.codec_keeps)
    |>.seq (.any _)
    |>.seq (.any _)
    |>.seq (.any _)
    |>.seq (.required (Work.keeps kind))).mono (by
      rintro n ⟨_, _, ⟨_, _, ⟨_, _, ⟨_, _, ⟨_, _, ⟨_, _, ⟨_, _, ⟨_, _, rfl⟩, _, rfl⟩, _, rfl⟩, hposition,
        rfl⟩, _, rfl⟩, _, rfl⟩, _, rfl⟩, hwork, rfl⟩ layout
      simpa [fields, fixedKind] using And.intro (hposition layout) (hwork layout))

theorem Node.codec_keeps : Node.codec.Keeps := by
  refine ⟨fun {v n} hv h layout =>
    Fields.plain_object (Node.fields_separate n.work.kindName) rfl ?_⟩
  simp only [Node.codec] at h
  split at h
  · split at h
    · cases h
    · split at h
      · split at h
        · have hentries := Codec.plain_of_shape hv ‹_›
          exact (Node.fields_keeps _).of_read hentries (Checked.under_eq_ok.mp h) layout
        · cases h
      · cases h
  · cases h

/-! ## Definitions -/

theorem Definition.bodyFields_keeps : bodyFields.Keeps fun body =>
    ∀ id tenantId layout, ∀ field ∈ bodyFields.write layout (body id tenantId), field.2.Plain :=
  (Keeps.map (.any _)
    |>.seq (.any _)
    |>.seq (.any _)
    |>.seq (.required Trigger.codec_keeps)
    |>.seq (.default (.list Node.codec_keeps) (by simp))
    |>.seq (.default (.dictionary .text) (by simp [Entries.keys]))
    |>.seq (.any _)
    |>.seq (.default .integer fun _ => Value.plain_int.mpr (by decide))
    |>.seq (.any _)).mono (by
      rintro body ⟨_, _, ⟨_, _, ⟨_, _, ⟨_, _, ⟨_, _, ⟨_, _, ⟨_, _, ⟨_, _, ⟨_, _, rfl⟩, _, rfl⟩, _, rfl⟩,
        htrigger, rfl⟩, hnodes, rfl⟩, hvars, rfl⟩, _, rfl⟩, hversion, rfl⟩, _, rfl⟩ id tenantId layout
      simpa [bodyFields, workflowName, Category.codec] using And.intro (htrigger layout)
        (And.intro (hnodes layout) (And.intro (hvars layout) (hversion layout))))

theorem Definition.codec_keeps : Definition.codec.Keeps :=
  .record (by decide) (fun _ _ => rfl) <| (Keeps.map (.any _)
    |>.seq (.any _)
    |>.seq bodyFields_keeps).mono (by
      rintro d ⟨_, body, ⟨_, tenantId, ⟨id, _, rfl⟩, _, rfl⟩, hbody, rfl⟩ layout
      simpa [fields] using hbody id tenantId layout)

end Automation
