import Automation.Definition.Codec
import Automation.Proofs.Schema.RoundTrip

/-!
# Definitions read back

A definition on the wire is read as the same definition. What a reader has checked is what is
needed for it: an id is not empty, a pause is not negative, a timeout is positive, and the name of a
workflow can be stored.
-/

namespace Automation

open Schema Schema.Fields

variable {layout : Layout}

/-! ## Triggers -/

theorem TriggerKind.codec_restores (k : TriggerKind) : TriggerKind.codec.Restores layout k :=
  .choice (by cases k <;> rfl)

/-- Conditions that a reader lets through. -/
def TriggerConditions.WellFormed (c : TriggerConditions) : Prop :=
  ∀ x ∈ c.minimumDuration, !(x < 0)

theorem TriggerConditions.codec_restores {c : TriggerConditions} (h : c.WellFormed) :
    TriggerConditions.codec.Restores layout c :=
  .record (by decide)
    (Restores.map (.optional fun _ _ => .list fun _ _ => .text _)
      |>.seq (.optional fun _ _ => .list fun _ _ => .text _)
      |>.seq (.optional fun _ _ => .flag _)
      |>.seq (.optional fun _ _ => .flag _)
      |>.seq (.optional fun _ _ => .flag _)
      |>.seq (.optional fun _ _ => .list fun _ _ => .text _)
      |>.seq (.optional fun x hx => .guarded (.number x) (h x hx))
      |>.seq (.optional fun _ _ => .anyDictionary _))
    rfl

theorem TriggerSchedule.codec_restores (s : TriggerSchedule) :
    TriggerSchedule.codec.Restores layout s :=
  .record (by decide) (Restores.map (.required (.text _)) |>.seq (.default (.text _))) rfl

theorem Trigger.codec_restores {t : Trigger} (h : t.conditions.WellFormed) :
    Trigger.codec.Restores layout t :=
  .record (by decide)
    (Restores.map (.required (TriggerKind.codec_restores _))
      |>.seq (.default (TriggerConditions.codec_restores h))
      |>.seq (.optional fun _ _ => TriggerSchedule.codec_restores _))
    rfl

/-! ## Actions -/

theorem SendSms.codec_restores (a : SendSms) : SendSms.codec.Restores layout a :=
  .closedRecord (by decide) (Restores.map (.required (.text _)) |>.seq (.required (.text _))) rfl

theorem SendEmail.codec_restores (a : SendEmail) : SendEmail.codec.Restores layout a :=
  .closedRecord (by decide)
    (Restores.map (.required (.text _))
      |>.seq (.required (.text _))
      |>.seq (.required (.text _))
      |>.seq (.default (.list fun _ _ => .text _)))
    rfl

theorem MakeCall.codec_restores (a : MakeCall) : MakeCall.codec.Restores layout a :=
  .closedRecord (by decide) (Restores.map (.required (.text _)) |>.seq (.required (.text _))) rfl

theorem SendSlack.codec_restores (a : SendSlack) : SendSlack.codec.Restores layout a :=
  .closedRecord (by decide) (Restores.map (.required (.text _)) |>.seq (.required (.text _))) rfl

theorem CreateLead.codec_restores (a : CreateLead) : CreateLead.codec.Restores layout a :=
  .closedRecord (by decide) (Restores.map (.required (.anyDictionary _))) rfl

theorem UpdateLead.codec_restores (a : UpdateLead) : UpdateLead.codec.Restores layout a :=
  .closedRecord (by decide)
    (Restores.map (.required (.text _)) |>.seq (.required (.anyDictionary _))) rfl

theorem CreateTask.codec_restores (a : CreateTask) : CreateTask.codec.Restores layout a :=
  .closedRecord (by decide)
    (Restores.map (.required (.text _))
      |>.seq (.optional fun _ _ => .text _)
      |>.seq (.default (.text _))
      |>.seq (.default (.text _))
      |>.seq (.optional fun _ _ => .text _))
    rfl

theorem UpdateDeal.codec_restores (a : UpdateDeal) : UpdateDeal.codec.Restores layout a :=
  .closedRecord (by decide)
    (Restores.map (.required (.text _)) |>.seq (.required (.anyDictionary _))) rfl

theorem AddNote.codec_restores (a : AddNote) : AddNote.codec.Restores layout a :=
  .closedRecord (by decide) (Restores.map (.required (.text _)) |>.seq (.required (.text _))) rfl

theorem CalendarEvent.codec_restores (a : CalendarEvent) : CalendarEvent.codec.Restores layout a :=
  .closedRecord (by decide)
    (Restores.map (.default (.text _))
      |>.seq (.required (.text _))
      |>.seq (.optional fun _ _ => .text _)
      |>.seq (.required (.text _))
      |>.seq (.required (.text _))
      |>.seq (.default (.list fun _ _ => .text _)))
    rfl

theorem SheetRow.codec_restores (a : SheetRow) : SheetRow.codec.Restores layout a :=
  .closedRecord (by decide)
    (Restores.map (.required (.text _))
      |>.seq (.required (.text _))
      |>.seq (.required (.anyDictionary _)))
    rfl

/-- A request that a reader lets through. -/
def HttpAction.WellFormed (a : HttpAction) : Prop := ∀ ms ∈ a.timeoutMs, 0 < ms

theorem HttpAction.codec_restores {a : HttpAction} (h : a.WellFormed) :
    HttpAction.codec.Restores layout a :=
  .closedRecord (by decide)
    (Restores.map (.required (.text _))
      |>.seq (.default (.text _))
      |>.seq (.default (.dictionary fun _ _ => rfl))
      |>.seq (.optional fun _ _ => .anyDictionary _)
      |>.seq (.optional fun ms hms => .guarded (.integer ms) (decide_eq_true (h ms hms))))
    rfl

/-- An action that a reader lets through. -/
def Action.WellFormed : Action → Prop
  | .webhook c | .apiCall c => c.WellFormed
  | _ => True

theorem Action.readConfig_write {a : Action} (h : a.WellFormed) :
    a.kind.readConfig (a.writeConfig layout) = .ok a := by
  cases a with
  | sendSms c => exact congrArg (Checked.map _) (SendSms.codec_restores c).read
  | sendEmail c => exact congrArg (Checked.map _) (SendEmail.codec_restores c).read
  | makeCall c => exact congrArg (Checked.map _) (MakeCall.codec_restores c).read
  | sendSlack c => exact congrArg (Checked.map _) (SendSlack.codec_restores c).read
  | createLead c => exact congrArg (Checked.map _) (CreateLead.codec_restores c).read
  | updateLead c => exact congrArg (Checked.map _) (UpdateLead.codec_restores c).read
  | createTask c => exact congrArg (Checked.map _) (CreateTask.codec_restores c).read
  | updateDeal c => exact congrArg (Checked.map _) (UpdateDeal.codec_restores c).read
  | addNote c => exact congrArg (Checked.map _) (AddNote.codec_restores c).read
  | createCalendarEvent c => exact congrArg (Checked.map _) (CalendarEvent.codec_restores c).read
  | sendCalendarInvite c => exact congrArg (Checked.map _) (CalendarEvent.codec_restores c).read
  | addSheetRow c => exact congrArg (Checked.map _) (SheetRow.codec_restores c).read
  | webhook c => exact congrArg (Checked.map _) (HttpAction.codec_restores h).read
  | apiCall c => exact congrArg (Checked.map _) (HttpAction.codec_restores h).read

theorem Action.writeConfig_ne_null (a : Action) : a.writeConfig layout ≠ .null := by
  cases a <;> exact nofun

theorem ActionKind.ofName?_name (k : ActionKind) : ofName? k.name = some k := by
  cases k <;> rfl

/-! ## Steering the walk -/

/-- A pause that a reader lets through. -/
def Delay.WellFormed (d : Delay) : Prop := !(d.duration < 0)

theorem DelayUnit.codec_restores (u : DelayUnit) : DelayUnit.codec.Restores layout u :=
  .choice (by cases u <;> rfl)

theorem Delay.codec_restores {d : Delay} (h : d.WellFormed) : Delay.codec.Restores layout d :=
  .closedRecord (by decide)
    (Restores.map (.required (.guarded (.number _) (by exact h)))
      |>.seq (.default (DelayUnit.codec_restores _)))
    rfl

theorem Branch.codec_restores (b : Branch) : Branch.codec.Restores layout b :=
  .closedRecord (by decide)
    (Restores.map (.required (.text _))
      |>.seq (.required (.list fun _ _ => .text _))
      |>.seq (.required (.list fun _ _ => .text _)))
    rfl

theorem Loop.codec_restores (l : Loop) : Loop.codec.Restores layout l :=
  .closedRecord (by decide) (Restores.map (.required (.text _)) |>.seq (.required (.text _))) rfl

/-! ## Nodes -/

theorem Position.codec_restores (p : Position) : Position.codec.Restores layout p :=
  .record (by decide) (Restores.map (.default (.number _)) |>.seq (.default (.number _))) rfl

/-- A work that a reader lets through. -/
def Work.WellFormed : Work → Prop
  | .action a => a.WellFormed
  | .delay d => d.WellFormed
  | .condition _ | .loop _ => True

theorem Work.kindName_mem (w : Work) : Work.kindNames.contains w.kindName = true := by
  cases w with
  | action a =>
    rw [kindName]
    cases a.kind <;> decide
  | delay d => exact (by decide : kindNames.contains "delay" = true)
  | condition b => exact (by decide : kindNames.contains "condition" = true)
  | loop l => exact (by decide : kindNames.contains "loop" = true)

theorem Work.restores {w : Work} (h : w.WellFormed) :
    (⟨Work.read w.kindName, Work.write⟩ : Codec Work).Restores layout w := by
  cases w with
  | action a =>
    refine ⟨?_, a.writeConfig_ne_null⟩
    simp only [Work.read, Work.write, kindName, ActionKind.ofName?_name,
      Action.readConfig_write h, Checked.map_ok]
  | delay d => exact ⟨congrArg (Checked.map _) (Delay.codec_restores h).read, by rintro ⟨⟩⟩
  | condition b => exact ⟨congrArg (Checked.map _) (Branch.codec_restores b).read, by rintro ⟨⟩⟩
  | loop l => exact ⟨congrArg (Checked.map _) (Loop.codec_restores l).read, by rintro ⟨⟩⟩

/-- A node that a reader lets through. -/
structure Node.WellFormed (n : Node) : Prop where
  id : 1 ≤ n.id.length
  work : n.work.WellFormed

theorem fixedKind_restores (kind : String) : (fixedKind kind).Restores layout kind :=
  .choice (if_pos rfl)

theorem Node.fields_restores {n : Node} (h : n.WellFormed) :
    (Node.fields n.work.kindName).Restores layout n n :=
  (Restores.map (.required (.boundedText h.id (by rintro _ ⟨⟩)))
    |>.seq (.optional fun _ _ => .text _)
    |>.seq (.optional fun _ _ => .text _)
    |>.seq (.optional fun _ _ => Position.codec_restores _)
    |>.seq (.default (.flag _))
    |>.seq (.default (.flag _))
    |>.seq (.required (fixedKind_restores _))
    |>.seq (.required (Work.restores h.work)))

theorem Node.fields_separate (kind : String) : Separate (Node.fields kind).names := by
  change Separate [.plain "id", .plain "name", ⟨"next_action", "nextAction"⟩, .plain "position",
    .plain "entry", ⟨"abort_on_failure", "abortOnFailure"⟩, .plain "type", .plain "config"]
  decide

/-- The kind of a node is found where a reader looks for it. -/
theorem Node.find?_type {n : Node} (h : n.WellFormed) :
    (FieldName.plain "type").find?
      (writtenEntries layout ((Node.fields n.work.kindName).write layout n))
        = some ("type", .text n.work.kindName) := by
  have hfields : (Node.fields n.work.kindName).Restores layout n n := Node.fields_restores h
  have hsep := hfields.names ▸ Node.fields_separate n.work.kindName
  have hmem : (FieldName.plain "type", Value.text n.work.kindName) ∈
      (Node.fields n.work.kindName).write layout n := by
    change _ ∈ _ ++ _
    refine List.mem_append_left _ (List.mem_append_right _ ?_)
    exact List.mem_cons_self
  rw [FieldName.find?_written layout hsep hmem, if_neg (by simp)]
  cases layout.naming <;> rfl

theorem Node.codec_restores {n : Node} (h : n.WellFormed) : Node.codec.Restores layout n := by
  refine ⟨?_, nofun⟩
  have hfields : (Node.fields n.work.kindName).Restores layout n n := Node.fields_restores h
  have hsep := hfields.names ▸ Node.fields_separate n.work.kindName
  have hkind : Source.shape (Value.text n.work.kindName) = .text n.work.kindName := rfl
  -- The reader looks for the kind first, and the kind says how to read the rest.
  simp only [Node.codec, shape_object, Node.find?_type h, hkind]
  rw [if_pos n.work.kindName_mem, hfields.read hsep fun _ hx => hx]
  rfl

/-! ## Definitions -/

theorem Category.codec_restores (c : Category) : Category.codec.Restores layout c :=
  .choice (by cases c <;> rfl)

/-- A definition that a reader lets through. -/
structure Definition.WellFormed (d : Definition) : Prop where
  name_ne : 1 ≤ d.name.length
  name_le : d.name.length ≤ 255
  trigger : d.trigger.conditions.WellFormed
  nodes : ∀ n ∈ d.actions, n.WellFormed

theorem Definition.bodyFields_restores {d : Definition} (h : d.WellFormed) :
    bodyFields.Restores layout d fun id tenantId => { d with id, tenantId } :=
  Restores.map (.required (.boundedText h.name_ne (by rintro _ ⟨⟩; exact h.name_le)))
    |>.seq (.optional fun _ _ => .text _)
    |>.seq (.default (.flag _))
    |>.seq (.required (Trigger.codec_restores h.trigger))
    |>.seq (.default (.list fun n hn => Node.codec_restores (h.nodes n hn)))
    |>.seq (.default (.dictionary fun _ _ => rfl))
    |>.seq (.default (Category.codec_restores _))
    |>.seq (.default (.integer _))
    |>.seq (.default (.list fun _ _ => .text _))

/-- A definition is read as it was written. -/
theorem Definition.codec_restores {d : Definition} (h : d.WellFormed) :
    Definition.codec.Restores layout d :=
  .record (by decide)
    (Restores.map (.optional fun _ _ => .text _)
      |>.seq (.optional fun _ _ => .text _)
      |>.seq (bodyFields_restores h))
    rfl

end Automation
