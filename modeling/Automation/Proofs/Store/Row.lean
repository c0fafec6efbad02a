import Automation.Proofs.Definition.Reading
import Automation.Store.Request
import Automation.Store.Workflows

/-!
# Definitions in rows

The store holds a definition in parts. A row that keeps a definition gives it back: with the id and
the tenant of the row, and with its flag and its version (`WorkflowRow.definition_of_keeps`). So what
was judged before it was stored can be run when it is read again.
-/

namespace Automation

open Schema Schema.Fields

variable {τ : Type}

/-! ## Reading given fields -/

namespace Schema.Fields

variable {ρ α β : Type} {entries : List (Key × Value)}

/-- A part of a record is read from its entries. -/
def Reads (f : Fields ρ α) (entries : List (Key × Value)) (a : α) : Prop := f.read entries = .ok a

theorem reads_map {f : α → β} {x : Fields ρ α} {b : β} :
    (f <$> x).Reads entries b ↔ ∃ a, x.Reads entries a ∧ b = f a := Checked.map_eq_ok

theorem reads_seq {f : Fields ρ (α → β)} {x : Fields ρ α} {b : β} :
    (f <*> x).Reads entries b ↔ ∃ g a, f.Reads entries g ∧ x.Reads entries a ∧ b = g a :=
  Checked.both_eq_ok

theorem Reads.map {f : α → β} {x : Fields ρ α} {a : α} (h : x.Reads entries a) :
    (f <$> x).Reads entries (f a) := reads_map.mpr ⟨a, h, rfl⟩

theorem Reads.seq {f : Fields ρ (α → β)} {x : Fields ρ α} {g : α → β} {a : α}
    (hf : f.Reads entries g) (hx : x.Reads entries a) : (f <*> x).Reads entries (g a) :=
  reads_seq.mpr ⟨g, a, hf, hx, rfl⟩

variable {name : FieldName} {c : Codec α} {a : α} {key : String}

/-- What stands under the name of a field as it is written on the wire is read for the field. -/
theorem Reads.default_of_read {get : ρ → α} {value : α}
    (hfound : name.find? entries = some (key, c.write .wire a))
    (h : c.read (c.write .wire a) = .ok a) :
    (Fields.default name get c value).Reads entries a := by
  unfold Reads
  simp only [Fields.default, hfound, h, Checked.under_ok]

theorem Reads.default {get : ρ → α} {value : α}
    (hfound : name.find? entries = some (key, c.write .wire a)) (h : c.Restores .wire a) :
    (Fields.default name get c value).Reads entries a := .default_of_read hfound h.read

theorem Reads.required {get : ρ → α} (hfound : name.find? entries = some (key, c.write .wire a))
    (h : c.Restores .wire a) : (Fields.required name get c).Reads entries a := by
  unfold Reads
  simp only [Fields.required, hfound, h.read, Checked.under_ok]

theorem Reads.optional {get : ρ → Option α} {a : Option α}
    (hfound : name.find? entries = some (key, c.optional.write .wire a))
    (h : ∀ x ∈ a, c.Restores .wire x) : (Fields.optional name get c).Reads entries a :=
  .default_of_read hfound (Codec.optional_read h)

end Schema.Fields

/-! ## What is read of a row -/

/-- The fields behind the id and the tenant leave these two as they are. -/
theorem Definition.bodyFields_owner : bodyFields.Ensures fun body =>
    ∀ id tenantId, (body id tenantId).id = id ∧ (body id tenantId).tenantId = tenantId :=
  (Ensures.map (.any _)
    |>.seq (.any _)
    |>.seq (.any _)
    |>.seq (.any _)
    |>.seq (.any _)
    |>.seq (.any _)
    |>.seq (.any _)
    |>.seq (.any _)
    |>.seq (.any _)).mono (by
      rintro body ⟨_, _, ⟨_, _, ⟨_, _, ⟨_, _, ⟨_, _, ⟨_, _, ⟨_, _, ⟨_, _, ⟨_, _, rfl⟩, _, rfl⟩, _,
        rfl⟩, _, rfl⟩, _, rfl⟩, _, rfl⟩, _, rfl⟩, _, rfl⟩, _, rfl⟩ id tenantId
      exact ⟨rfl, rfl⟩)

namespace WorkflowRow

variable {r : WorkflowRow τ} {d : Definition}

/-- A row has a definition if its parts are read as one. -/
theorem definition_eq_ok : r.definition = .ok d ↔
    ∃ data, r.definitionData = .ok data ∧ Definition.codec.read data = .ok d := by
  refine Except.bind_eq_ok.trans (exists_congr fun data => and_congr_right fun _ => ?_)
  rw [← Definition.read_eq_ok]
  cases Definition.read data <;> constructor <;> intro h <;> cases h <;> rfl

/-- Whatever is read of a row is well-formed, and it belongs to the row. -/
theorem definition_ok (h : r.definition = .ok d) :
    d.WellFormed ∧ d.id = some r.id ∧ d.tenantId = some r.tenantId := by
  obtain ⟨data, hdata, hread⟩ := definition_eq_ok.mp h
  obtain ⟨trigger, -, rfl⟩ := Except.map_eq_ok.mp hdata
  refine ⟨Definition.codec_ensures.of_read _ d hread, ?_⟩
  obtain ⟨f, body, hf, hbody, rfl⟩ := reads_seq.mp hread
  obtain ⟨g, tenant, hg, htenant, rfl⟩ := reads_seq.mp hf
  obtain ⟨id, hid, rfl⟩ := reads_map.mp hg
  obtain rfl : some r.id = id := Checked.ok.inj hid
  obtain rfl : some r.tenantId = tenant := Checked.ok.inj htenant
  exact Definition.bodyFields_owner.of_read _ body hbody _ _

/-! ## Rows that keep a definition -/

/-- A row keeps a definition: all but its id, its tenant, its flag and its version. -/
structure Keeps (r : WorkflowRow τ) (d : Definition) : Prop where
  name : r.name = d.name
  description : r.description = d.description
  category : r.category = d.category.name
  tags : r.tags = .texts d.tags
  triggerKind : r.triggerKind = d.trigger.kind.name
  triggerConfig : r.triggerConfig = triggerConfigOf d.trigger
  actions : r.actions = actionsOf d.actions
  vars : r.vars = .object (d.vars.mapValues .text)

theorem orElse_list (items : List Value) : orElse (.list []) (.list items) = .list items := by
  cases items <;> rfl

theorem orElse_object (fields : Entries Value) :
    orElse (.object []) (.object fields) = .object fields := by
  cases fields <;> rfl

/-- A trigger is put together from its parts as it was written. -/
theorem Keeps.triggerData (h : r.Keeps d) :
    r.triggerData = .ok (Trigger.codec.write .wire d.trigger) := by
  rw [WorkflowRow.triggerData, h.triggerConfig, h.triggerKind]
  rcases d.trigger with ⟨kind, conditions, _ | schedule⟩ <;> rfl

/-- The definition that a row gives back in place of one that it keeps. -/
def given (r : WorkflowRow τ) (d : Definition) : Definition :=
  { d with
    id := some r.id, tenantId := some r.tenantId, enabled := r.enabled
    version := if r.version = 0 then 1 else r.version }

/-- A row gives back what it keeps. -/
theorem Keeps.definition (h : r.Keeps d) (hd : d.WellFormed) : r.definition = .ok (r.given d) := by
  refine definition_eq_ok.mpr ⟨_, congrArg _ h.triggerData, ?_⟩
  have hvalues : orElse (.list []) r.actions = actionsOf d.actions ∧
      orElse (.object []) r.vars = .object (d.vars.mapValues .text) ∧
      orElse (.list []) r.tags = .texts d.tags := by
    rw [h.actions, h.vars, h.tags]
    exact ⟨orElse_list _, orElse_object _, orElse_list _⟩
  obtain ⟨hactions, hvars, htags⟩ := hvalues
  rw [h.name, h.description, h.category, hactions, hvars, htags]
  exact Reads.map (.optional rfl fun _ _ => .text _)
    |>.seq (.optional rfl fun _ _ => .text _)
    |>.seq (Reads.map (.required rfl
        (.boundedText hd.name_ne (by rintro _ ⟨⟩; exact hd.name_le)))
      |>.seq (.optional rfl fun _ _ => .text _)
      |>.seq (.default rfl (.flag _))
      |>.seq (.required rfl (Trigger.codec_restores hd.trigger))
      |>.seq (.default rfl (.list fun n hn => Node.codec_restores (hd.nodes n hn)))
      |>.seq (.default rfl (.dictionary fun _ _ => rfl))
      |>.seq (.default rfl (Category.codec_restores _))
      |>.seq (.default rfl (.integer _))
      |>.seq (.default rfl (.list fun _ _ => .text _)))

/-! ## Rows that can be run -/

/-- A row keeps a definition that can be run. -/
def Runnable (r : WorkflowRow τ) : Prop := ∃ d : Definition, d.WellFormed ∧ d.Valid ∧ r.Keeps d

/-- What is read of a row that can be run has no problems. -/
theorem Runnable.definition (h : r.Runnable) :
    ∃ d, r.definition = .ok d ∧ d.WellFormed ∧ d.Valid := by
  obtain ⟨d, hd, hvalid, hkeeps⟩ := h
  exact ⟨_, hkeeps.definition hd, ⟨hd.name_ne, hd.name_le, hd.trigger, hd.nodes⟩, hvalid⟩

theorem Runnable.valid (h : r.Runnable) (hd : r.definition = .ok d) : d.Valid := by
  obtain ⟨_, hdefinition, -, hvalid⟩ := h.definition
  cases hd.symm.trans hdefinition
  exact hvalid

end WorkflowRow

/-! ## Requests -/

/-- The definition of a request that was read is well-formed. -/
theorem NewWorkflow.codec_ensures : NewWorkflow.codec.Ensures fun w => w.definition.WellFormed :=
  .record <| (Ensures.map (.required .boundedText)
    |>.seq (.any _)
    |>.seq (.any _)
    |>.seq (.required Trigger.codec_ensures)
    |>.seq (.default (.list Node.codec_ensures) fun _ h => absurd h List.not_mem_nil)
    |>.seq (.any _)
    |>.seq (.any _)
    |>.seq (.any _)
    |>.seq (.any _)).mono (by
      rintro w ⟨_, _, ⟨_, _, ⟨_, _, ⟨_, _, ⟨_, _, ⟨_, _, ⟨_, _, ⟨_, _, ⟨_, ⟨hne, hle⟩, rfl⟩, _, rfl⟩,
        _, rfl⟩, htrigger, rfl⟩, hnodes, rfl⟩, _, rfl⟩, _, rfl⟩, _, rfl⟩, _, rfl⟩
      exact ⟨hne, hle 255 rfl, htrigger, hnodes⟩)

/-- Changes that were read make a well-formed definition of one that is. -/
theorem WorkflowChanges.codec_ensures : WorkflowChanges.codec.Ensures fun c =>
    ∀ d : Definition, d.WellFormed → (c.apply d).WellFormed :=
  .record <| (Ensures.map (.optional .boundedText)
    |>.seq (.any _)
    |>.seq (.optional Trigger.codec_ensures)
    |>.seq (.optional (.list Node.codec_ensures))
    |>.seq (.any _)
    |>.seq (.any _)
    |>.seq (.any _)).mono (by
      rintro c ⟨_, _, ⟨_, _, ⟨_, _, ⟨_, nodes?, ⟨_, trigger?, ⟨_, _, ⟨name?, hname, rfl⟩, _, rfl⟩,
        htrigger, rfl⟩, hnodes, rfl⟩, _, rfl⟩, _, rfl⟩, _, rfl⟩ d hd
      refine ⟨?_, ?_, ?_, ?_⟩
      · cases name? with
        | none => exact hd.name_ne
        | some name => exact (hname name rfl).1
      · cases name? with
        | none => exact hd.name_le
        | some name => exact (hname name rfl).2 255 rfl
      · cases trigger? with
        | none => exact hd.trigger
        | some trigger => exact htrigger trigger rfl
      · cases nodes? with
        | none => exact hd.nodes
        | some nodes => exact hnodes nodes rfl)

/-- A use of a template that was read makes a well-formed workflow. -/
theorem TemplateUse.codec_ensures : TemplateUse.codec.Ensures fun u =>
    ∀ d : Definition, d.WellFormed → (u.workflow d).definition.WellFormed :=
  .record <| (Ensures.map (.optional .boundedText) |>.seq (.any _)).mono (by
    rintro u ⟨_, _, ⟨name?, hname, rfl⟩, _, rfl⟩ d hd
    refine ⟨?_, ?_, hd.trigger, hd.nodes⟩
    · cases name? with
      | none => exact hd.name_ne
      | some name => exact (hname name rfl).1
    · cases name? with
      | none => exact hd.name_le
      | some name => exact (hname name rfl).2 255 rfl)

/-- The row of a new workflow keeps its definition. -/
theorem NewWorkflow.row_keeps (w : NewWorkflow) (id tenant user : String) (now : Time.Stamp) :
    (w.row id tenant user now : WorkflowRow τ).Keeps w.definition :=
  ⟨rfl, rfl, rfl, rfl, rfl, rfl, rfl, rfl⟩

end Automation
