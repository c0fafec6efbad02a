import Automation.Definition.Codec

/-!
# Requests about workflows

What a caller sends to create a workflow, to change one, or to make one from a template.
-/

namespace Automation

open Schema

/-- A workflow to be created. -/
structure NewWorkflow where
  name : String
  description : Option String := none
  enabled : Bool := false
  trigger : Trigger
  actions : List Node := []
  vars : Entries String := []
  category : Category := .custom
  tags : List String := []
  isTemplate : Bool := false
deriving DecidableEq

/-- Workflows to be created. -/
def NewWorkflow.codec : Codec NewWorkflow := .record "WorkflowCreate" <|
  NewWorkflow.mk
    <$> .required (.plain "name") (·.name) workflowName
    <*> .optional (.plain "description") (·.description) .text
    <*> .default (.plain "enabled") (·.enabled) .flag false
    <*> .required (.plain "trigger") (·.trigger) Trigger.codec
    <*> .default (.plain "actions") (·.actions) (.list Node.codec) []
    <*> .default (.plain "variables") (·.vars) (.dictionary .text) []
    <*> .default (.plain "category") (·.category) Category.codec .custom
    <*> .default (.plain "tags") (·.tags) (.list .text) []
    <*> .default ⟨"is_template", "isTemplate"⟩ (·.isTemplate) .flag false

/-- Changes to a workflow. What is not given stays; only a description can be taken away. -/
structure WorkflowChanges where
  name : Option String := none
  description : Option (Option String) := none
  trigger : Option Trigger := none
  actions : Option (List Node) := none
  vars : Option (Entries String) := none
  category : Option Category := none
  tags : Option (List String) := none
deriving DecidableEq

/-- A value or null that is there. -/
def given {α : Type} (c : Codec α) : Codec (Option (Option α)) where
  read x := (c.optional.read x).map some
  write layout a := c.optional.write layout a.join

/-- Changes to workflows. -/
def WorkflowChanges.codec : Codec WorkflowChanges := .record "WorkflowUpdate" <|
  WorkflowChanges.mk
    <$> .optional (.plain "name") (·.name) workflowName
    <*> .default (.plain "description") (·.description) (given .text) none
    <*> .optional (.plain "trigger") (·.trigger) Trigger.codec
    <*> .optional (.plain "actions") (·.actions) (.list Node.codec)
    <*> .optional (.plain "variables") (·.vars) (.dictionary .text)
    <*> .optional (.plain "category") (·.category) Category.codec
    <*> .optional (.plain "tags") (·.tags) (.list .text)

/-- What a workflow made from a template has of its own. -/
structure TemplateUse where
  name : Option String := none
  vars : Option (Entries String) := none
deriving DecidableEq

/-- Uses of templates. -/
def TemplateUse.codec : Codec TemplateUse := .record "TemplateInstantiate" <|
  TemplateUse.mk
    <$> .optional (.plain "name") (·.name) workflowName
    <*> .optional (.plain "variables") (·.vars) (.dictionary .text)

end Automation
