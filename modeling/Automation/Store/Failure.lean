import Automation.Run.Start
import Automation.Store.Row

/-!
# Failures

Why an operation on workflows and runs has no result.
-/

namespace Automation

open Schema

/-- Why an operation fails. -/
inductive Failed where
  | noWorkflow (id : String)
  | noTemplate (id : String)
  | noRun (id : String)
  /-- The workflow belongs to another tenant than the one that asks for it. -/
  | foreignWorkflow (id tenant : String)
  | foreignRun (id tenant : String)
  /-- The definition cannot be run. -/
  | invalid (problems : List Problem)
  /-- The definition cannot be judged. -/
  | longInteger (fault : LongInteger)
  /-- The stored definition cannot be rebuilt. -/
  | unreadable (fault : WorkflowRow.Unreadable)
  /-- A stored kind of trigger that does not exist. -/
  | noTriggerKind (name : String)
  /-- Data that do not have the shape of that name. -/
  | badRecord (shape : String) (issues : List Issue)
  | store (fault : StoreFault)
  /-- A run ended without a result. -/
  | escape (cause : Escape)
  | noJob (id : String)
  /-- There is no dispatcher. -/
  | notReady
deriving DecidableEq

namespace Failed

/-- The failure in words. -/
def message : Failed → String
  | .noWorkflow id => s!"Workflow {id} not found"
  | .noTemplate id => s!"Template {id} not found"
  | .noRun id => s!"Run {id} not found"
  | .foreignWorkflow id tenant => s!"Workflow {id} does not belong to tenant {tenant}"
  | .foreignRun id tenant => s!"Run {id} does not belong to tenant {tenant}"
  | .invalid problems => Definition.problemsMessage problems
  | .longInteger fault => fault.message
  | .unreadable fault => fault.message
  | .noTriggerKind name => Value.quoted name ++ " is not a valid TriggerType"
  | .badRecord shape issues => summary shape issues
  | .store fault => fault.message
  | .escape cause => cause.message
  | .noJob id => Value.quoted id
  | .notReady => "Workflow dispatcher has not been configured"

/-- The reasons why a definition is rejected, if that is the failure. -/
def rejection? : Failed → Option (List String)
  | .invalid problems => some (problems.map Problem.message)
  | .unreadable (.refused refusal) => some refusal.reasons
  | _ => none

end Failed

end Automation
