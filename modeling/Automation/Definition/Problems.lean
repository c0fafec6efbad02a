import Automation.Condition.Parser
import Automation.Definition.Codec
import Automation.Definition.Graph
import Automation.Schedule.Due

/-!
# Problems of a definition

What would keep a definition with the right shape from running: references to nodes that are not
there, ids that are not clear, conditions that cannot be read, and schedules that never fire.
-/

namespace Automation

open Schema

/-- Something wrong with a definition. -/
inductive Problem where
  | noNodes
  | duplicateIds (ids : List String)
  | severalEntries (ids : List String)
  | missingNext (node target : String)
  | missingTarget (node : String) (side : Bool) (target : String)
  | badCondition (node expression : String) (fault : Condition.SyntaxFault)
  | blankItems (node : String)
  | missingBody (node target : String)
  | noSchedule
  | badSchedule (expression : String) (fault : ScheduleFault)
deriving DecidableEq, Repr

/-- The name of a side of a branch. -/
def sideName (side : Bool) : String := if side then "trueActions" else "falseActions"

/-- A problem in words. -/
def Problem.message : Problem → String
  | .noNodes => "Workflow has no actions"
  | .duplicateIds ids => "Duplicate action IDs found: " ++ Text.join ", " ids
  | .severalEntries ids => "More than one entry action: " ++ Text.join ", " ids
  | .missingNext node target => s!"Action '{node}' references non-existent action '{target}'"
  | .missingTarget node side target =>
    s!"Condition '{node}' {sideName side} references non-existent action '{target}'"
  | .badCondition node expression fault =>
    s!"Condition '{node}': {Condition.syntaxMessage expression fault}"
  | .blankItems node => s!"Loop '{node}' missing items variable path"
  | .missingBody node target => s!"Loop '{node}' references non-existent action '{target}'"
  | .noSchedule => "Schedule trigger missing schedule"
  | .badSchedule expression fault => s!"Invalid schedule '{expression}': {fault.message}"

/-- A definition cannot be judged if a condition holds an integer of too many digits. -/
structure LongInteger where
  digits : Nat
deriving DecidableEq, Repr

/-- A definition that cannot be judged, in words. -/
def LongInteger.message (fault : LongInteger) : String := Number.tooManyDigitsMessage fault.digits

/-! ## Nodes -/

/-- Problems with the condition of a branch. -/
def conditionProblems (node expression : String) : Except LongInteger (List Problem) :=
  match Condition.read expression with
  | .ok _ => .ok []
  | .error (.badSyntax fault) => .ok [.badCondition node expression fault]
  | .error (.longInteger digits) => .error ⟨digits⟩

/-- Problems with a side of a branch. -/
def sideProblems (known : List String) (node : String) (side : Bool) (targets : List String) :
    List Problem :=
  (targets.filter fun target => !known.contains target).map (.missingTarget node side)

/-- Problems with what a node does. -/
def Work.problems (known : List String) (node : String) : Work → Except LongInteger (List Problem)
  | .condition b => do
    let unreadable ← conditionProblems node b.condition
    return sideProblems known node true b.trueActions
      ++ sideProblems known node false b.falseActions
      ++ unreadable
  | .loop l => .ok <|
    (if Text.isBlank l.items then [.blankItems node] else [])
      ++ (if known.contains l.actionId then [] else [.missingBody node l.actionId])
  | .action _ | .delay _ => .ok []

/-- Problems with a node. -/
def Node.problems (known : List String) (n : Node) : Except LongInteger (List Problem) := do
  let next := (n.next?.toList.filter fun target => !known.contains target).map
    (Problem.missingNext n.id)
  return next ++ (← n.work.problems known n.id)

/-! ## Triggers -/

/-- Problems with the schedule of a trigger. -/
def Trigger.problems (t : Trigger) : List Problem :=
  match t.schedule with
  | none => if t.kind = .schedule then [.noSchedule] else []
  -- A schedule is judged under every kind of trigger, also where nothing looks at it.
  | some s =>
    match s.read with
    | .ok _ => []
    | .error fault => [.badSchedule s.expression fault]

/-! ## Definitions -/

/-- The texts that occur more than once, each once, in order of their characters. -/
def repeated (ids : List String) : List String :=
  ((ids.filter fun id => 1 < ids.count id).eraseDups).mergeSort fun a b => decide (a ≤ b)

namespace Definition

/-- The ids of the nodes that are marked as the entry. -/
def entryIds (d : Definition) : List String := (d.actions.filter (·.entry)).map (·.id)

/-- All problems of a definition. -/
def problems (d : Definition) : Except LongInteger (List Problem) := do
  let duplicates := repeated d.nodeIds
  let ofNodes ← d.actions.mapM (Node.problems d.nodeIds)
  return (if d.actions.isEmpty then [.noNodes] else [])
    ++ (if duplicates.isEmpty then [] else [.duplicateIds duplicates])
    ++ (if 1 < d.entryIds.length then [.severalEntries d.entryIds] else [])
    ++ ofNodes.flatten ++ d.trigger.problems

/-- A definition without problems. -/
def Valid (d : Definition) : Prop := d.problems = .ok []

instance (d : Definition) : Decidable d.Valid :=
  match h : d.problems with
  | .ok [] => isTrue h
  | .ok (_ :: _) => isFalse (by simp [Valid, h])
  | .error _ => isFalse (by simp [Valid, h])

/-- All problems in one message. -/
def problemsMessage (problems : List Problem) : String :=
  "Workflow validation failed: " ++ Text.join "; " (problems.map Problem.message)

end Definition

/-! ## Reports -/

/-- What is told about a definition. -/
structure Report where
  problems : List Problem
  /-- The nodes that no walk visits, if there are no problems. -/
  unreachable : List String
deriving DecidableEq, Repr

/-- The report on a definition. -/
def Definition.report (d : Definition) : Except LongInteger Report := do
  let problems ← d.problems
  return { problems, unreachable := if problems.isEmpty then d.unreachable else [] }

/-- The warning about a node that no walk visits. -/
def unreachableWarning (node : String) : String :=
  s!"Action '{node}' is not reachable from the entry action"

/-- A report in words. -/
structure Judgement where
  valid : Bool
  errors : List String := []
  warnings : List String := []
deriving DecidableEq, Repr

/-- Reports in words. -/
def Judgement.codec : Codec Judgement := .record "ValidationReport" <|
  Judgement.mk
    <$> .required (.plain "valid") (·.valid) .flag
    <*> .default (.plain "errors") (·.errors) (.list .text) []
    <*> .default (.plain "warnings") (·.warnings) (.list .text) []

/-- What a report says. -/
def Report.judgement (r : Report) : Judgement where
  valid := r.problems.isEmpty
  errors := r.problems.map Problem.message
  warnings := r.unreachable.map unreachableWarning

/-- A report as it is answered. -/
def Report.toValue (r : Report) : Value := Judgement.codec.write .full r.judgement

end Automation
