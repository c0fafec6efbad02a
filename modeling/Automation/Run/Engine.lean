import Automation.Action.Attempt
import Automation.Condition.Eval
import Automation.Definition.Problems
import Automation.Run.Result

/-!
# The engine

A run walks the graph of a definition from a node, leaves a result for every node that it visits,
and stops between nodes when it was aborted or when a budget is used up. Branches and loop bodies
are walks inside the walk. A long pause at the top level ends the walk for now: the run is suspended
and goes on when it is resumed.
-/

namespace Automation

/-! ## Settings -/

/-- How runs are carried out. -/
structure Engine where
  /-- The moment at which the clock reads zero. -/
  origin : Int
  places : Places
  retry : RetryPolicy := {}
  /-- The kinds of actions that cannot be carried out. -/
  missing : List String := []
  /-- Whether abort requests are looked for. -/
  watchesAborts : Bool := true
  /-- Whether pauses are told and not waited for. -/
  skipsPauses : Bool := false
  /-- The seconds from which on a pause at the top level suspends the run. -/
  suspendFrom : Option Float := none
  maxSteps : Int := 10000
  maxActive : Value.Quantity := .float 3600.0
  maxDepth : Int := 100

/-- The stamp of a reading of the clock. -/
def Engine.stamp (e : Engine) (reading : Nat) : Time.Stamp := Action.stampAt e.origin reading

/-! ## Halts -/

/-- What no one has foreseen in a step. -/
inductive Surprise where
  /-- The id of no node. -/
  | noNode (id : String)
  | lookup (fault : LookupFault)
  /-- An integer of too many digits in a condition. -/
  | longInteger (digits : Nat)
  | span (fault : Time.SpanFault)
  /-- A pause that breaks off. -/
  | pause (message : String)
  /-- A step that cannot be recorded. -/
  | badStep (issues : List Schema.Issue)
  /-- Outputs or locals that are no mapping. -/
  | misfit (m : Misfit)
deriving DecidableEq, Repr

/-- The surprise in words. -/
def Surprise.message : Surprise → String
  | .noNode id => Value.quoted id
  | .lookup fault => fault.message
  | .longInteger digits => Number.tooManyDigitsMessage digits
  | .span fault => fault.message
  | .pause message => message
  | .badStep issues => Schema.summary "StepResult" issues
  | .misfit m => m.message

/-- Why a walk stops before its end. -/
inductive Halt where
  /-- A step failed in a way that ends the run. -/
  | failed (message : String)
  | stepBudget (limit : Int)
  | depthBudget (limit : Int)
  | timeBudget (limit : Value.Quantity)
  | aborted (runId : String)
  | suspended (resumeNode : Option String) (resumeAt : Time.Stamp)
  | surprise (s : Surprise)
deriving DecidableEq

/-- A limit in words. -/
def limitText : Value.Quantity → String
  | .int n => toString n
  | .float x => Number.displayStyle.write x

/-- What is told about a halt that is no suspension. -/
def Halt.message : Halt → String
  | .failed message => message
  | .stepBudget limit => s!"Run exceeded its step budget ({limit})"
  | .depthBudget limit => s!"Run exceeded its nesting depth budget ({limit})"
  | .timeBudget limit => s!"Run exceeded its duration budget ({limitText limit})"
  | .aborted runId => s!"Run {runId} was aborted"
  | .suspended _ resumeAt => "suspended until " ++ resumeAt.iso
  | .surprise s => "Unexpected error: " ++ s.message

/-! ## The state of a run -/

/-- Where a run stands. -/
structure RunState (τ : Type) where
  runId : String
  workflow : Definition
  /-- What the walk can look up, without the locals of loops. -/
  context : Context
  startedAt : Time.Stamp
  stepResults : List StepResult := []
  stepsVisited : Int := 0
  /-- Active time before this segment. -/
  activeBefore : τ
  /-- The reading of the clock at the start of this segment. -/
  segmentStart : Nat
  /-- The time that this segment has spent in pauses. -/
  paused : τ
  /-- How many walks there are around the current one. -/
  depth : Nat := 0

/-- The active time of a run at a reading of the clock. -/
def RunState.active {τ : Type} [ActiveTime τ] (s : RunState τ) (reading : Nat) : τ :=
  ActiveTime.sub
    (ActiveTime.add s.activeBefore
      (ActiveTime.sub (ActiveTime.ofMicros reading) (ActiveTime.ofMicros s.segmentStart)))
    s.paused

/-- A part of a run: it changes the state, and it may halt. The state stays when it does. -/
abbrev Walk (τ α : Type) := ExceptT Halt (StateT (RunState τ) Dialogue) α

namespace Walk

variable {τ α : Type}

/-- A request within a run. -/
def request (r : Request) : Walk τ r.Answer := liftM (m := Dialogue) (Dialogue.request r)

/-- The reading of the clock. -/
def clock : Walk τ Nat := request .clock

/-- Stop with a surprise. -/
def surprise (s : Surprise) : Walk τ α := throw (.surprise s)

/-- The context at a node inside loops with some locals. -/
def contextWith (locals : Entries Value) : Walk τ Context := do
  return { (← get).context with locals }

/-- Go on unless something does not fit. -/
def unlessMisfit (misfit? : Context → Option Misfit) : Walk τ Unit := do
  match misfit? (← get).context with
  | some misfit => Walk.surprise (.misfit misfit)
  | none => pure ()

/-- Keep the output of a node. -/
def recordOutput (nodeId : String) (output : Entries Value) : Walk τ Unit := do
  unlessMisfit Context.outputsMisfit
  modify fun s => { s with context := s.context.recordOutput nodeId (.object output) }

/-- Wait, and count the time as a pause. -/
def wait [ActiveTime τ] (seconds : Float) : Walk τ Unit := do
  let start ← Walk.clock
  match ← Walk.request (.sleep seconds) with
  | .error message => Walk.surprise (.pause message)
  | .ok () =>
    let finish ← Walk.clock
    modify fun s =>
      { s with
        paused := ActiveTime.add s.paused
          (ActiveTime.sub (ActiveTime.ofMicros finish) (ActiveTime.ofMicros start)) }

/-- A walk one level deeper. The depth is the old one again however the walk ends. -/
def nested (walk : Walk τ α) : Walk τ α := fun s => do
  let (result, s) ← walk.run { s with depth := s.depth + 1 }
  return (result, { s with depth := s.depth - 1 })

end Walk

/-! ## Recording steps -/

/-- How a visit of a node began. -/
structure Visit where
  node : Node
  locals : Entries Value
  /-- The reading of the clock at the start. -/
  started : Nat

/-- What a visit did. -/
structure Outcome where
  status : StepStatus
  input : Option (Entries Value) := none
  output : Option (Entries Value) := none
  error : Option String := none
  errorKind : Option String := none
  attempts : Int := 1

namespace Visit

variable {τ : Type}

/-- The index of the innermost loop iteration. -/
def iteration (v : Visit) : Schema.Checked (Option Int) :=
  (Schema.Codec.optional .integer).read ((v.locals.get? "index").getD .null)

/-- The result of a visit. -/
def result (e : Engine) (v : Visit) (o : Outcome) (iteration : Option Int) (finished : Nat) :
    StepResult where
  nodeId := v.node.id
  nodeKind := v.node.work.kindName
  status := o.status
  input := o.input
  output := o.output
  error := o.error
  errorKind := o.errorKind
  attempts := o.attempts
  iteration
  startedAt := e.stamp v.started
  durationMs := millisBetween v.started finished

/-- Keep the result of a visit. -/
def record (e : Engine) (v : Visit) (o : Outcome) : Walk τ Unit := do
  Walk.unlessMisfit Context.localsMisfit
  let finished ← Walk.clock
  match v.iteration.under (.field "iteration") with
  | .bad issues => Walk.surprise (.badStep issues)
  | .ok iteration =>
    modify fun s => { s with stepResults := s.stepResults ++ [v.result e o iteration finished] }

/-- Keep the output of a visit, and its result. -/
def succeed (e : Engine) (v : Visit) (input output : Entries Value) (attempts : Int := 1) :
    Walk τ Unit := do
  -- The output comes first, so it stays in the context even if its result cannot be kept.
  Walk.recordOutput v.node.id output
  v.record e { status := .success, input := some input, output := some output, attempts }

/-- Keep a failure of a visit. A fatal one, and one of a node that aborts on failure, ends the
run. -/
def fail (e : Engine) (v : Visit) (error errorKind : String)
    (input : Option (Entries Value) := none) (attempts : Int := 1) (fatal : Bool := false) :
    Walk τ Unit := do
  v.record e
    { status := .failed, input, error := some error, errorKind := some errorKind, attempts }
  if fatal then throw (.failed error)
  if v.node.abortOnFailure then
    throw (.failed s!"Action '{v.node.id}' failed and is marked abort on failure: {error}")

end Visit

/-! ## Steps -/

namespace Engine

open Schema

variable {τ : Type}

/-- The configuration of an action with all placeholders filled in, checked again. -/
def resolveConfig (a : Action) (c : Context) : Except LookupFault (Checked Action) := do
  let resolved ← Template.resolveValue c (a.writeConfig .plain)
  return a.kind.readConfig resolved

/-- The name of the kind of a fault. -/
def faultKind : Fault → String
  | .failure f => f.kind.name
  | .defect _ => "permanent"

/-- Visit an action. -/
def visitAction (e : Engine) (v : Visit) (a : Action) : Walk τ Unit := do
  let c ← Walk.contextWith v.locals
  match resolveConfig a c with
  | .error fault => Walk.surprise (.lookup fault)
  | .ok (.bad issues) =>
    v.fail e ("Resolved config is invalid: " ++ summary a.kind.configTitle issues) "validation"
  | .ok (.ok a) =>
    let input := (a.writeConfig .full).fields?.getD []
    if e.missing.contains a.kind.name then
      v.fail e s!"No executor registered for '{a.kind.name}'" "fatal" input 1 true
    else
      let (result, attempts) ← a.perform v.node.id c e.places e.origin e.retry
      match result with
      | .ok output => v.succeed e input output attempts
      | .error (.failure f) =>
        v.fail e f.message f.kind.name input attempts (f.kind = .fatal)
      | .error fault => v.fail e fault.message (faultKind fault) input

/-- The output of a branch. -/
def branchOutput (result : Bool) : Entries Value :=
  [("result", .bool result), ("branch", .text (if result then "true" else "false"))]

/-- Visit a branch, and give the side that it takes. A condition that cannot be evaluated counts as
false. -/
def visitBranch (e : Engine) (v : Visit) (b : Branch) : Walk τ (List String) := do
  let input : Entries Value := [("condition", .text b.condition)]
  let c ← Walk.contextWith v.locals
  let result ← match Condition.evaluate b.condition c with
    | .ok result => do
      v.succeed e input (branchOutput result)
      pure result
    | .error (.unreadable (.badSyntax fault)) => do
      v.fail e (Condition.syntaxMessage b.condition fault) "validation" input
      pure false
    | .error (.undefined path) => do
      v.fail e (Condition.undefinedMessage b.condition path) "evaluation" input
      pure false
    -- What follows is no failure of the visit: it leaves no result and ends the run.
    | .error (.unreadable (.longInteger digits)) => Walk.surprise (.longInteger digits)
    | .error (.lookup fault) => Walk.surprise (.lookup fault)
  return if result then b.trueActions else b.falseActions

/-- The place of an iteration among all loops around it. -/
def iterationPath (locals : Entries Value) (index : Nat) : String :=
  match locals.get? "_iteration" with
  | none | some .null => toString index
  | some around => around.display ++ "." ++ toString index

/-- The locals of an iteration. -/
def iterationLocals (locals : Entries Value) (index : Nat) (item : Value) : Entries Value :=
  locals.merge [("item", item), ("index", .int index),
    ("_iteration", .text (iterationPath locals index))]

/-- Visit a loop, and give the locals of its iterations, one for each element in order. -/
def visitLoop (e : Engine) (v : Visit) (l : Loop) : Walk τ (List (Entries Value)) := do
  let input : Entries Value := [("items", .text l.items), ("actionId", .text l.actionId)]
  let path := Template.stripPlaceholder l.items
  let c ← Walk.contextWith v.locals
  match c.lookup path with
  | .error fault => Walk.surprise (.lookup fault)
  | .ok none => do
    v.fail e s!"Loop items '{path}' not found in context" "permanent" input
    return []
  | .ok (some (.list items)) => do
    v.succeed e input [("item_count", .int items.length)]
    return items.zipIdx.map fun (item, index) => iterationLocals v.locals index item
  | .ok (some _) => do
    v.fail e s!"Loop items '{path}' is not a list" "permanent" input
    return []

/-- Visit a pause: wait, or suspend the run if the pause is long and at the top level. -/
def visitDelay [ActiveTime τ] (e : Engine) (v : Visit) (d : Delay) (top : Bool) : Walk τ Unit := do
  let input := ((Delay.codec.write .full d).fields?).getD []
  let seconds := d.seconds
  if top && e.suspendFrom.any fun least => least ≤ seconds then
    match (Time.spanOfSeconds seconds).bind (e.stamp v.started).shift with
    | .error fault => Walk.surprise (.span fault)
    | .ok resumeAt =>
      v.succeed e input [("delay_seconds", .float seconds), ("resume_at", .text resumeAt.iso),
        ("suspended", .bool true)]
      -- The pause has its result now, and the resumed run begins with the node after it.
      throw (.suspended v.node.nextAction resumeAt)
  else
    unless e.skipsPauses do Walk.wait seconds
    v.succeed e input [("delay_seconds", .float seconds), ("suspended", .bool false)]

/-! ## The walk -/

/-- Between two nodes a run can be aborted, and its budgets are looked at. -/
def checkBoundary [ActiveTime τ] (e : Engine) : Walk τ Unit := do
  let s ← get
  if e.watchesAborts then
    let stop : Bool ← Walk.request (.aborted s.runId)
    if stop then throw (.aborted s.runId)
  if e.maxSteps ≤ s.stepsVisited then throw (.stepBudget e.maxSteps)
  let reading ← Walk.clock
  if ActiveTime.exceeds (s.active reading) e.maxActive then throw (.timeBudget e.maxActive)

/-- A walk inside the walk, unless there are too many around it. -/
def walkNested (e : Engine) (walk : Walk τ Unit) : Walk τ Unit := do
  if e.maxDepth ≤ (← get).depth then throw (.depthBudget e.maxDepth)
  Walk.nested walk

/-- Visit a node, and give the walks inside it, in order: where each begins, and its locals. -/
def visit [ActiveTime τ] (e : Engine) (n : Node) (locals : Entries Value) (top : Bool) :
    Walk τ (List (String × Entries Value)) := do
  let v : Visit := { node := n, locals, started := ← Walk.clock }
  match n.work with
  | .action a => do
    e.visitAction v a
    return []
  | .condition b => return (← e.visitBranch v b).map fun target => (target, locals)
  | .loop l => return (← e.visitLoop v l).map fun inner => (l.actionId, inner)
  | .delay d => do
    e.visitDelay v d top
    return []

/-- Walk from a node, if there is one. The fuel bounds the visits on any path: at its end the step
budget is used up, and the check before the visit stops the run. -/
def walk [ActiveTime τ] (e : Engine) :
    Nat → Option String → Entries Value → Bool → Walk τ Unit
  | _, none, _, _ => pure ()
  | fuel, some id, locals, top => do
    match (← get).workflow.node? id with
    -- A node that is not there is found missing before the run looks for requests and budgets.
    | none => Walk.surprise (.noNode id)
    | some n =>
      checkBoundary e
      modify fun s => { s with stepsVisited := s.stepsVisited + 1 }
      match fuel with
      | 0 => throw (.stepBudget e.maxSteps)
      | fuel + 1 =>
        let inner ← e.visit n locals top
        inner.forM fun (target, locals) => e.walkNested (e.walk fuel (some target) locals false)
        e.walk fuel n.nextAction locals top

/-- The fuel of a run that has visited some nodes. -/
def fuel (e : Engine) (visited : Int) : Nat := (e.maxSteps - visited).toNat

end Engine

end Automation
