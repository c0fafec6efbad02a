import Automation.Event
import Automation.Value.Display

/-!
# Run contexts

What templates and conditions can look up while a run goes on, in five layers: the locals of the
loops around the node, the outputs of the nodes visited so far, the fields of the event, the
workflow's variables, and the system's own values under one name.
-/

namespace Automation

open Schema

/-! ## Data in place of mappings -/

/-- Why data cannot be used as a mapping. -/
inductive Misfit where
  /-- It has no elements among which a name can be. -/
  | noElements (kind : String)
  /-- A name is in a text, whose characters have no names. -/
  | namesInText
  /-- A name is in a list, whose elements have no names, or it would be put there. -/
  | namesInList
  | noAssignment (kind : String)
  | noGet (kind : String)
deriving DecidableEq, Repr

/-- The misfit in words. -/
def Misfit.message : Misfit → String
  | .noElements kind => s!"argument of type '{kind}' is not iterable"
  | .namesInText => "string indices must be integers, not 'str'"
  | .namesInList => "list indices must be integers or slices, not str"
  | .noAssignment kind => s!"'{kind}' object does not support item assignment"
  | .noGet kind => s!"'{kind}' object has no attribute 'get'"

namespace Value

/-- Look for a name in data that is no mapping. It is not there, or it can be no more than found. -/
def missesName (v : Value) (name : String) : Except Misfit Unit :=
  match v with
  | .text s => if Text.hasPart name.toList s.toList then .error .namesInText else .ok ()
  | .list items => if items.contains (.text name) then .error .namesInList else .ok ()
  | v => .error (.noElements v.kindWord)

/-- Why nothing can be put under a name in data that is no mapping. -/
def assignMisfit : Value → Misfit
  | .list _ => .namesInList
  | v => .noAssignment v.kindWord

end Value

/-! ## Contexts -/

/-- Why a path cannot be looked up at all. -/
inductive LookupFault where
  /-- An index with digits that write no number. -/
  | badIndex (key : String)
  /-- An index with too many digits. -/
  | longIndex (digits : Nat)
  /-- A layer is no mapping. -/
  | misfit (m : Misfit)
deriving DecidableEq, Repr

/-- The fault in words. -/
def LookupFault.message : LookupFault → String
  | .badIndex key => "invalid literal for int() with base 10: " ++ Value.quoted key
  | .longIndex digits => Number.tooManyDigitsMessage digits
  | .misfit m => m.message

/-- What stands in a restored context in place of its mappings. No run begins with any of it. -/
structure Oddities where
  vars : Option Value := none
  outputs : Option Value := none
  locals : Option Value := none
  system : Option Value := none
deriving DecidableEq, Inhabited

/-- What can be looked up at a point of a run. A mapping counts unless something is in its place. -/
structure Context where
  runId : Value
  event : Event
  workflowId : Value
  tenantId : Value
  vars : Entries Value
  outputs : Entries Value := []
  locals : Entries Value := []
  system : Entries Value
  odd : Oddities := {}
deriving DecidableEq, Inhabited

/-- A layer of a context: a mapping, or what is in its place. -/
structure Layer where
  entries : Entries Value
  odd : Option Value := none

/-- The value under a name in a layer. -/
def Layer.get? (layer : Layer) (name : String) : Except Misfit (Option Value) :=
  match layer.odd with
  | none => .ok (layer.entries.get? name)
  | some v => (v.missesName name).map fun _ => none

namespace Context

/-- The context at the start of a run. -/
def create (runId : String) (event : Event) (workflowId tenantId : Option String)
    (vars : Entries Value) (now : Time.Stamp) : Context where
  runId := .text runId
  event
  workflowId := .optText workflowId
  tenantId := .optText tenantId
  vars
  system :=
    [("timestamp", .text now.iso), ("date", .text (Time.Stamp.writeShortDate now.date)),
     ("time", .text now.writeClock), ("run_id", .text runId),
     ("workflow_id", .optText workflowId), ("tenant_id", .optText tenantId)]

/-- The context of a loop's body: further locals over the old ones. -/
def child (c : Context) (bindings : Entries Value) : Context :=
  { c with locals := c.locals.merge bindings }

/-- The context with a node's output. -/
def recordOutput (c : Context) (nodeId : String) (output : Value) : Context :=
  { c with outputs := c.outputs.set nodeId output }

/-! ## Looking up -/

/-- The names in a dotted path. -/
def pathKeys (path : String) : List String :=
  (Text.splitOn '.' (Text.strip path).toList).filterMap fun piece =>
    if piece.isEmpty then none else some (String.ofList piece)

/-- A key of digits in the wider sense is an index. -/
def isIndex (key : String) : Bool := !key.isEmpty && key.toList.all Text.isFigure

/-- The number of an index. -/
def indexOf (key : String) : Except LookupFault Nat :=
  match Text.natOfDigits? key.toList with
  | none => .error (.badIndex key)
  | some n => if Number.digitLimit < key.length then .error (.longIndex key.length) else .ok n

/-- Follow keys into a value: names into objects, indices into lists. -/
def walk : List String → Value → Except LookupFault (Option Value)
  | [], v => .ok (some v)
  | key :: keys, .object fields =>
    match Entries.get? key fields with
    | some v => walk keys v
    | none => .ok none
  | key :: keys, .list items =>
    if isIndex key then
      -- A superscript two is a figure, yet no number: this is a fault, and not a missing element.
      match indexOf key with
      | .error fault => .error fault
      | .ok i =>
        match items[i]? with
        | some v => walk keys v
        | none => .ok none
    else .ok none
  | _ :: _, _ => .ok none

/-- The layers, the nearest first. -/
def layers (c : Context) : List Layer :=
  [⟨c.locals, c.odd.locals⟩, ⟨c.outputs, c.odd.outputs⟩, ⟨c.event.fields, none⟩,
   ⟨c.vars, c.odd.vars⟩, ⟨[("_system", c.odd.system.getD (.object c.system))], none⟩]

/-- The first layer that knows the head of a path and has a value at its end decides. -/
def lookupIn (head : String) (rest : List String) :
    List Layer → Except LookupFault (Option Value)
  | [] => .ok none
  | layer :: layers =>
    match layer.get? head with
    | .error misfit => .error (.misfit misfit)
    | .ok none => lookupIn head rest layers
    | .ok (some v) =>
      match walk rest v with
      | .error fault => .error fault
      | .ok (some found) => .ok (some found)
      -- A layer that knows only the head does not hide the layers behind it.
      | .ok none => lookupIn head rest layers

/-- The value at a dotted path. -/
def lookup (c : Context) (path : String) : Except LookupFault (Option Value) :=
  match pathKeys path with
  | [] => .ok none
  | head :: rest => lookupIn head rest c.layers

/-! ## Idempotency -/

/-- The key of a write to the record store: the same for every attempt at a visit of a node, and
told apart by the loop iterations around it. -/
def idempotencyKey (c : Context) (nodeId : String) : String :=
  let key := c.runId.display ++ ":" ++ nodeId
  match c.locals.get? "_iteration" with
  -- The ids of nodes may hold colons too, so this can be the key of a node outside of loops.
  | some iteration => key ++ ":" ++ iteration.display
  | none => key

/-- The key of a write, if the locals can be asked for the iteration. -/
def writeKey (c : Context) (nodeId : String) : Except Misfit String :=
  match c.odd.locals with
  | none => .ok (c.idempotencyKey nodeId)
  | some v => (v.missesName "_iteration").map fun _ => c.idempotencyKey nodeId

/-! ## Recording -/

/-- Why no output can be kept. -/
def outputsMisfit (c : Context) : Option Misfit := c.odd.outputs.map Value.assignMisfit

/-- Why the locals cannot be asked for the index of the iteration. -/
def localsMisfit (c : Context) : Option Misfit := c.odd.locals.map fun v => .noGet v.kindWord

/-! ## Stored form -/

/-- The context as it is stored with a suspended run. -/
def toValue (c : Context) : Value := .object
  [("run_id", c.runId), ("workflow_id", c.workflowId), ("tenant_id", c.tenantId),
   ("event", Event.codec.write .full c.event), ("variables", c.odd.vars.getD (.object c.vars)),
   ("outputs", c.odd.outputs.getD (.object c.outputs)),
   ("locals", c.odd.locals.getD (.object c.locals)),
   ("system", c.odd.system.getD (.object c.system))]

/-- Why a stored context cannot be restored. -/
inductive RestoreFault where
  /-- The run's id is missing. -/
  | noRunId
  /-- The event has issues. -/
  | badEvent (issues : List Issue)
deriving DecidableEq, Repr

/-- A stored map. What counts as nothing is the empty map. -/
def storedMap (name : String) (data : Entries Value) : Entries Value :=
  match data.get? name with
  | some (.object fields) => fields
  | _ => []

/-- What is stored in place of a map. -/
def storedOddity (name : String) (data : Entries Value) : Option Value :=
  match data.get? name with
  | some (.object _) | none => none
  | some v => if v.isEmptyLike then none else some v

/-- The context of a stored form. -/
def ofEntries (data : Entries Value) : Except RestoreFault Context :=
  match data.get? "run_id" with
  | none => .error .noRunId
  | some runId =>
    -- A run that was stored without its event goes on as one that was started by hand.
    let stored := (data.get? "event").getD .null
    let event := if stored.isEmptyLike then .object [("type", .text "manual")] else stored
    match Event.codec.read event with
    | .bad issues => .error (.badEvent issues)
    | .ok event =>
      .ok
        { runId, event
          workflowId := (data.get? "workflow_id").getD .null
          tenantId := (data.get? "tenant_id").getD .null
          vars := storedMap "variables" data
          outputs := storedMap "outputs" data
          locals := storedMap "locals" data
          system := storedMap "system" data
          odd :=
            { vars := storedOddity "variables" data, outputs := storedOddity "outputs" data
              locals := storedOddity "locals" data, system := storedOddity "system" data } }

end Context

end Automation
