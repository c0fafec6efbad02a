import Automation.Store.Failure

/-!
# The store

Two tables of rows in the order of their insertion, and a count of the ids that were given out. An
operation reads and changes the store and may fail; what it did before it failed stays, so every
operation checks first and changes once.
-/

namespace Automation

/-- Which uses of the store fail while it is out of order. -/
inductive OutagePlace where
  | commit
  | query
deriving DecidableEq, Repr

/-- A store that is out of order: all uses of one sort fail behind the first few. -/
structure Outage where
  place : OutagePlace
  message : String
  spared : Nat := 0
deriving DecidableEq, Repr

/-- The stored workflows and runs. -/
structure Store (τ : Type) where
  workflows : List (WorkflowRow τ) := []
  runs : List RunRow := []
  /-- How many ids were given out. -/
  given : Nat := 0
  outage : Option Outage := none
deriving DecidableEq

namespace Store

variable {τ : Type}

/-- The stored workflow of an id. -/
def workflow? (s : Store τ) (id : String) : Option (WorkflowRow τ) := s.workflows.find? (·.id = id)

/-- The stored run of an id. -/
def run? (s : Store τ) (id : String) : Option RunRow := s.runs.find? (·.id = id)

/-- The store with a change to the workflow of an id. -/
def changeWorkflow (s : Store τ) (id : String) (f : WorkflowRow τ → WorkflowRow τ) : Store τ :=
  { s with workflows := s.workflows.map fun r => if r.id = id then f r else r }

/-- The store with a change to the run of an id. -/
def changeRun (s : Store τ) (id : String) (f : RunRow → RunRow) : Store τ :=
  { s with runs := s.runs.map fun r => if r.id = id then f r else r }

/-- The store with one more workflow. -/
def insertWorkflow (s : Store τ) (r : WorkflowRow τ) : Store τ :=
  { s with workflows := s.workflows ++ [r] }

/-- The store with one more run. -/
def insertRun (s : Store τ) (r : RunRow) : Store τ := { s with runs := s.runs ++ [r] }

/-- The store without the workflow of an id. Its runs stay. -/
def removeWorkflow (s : Store τ) (id : String) : Store τ :=
  { s with workflows := s.workflows.filter (·.id ≠ id) }

/-- Use the store in one way, which fails if that is out of order. -/
def use (s : Store τ) (place : OutagePlace) : Except StoreFault Unit × Store τ :=
  match s.outage with
  | none => (.ok (), s)
  | some o =>
    if o.place ≠ place then (.ok (), s)
    else match o.spared with
      | 0 => (.error (.outage o.message), s)
      | spared + 1 => (.ok (), { s with outage := some { o with spared } })

end Store

/-! ## Operations -/

/-- A computation on the store that may fail. -/
abbrev Operation (τ α : Type) := ExceptT Failed (StateM (Store τ)) α

namespace Operation

variable {τ α : Type}

/-- Use the store in one way. -/
def use (place : OutagePlace) : Operation τ Unit := fun s =>
  let (result, s) := s.use place
  (result.mapError .store, s)

/-- Ask the store for something. -/
def query (f : Store τ → α) : Operation τ α := do
  use .query
  return f (← get)

/-- Change the store, unless the change is refused. -/
def commit (f : Store τ → Except StoreFault (Store τ)) : Operation τ Unit := do
  use .commit
  match f (← get) with
  | .ok s => set s
  | .error fault => throw (.store fault)

/-- An id that was never given out before. -/
def freshId : Operation τ String := do
  modify fun s => { s with given := s.given + 1 }
  return s!"id-{(← get).given}"

/-- Fail if something is not there. -/
def found (a : Option α) (failure : Failed) : Operation τ α :=
  match a with
  | some a => pure a
  | none => throw failure

/-- The result of a computation that needs no store. -/
def of : Except Failed α → Operation τ α
  | .ok a => pure a
  | .error failure => throw failure

/-- The value of a computation that may fail for reasons of its own. -/
def lifted {ε : Type} (cause : ε → Failed) : Except ε α → Operation τ α
  | .ok a => pure a
  | .error e => throw (cause e)

end Operation

end Automation
