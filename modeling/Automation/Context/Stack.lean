import Automation.Context

/-!
# Contexts that share outputs

A loop's context shares the outputs of the context that it comes from: what one records, the other
sees. A restored context has outputs of its own.
-/

namespace Automation.Context

/-- Contexts in the order of their creation, each with the number of the outputs that it shares. -/
structure Stack where
  members : List (Nat × Context) := []
  nextGroup : Nat := 0

namespace Stack

/-- Add a context with outputs of its own. -/
def push (s : Stack) (c : Context) : Stack :=
  { members := s.members ++ [(s.nextGroup, c)], nextGroup := s.nextGroup + 1 }

/-- The context at a position. -/
def get? (s : Stack) (position : Nat) : Option Context := s.members[position]?.map (·.2)

/-- Add a child of the context at a position. -/
def pushChild (s : Stack) (position : Nat) (bindings : Entries Value) : Stack :=
  match s.members[position]? with
  | some (group, c) => { s with members := s.members ++ [(group, c.child bindings)] }
  | none => s

/-- Record an output in the context at a position and in all that share its outputs. -/
def recordOutput (s : Stack) (position : Nat) (nodeId : String) (output : Value) : Stack :=
  match s.members[position]? with
  | some (group, _) =>
    { s with
      members := s.members.map fun (g, c) =>
        (g, if g = group then c.recordOutput nodeId output else c) }
  | none => s

end Stack

end Automation.Context
