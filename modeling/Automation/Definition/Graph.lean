import Automation.Definition.Basic

/-!
# The graph of a definition

Nodes refer to one another by id: each to the node after it, a branch to the nodes of its two sides,
a loop to its body. Where an id stands twice, the later node has it.
-/

namespace Automation

/-- The nodes that a work leads to. -/
def Work.targets : Work → List String
  | .condition b => b.trueActions ++ b.falseActions
  | .loop l => [l.actionId]
  | .action _ | .delay _ => []

/-- The node after a node, unless its id is empty. -/
def Node.next? (n : Node) : Option String := n.nextAction.filter (!·.isEmpty)

/-- All nodes that a node leads to. -/
def Node.targets (n : Node) : List String := n.next?.toList ++ n.work.targets

namespace Definition

/-- The ids of all nodes, in order. -/
def nodeIds (d : Definition) : List String := d.actions.map (·.id)

/-- The node of an id: the last one that has it. -/
def node? (d : Definition) (id : String) : Option Node := d.actions.reverse.find? (·.id = id)

/-- The node at which a run starts: the first that is marked, or the first of all. -/
def entry? (d : Definition) : Option Node :=
  (d.actions.find? (·.entry)).or d.actions.head?

/-! ## Reachable nodes -/

/-- The ids that have not been seen. -/
def unseen (d : Definition) (seen : List String) : List String :=
  d.nodeIds.filter fun id => !seen.contains id

/-- A known id that is seen for the first time is one less that has not been seen. -/
theorem length_unseen_cons_lt {d : Definition} {id : String} {seen : List String}
    (known : id ∈ d.nodeIds) (fresh : seen.contains id = false) :
    (d.unseen (id :: seen)).length < (d.unseen seen).length := by
  have split : d.unseen (id :: seen) = (d.unseen seen).filter fun x => !(x == id) := by
    simp only [unseen, List.filter_filter]
    congr 1
    funext x
    simp only [List.contains_cons, Bool.not_or]
  rw [split]
  apply List.length_filter_lt_length_iff_exists.mpr
  exact ⟨id, by simpa [unseen] using ⟨known, by simpa using fresh⟩, by simp⟩

/-- The node of an id is among the nodes. -/
theorem mem_nodeIds_of_node? {d : Definition} {id : String} {n : Node} (h : d.node? id = some n) :
    id ∈ d.nodeIds := by
  have found := List.find?_some h
  have mem := List.mem_of_find?_eq_some h
  simp only [decide_eq_true_eq] at found
  exact List.mem_map.mpr ⟨n, by simpa using mem, found⟩

/-- The ids that can be reached from pending ones, beside those that were seen before. -/
def reach (d : Definition) (seen : List String) : List String → List String
  | [] => seen
  | id :: pending =>
    if _ : seen.contains id = false then
      match _ : d.node? id with
      | some n => d.reach (id :: seen) (n.targets ++ pending)
      | none => d.reach seen pending
    else d.reach seen pending
termination_by pending => ((d.unseen seen).length, pending.length)
decreasing_by
  · exact Prod.Lex.left _ _ (length_unseen_cons_lt (mem_nodeIds_of_node? ‹_›) ‹_›)
  · exact Prod.Lex.right _ (by simp)
  · exact Prod.Lex.right _ (by simp)

/-- The nodes that no walk from the entry can visit, in order. -/
def unreachable (d : Definition) : List String :=
  match d.entry? with
  | none => []
  | some entry =>
    let reached := d.reach [] [entry.id]
    d.nodeIds.filter fun id => !reached.contains id

end Definition

end Automation
