import Automation.Definition.Graph
import Automation.Proofs.Definition.RoundTrip
import Automation.Proofs.Definition.Valid
import Mathlib.Data.List.Nodup
import Mathlib.Logic.Relation

/-!
# Reachable nodes

`Definition.Refers` says which node refers to which. The search from the entry finds exactly what can be
reached along references, on any graph: what it finds is reached by them (`reach_sound`), and nothing
leads out of what it has found when it ends (`reach_covers`).
-/

namespace Automation

variable {d : Definition} {n : Node} {a b id : String} {seen pending : List String}

namespace Definition

/-! ## References -/

/-- A node refers to the node after it, a branch to the nodes of its two sides, and a loop to the node of
its body. -/
inductive Refers (d : Definition) : String → String → Prop where
  | next {n : Node} {id : String} (hn : n ∈ d.actions) (h : n.nextAction = some id) : Refers d n.id id
  | whenTrue {n : Node} {branch : Branch} {id : String} (hn : n ∈ d.actions)
      (h : n.work = .condition branch) (hid : id ∈ branch.trueActions) : Refers d n.id id
  | whenFalse {n : Node} {branch : Branch} {id : String} (hn : n ∈ d.actions)
      (h : n.work = .condition branch) (hid : id ∈ branch.falseActions) : Refers d n.id id
  | body {n : Node} {l : Loop} (hn : n ∈ d.actions) (h : n.work = .loop l) : Refers d n.id l.actionId

theorem refers_iff :
    d.Refers a b ↔ ∃ n ∈ d.actions, n.id = a ∧ (n.nextAction = some b ∨ b ∈ n.work.targets) := by
  constructor
  · rintro (⟨hn, h⟩ | ⟨hn, h, hid⟩ | ⟨hn, h, hid⟩ | ⟨hn, h⟩)
    · exact ⟨_, hn, rfl, .inl h⟩
    · exact ⟨_, hn, rfl, .inr (h ▸ List.mem_append_left _ hid)⟩
    · exact ⟨_, hn, rfl, .inr (h ▸ List.mem_append_right _ hid)⟩
    · exact ⟨_, hn, rfl, .inr (h ▸ List.mem_singleton_self _)⟩
  · rintro ⟨n, hn, rfl, h | h⟩
    · exact .next hn h
    · cases hwork : n.work with
      | action | delay => simp [hwork, Work.targets] at h
      | condition branch =>
        rw [hwork] at h
        rcases List.mem_append.mp h with h | h
        · exact .whenTrue hn hwork h
        · exact .whenFalse hn hwork h
      | loop l =>
        rw [hwork] at h
        obtain rfl := List.mem_singleton.mp h
        exact .body hn hwork

theorem Refers.mem_nodeIds (h : d.Refers a b) : a ∈ d.nodeIds := by
  obtain ⟨n, hn, rfl, -⟩ := refers_iff.mp h
  exact List.mem_map_of_mem hn

/-- The search drops an empty id after a node, which is the id of no node. -/
theorem mem_targets_iff :
    b ∈ n.targets ↔ (n.nextAction = some b ∧ b ≠ "") ∨ b ∈ n.work.targets := by
  have hnext : n.next? = some b ↔ n.nextAction = some b ∧ b ≠ "" := by
    simp [Node.next?, Option.filter_eq_some_iff]
  rw [Node.targets, List.mem_append, Option.mem_toList, hnext]

theorem refers_of_target (hn : d.node? a = some n) (hb : b ∈ n.targets) : d.Refers a b := by
  obtain ⟨hmem, hid⟩ := node?_some hn
  exact refers_iff.mpr ⟨n, hmem, hid, (mem_targets_iff.mp hb).imp_left (·.1)⟩

/-- No two nodes have one id, so the node that is found has all references of its id. -/
theorem Sound.target_of_refers (h : d.Sound) (hn : d.node? a = some n) (hrefers : d.Refers a b)
    (hb : b ≠ "") : b ∈ n.targets := by
  obtain ⟨hmem, hid⟩ := node?_some hn
  obtain ⟨m, hm, hsame, hrefers⟩ := refers_iff.mp hrefers
  obtain rfl := List.inj_on_of_nodup_map h.ids hm hmem (hsame.trans hid.symm)
  exact mem_targets_iff.mpr (hrefers.imp_left (⟨·, hb⟩))

theorem WellFormed.empty_not_mem (h : d.WellFormed) : "" ∉ d.nodeIds := by
  intro hmem
  obtain ⟨n, hn, hid⟩ := List.mem_map.mp hmem
  have hlength := (h.nodes n hn).id
  rw [hid] at hlength
  simp at hlength

/-! ## The search -/

theorem reach_nil : d.reach seen [] = seen := by
  rw [reach]

theorem reach_node {start : String} (hfresh : seen.contains start = false)
    (hn : d.node? start = some n) :
    d.reach seen (start :: pending) = d.reach (start :: seen) (n.targets ++ pending) := by
  rw [reach, dif_pos hfresh]
  split <;> rename_i hfound <;> rw [hn] at hfound
  · obtain rfl := Option.some.inj hfound
    rfl
  · cases hfound

theorem reach_seen {start : String} (hseen : seen.contains start = true) :
    d.reach seen (start :: pending) = d.reach seen pending := by
  rw [reach, dif_neg (by rw [hseen]; decide)]

/-- What is found has been seen before, or is reached from where the search begins. -/
theorem reach_sound (h : id ∈ d.reach seen pending) :
    id ∈ seen ∨ ∃ start ∈ pending, Relation.ReflTransGen d.Refers start id := by
  fun_induction reach d seen pending with
  | case1 seen => exact .inl h
  | case2 seen start pending hfresh n hn ih =>
    rcases ih h with hseen | ⟨target, htarget, hreached⟩
    · rcases List.mem_cons.mp hseen with rfl | hseen
      · exact .inr ⟨id, List.mem_cons_self, .refl⟩
      · exact .inl hseen
    · rcases List.mem_append.mp htarget with htarget | htarget
      · exact .inr ⟨start, List.mem_cons_self, .head (refers_of_target hn htarget) hreached⟩
      · exact .inr ⟨target, List.mem_cons_of_mem _ htarget, hreached⟩
  | case3 seen start pending hfresh hn ih | case4 seen start pending hseen ih =>
    exact (ih h).imp_right fun ⟨first, hfirst, hreached⟩ =>
      ⟨first, List.mem_cons_of_mem _ hfirst, hreached⟩

/-- Every node that a node seen refers to has been seen too, or is still to be looked at. -/
def Covers (d : Definition) (seen pending : List String) : Prop :=
  ∀ a ∈ seen, ∀ b ∈ d.nodeIds, d.Refers a b → b ∈ seen ∨ b ∈ pending

/-- An id needs no look if it has been seen, or no node has it. -/
theorem Covers.drop {start : String} (h : d.Covers seen (start :: pending))
    (hstart : start ∈ d.nodeIds → start ∈ seen) : d.Covers seen pending := by
  intro a ha b hb hrefers
  rcases h a ha b hb hrefers with hseen | hpending
  · exact .inl hseen
  · rcases List.mem_cons.mp hpending with rfl | hpending
    · exact .inl (hstart hb)
    · exact .inr hpending

/-- A node has been looked at when all of its targets are to be. -/
theorem Covers.visit (hd : d.Sound) (hne : "" ∉ d.nodeIds) {start : String}
    (h : d.Covers seen (start :: pending)) (hn : d.node? start = some n) :
    d.Covers (start :: seen) (n.targets ++ pending) := by
  intro a ha b hb hrefers
  rcases List.mem_cons.mp ha with rfl | ha
  · have hnonempty : b ≠ "" := fun hempty => hne (hempty ▸ hb)
    exact .inr (List.mem_append_left _ (hd.target_of_refers hn hrefers hnonempty))
  · rcases h a ha b hb hrefers with hseen | hpending
    · exact .inl (List.mem_cons_of_mem _ hseen)
    · rcases List.mem_cons.mp hpending with rfl | hpending
      · exact .inl List.mem_cons_self
      · exact .inr (List.mem_append_right _ hpending)

/-- When nothing is left to be looked at, no reference leads out of what has been found, and all that was
to be looked at is in it. -/
theorem reach_covers (hd : d.Sound) (hne : "" ∉ d.nodeIds) (h : d.Covers seen pending) :
    d.Covers (d.reach seen pending) [] ∧ (∀ id ∈ seen, id ∈ d.reach seen pending) ∧
      ∀ id ∈ pending, id ∈ d.nodeIds → id ∈ d.reach seen pending := by
  fun_induction reach d seen pending with
  | case1 seen => exact ⟨h, fun _ hid => hid, nofun⟩
  | case2 seen start pending hfresh n hn ih =>
    obtain ⟨hclosed, hseen, hpending⟩ := ih (h.visit hd hne hn)
    refine ⟨hclosed, fun id hid => hseen id (List.mem_cons_of_mem _ hid), List.forall_mem_cons.mpr
      ⟨fun _ => hseen start List.mem_cons_self, fun id hid => hpending id (List.mem_append_right _ hid)⟩⟩
  | case3 seen start pending hfresh hn ih =>
    have hunknown : start ∉ d.nodeIds := fun hmem => by
      obtain ⟨n, hsome⟩ := node?_of_mem hmem
      rw [hn] at hsome
      cases hsome
    obtain ⟨hclosed, hseen, hpending⟩ := ih (h.drop fun hknown => absurd hknown hunknown)
    exact ⟨hclosed, hseen,
      List.forall_mem_cons.mpr ⟨fun hknown => absurd hknown hunknown, hpending⟩⟩
  | case4 seen start pending hold ih =>
    have hstart : start ∈ seen := by simpa using hold
    obtain ⟨hclosed, hseen, hpending⟩ := ih (h.drop fun _ => hstart)
    exact ⟨hclosed, hseen, List.forall_mem_cons.mpr ⟨fun _ => hseen start hstart, hpending⟩⟩

/-- What no reference leads out of holds all nodes that are reached from one in it. -/
theorem Covers.closed {start : String} (h : d.Covers seen []) (hstart : start ∈ seen)
    (hreached : Relation.ReflTransGen d.Refers start id) (hid : id ∈ d.nodeIds) : id ∈ seen := by
  induction hreached with
  | refl => exact hstart
  | tail _ hrefers ih =>
    rcases h _ (ih hrefers.mem_nodeIds) _ hid hrefers with hseen | hpending
    · exact hseen
    · cases hpending

theorem mem_unreachable_iff (hd : d.Sound) (hne : "" ∉ d.nodeIds) {entry : Node}
    (hentry : d.entry? = some entry) :
    id ∈ d.unreachable ↔ id ∈ d.nodeIds ∧ ¬ Relation.ReflTransGen d.Refers entry.id id := by
  have hfound : id ∈ d.nodeIds →
      (id ∈ d.reach [] [entry.id] ↔ Relation.ReflTransGen d.Refers entry.id id) := by
    intro hid
    constructor
    · intro h
      rcases reach_sound h with hseen | ⟨start, hstart, hreached⟩
      · cases hseen
      · rwa [List.mem_singleton.mp hstart] at hreached
    · intro hreached
      have hcovers : d.Covers [] [entry.id] := fun _ ha => absurd ha List.not_mem_nil
      obtain ⟨hclosed, -, hpending⟩ := reach_covers hd hne hcovers
      have hknown := List.mem_map_of_mem (f := Node.id) (entry?_mem hentry)
      exact hclosed.closed (hpending _ (List.mem_singleton_self _) hknown) hreached hid
  simp only [unreachable, hentry, List.mem_filter, Bool.not_eq_true', List.contains_eq_mem,
    decide_eq_false_iff_not]
  exact and_congr_right fun hid => not_congr (hfound hid)

theorem unreachable_sublist : d.unreachable.Sublist d.nodeIds := by
  unfold unreachable
  split
  · exact List.nil_sublist _
  · exact List.filter_sublist

end Definition

end Automation
