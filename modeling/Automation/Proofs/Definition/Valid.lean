import Automation.Definition.Problems
import Automation.Proofs.Schema.Reading

/-!
# Definitions without problems

A definition without problems has nodes, no two of one id, and every node that it refers to. An
empty id after a node is no reference to its checks, and it is the one exception
(`Definition.Sound.next_known`).
-/

namespace Automation

variable {d : Definition} {n : Node} {id : String}

/-! ## Problems of the parts -/

/-- Where nothing is found in any part, nothing is found in each. -/
theorem mapM_flatten_eq_nil {α β ε : Type} {f : α → Except ε (List β)} {xs : List α}
    {found : List (List β)} (h : xs.mapM f = .ok found) (hnil : found.flatten = []) :
    ∀ x ∈ xs, f x = .ok [] := by
  induction xs generalizing found with
  | nil => exact nofun
  | cons x xs ih =>
    rw [List.mapM_cons] at h
    obtain ⟨first, hfirst, h₁⟩ := Except.bind_eq_ok.mp h
    obtain ⟨rest, hrest, h₂⟩ := Except.bind_eq_ok.mp h₁
    cases h₂
    obtain ⟨rfl, htail⟩ := List.append_eq_nil_iff.mp hnil
    exact List.forall_mem_cons.mpr ⟨hfirst, ih hrest htail⟩

theorem filter_missing_eq_nil {known ids : List String}
    (h : (ids.filter fun id => !known.contains id) = []) : ∀ id ∈ ids, id ∈ known := by
  intro id hid
  have hknown := List.filter_eq_nil_iff.mp h id hid
  simpa using hknown

theorem Work.problems_eq_nil {known : List String} {node : String} {w : Work}
    (h : w.problems known node = .ok []) : ∀ id ∈ w.targets, id ∈ known := by
  cases w with
  | action a => exact nofun
  | delay d => exact nofun
  | condition b =>
    obtain ⟨unreadable, -, heq⟩ := Except.bind_eq_ok.mp h
    obtain ⟨hsides, -⟩ := List.append_eq_nil_iff.mp (Except.ok.inj heq)
    obtain ⟨htrue, hfalse⟩ := List.append_eq_nil_iff.mp hsides
    intro id hid
    rcases List.mem_append.mp hid with hid | hid
    · exact filter_missing_eq_nil (List.map_eq_nil_iff.mp htrue) id hid
    · exact filter_missing_eq_nil (List.map_eq_nil_iff.mp hfalse) id hid
  | loop l =>
    obtain ⟨-, hbody⟩ := List.append_eq_nil_iff.mp (Except.ok.inj h)
    rintro id hid
    obtain rfl := List.mem_singleton.mp hid
    split at hbody
    · rename_i hknown
      exact List.contains_iff_mem.mp hknown
    · cases hbody

theorem Node.problems_eq_nil {known : List String} (h : n.problems known = .ok []) :
    ∀ id ∈ n.targets, id ∈ known := by
  obtain ⟨ofWork, hwork, heq⟩ := Except.bind_eq_ok.mp h
  obtain ⟨hnext, rfl⟩ := List.append_eq_nil_iff.mp (Except.ok.inj heq)
  intro id hid
  rcases List.mem_append.mp hid with hid | hid
  · exact filter_missing_eq_nil (List.map_eq_nil_iff.mp hnext) id hid
  · exact Work.problems_eq_nil hwork id hid

theorem repeated_eq_nil {ids : List String} (h : repeated ids = []) : ids.Nodup := by
  refine List.nodup_iff_count.mpr fun id => ?_
  by_cases hmem : 1 < ids.count id
  · have hid : id ∈ ids := List.count_pos_iff.mp (by omega)
    have hrepeated : id ∈ repeated ids := by
      refine (List.mergeSort_perm _ _).mem_iff.mpr (List.mem_eraseDups.mpr ?_)
      exact List.mem_filter.mpr ⟨hid, decide_eq_true hmem⟩
    rw [h] at hrepeated
    cases hrepeated
  · omega

/-! ## Sound definitions -/

namespace Definition

/-- What the walk of a definition can rely on. -/
structure Sound (d : Definition) : Prop where
  nodes : d.actions ≠ []
  ids : d.nodeIds.Nodup
  targets : ∀ n ∈ d.actions, ∀ id ∈ n.targets, id ∈ d.nodeIds

theorem Valid.sound (h : d.Valid) : d.Sound := by
  obtain ⟨ofNodes, hnodes, heq⟩ := Except.bind_eq_ok.mp h
  have hnone := Except.ok.inj heq
  simp only [List.append_eq_nil_iff] at hnone
  obtain ⟨⟨⟨⟨hempty, hids⟩, -⟩, hparts⟩, -⟩ := hnone
  refine ⟨?_, repeated_eq_nil ?_, ?_⟩
  · rintro hnil
    rw [hnil] at hempty
    cases hempty
  · -- If ids were repeated there would be a problem that names them.
    split at hids
    · rename_i hrepeated
      exact List.isEmpty_iff.mp hrepeated
    · cases hids
  · intro n hn
    exact Node.problems_eq_nil (mapM_flatten_eq_nil hnodes hparts n hn)

namespace Sound

theorem work_known (h : d.Sound) (hn : n ∈ d.actions) (hid : id ∈ n.work.targets) :
    id ∈ d.nodeIds :=
  h.targets n hn id (List.mem_append_right _ hid)

/-- The node after a node is there, or its id is empty. -/
theorem next_known (h : d.Sound) (hn : n ∈ d.actions) (hid : n.nextAction = some id) :
    id ∈ d.nodeIds ∨ id = "" := by
  by_cases hempty : id.isEmpty = true
  · exact .inr (String.isEmpty_iff.mp hempty)
  · refine .inl (h.targets n hn id (List.mem_append_left _ ?_))
    simp [Node.next?, hid, Option.filter, hempty]

theorem count_eq_one (h : d.Sound) (hid : id ∈ d.nodeIds) : d.nodeIds.count id = 1 := by
  have hle := List.nodup_iff_count.mp h.ids id
  have hpos := List.count_pos_iff.mpr hid
  omega

end Sound

/-! ## Nodes by their ids -/

theorem entry?_mem {entry : Node} (h : d.entry? = some entry) : entry ∈ d.actions := by
  unfold entry? at h
  cases hmarked : d.actions.find? (·.entry) with
  | some marked =>
    rw [hmarked] at h
    cases h
    exact List.mem_of_find?_eq_some hmarked
  | none =>
    rw [hmarked] at h
    exact List.mem_of_mem_head? h

theorem Sound.exists_entry (h : d.Sound) : ∃ entry, d.entry? = some entry := by
  unfold entry?
  cases hmarked : d.actions.find? (·.entry) with
  | some marked => exact ⟨marked, rfl⟩
  | none => exact ⟨d.actions.head h.nodes, List.head?_eq_some_head h.nodes⟩

theorem node?_some (h : d.node? id = some n) : n ∈ d.actions ∧ n.id = id :=
  ⟨by simpa using List.mem_of_find?_eq_some h, by simpa using List.find?_some h⟩

theorem node?_of_mem (h : id ∈ d.nodeIds) : ∃ n, d.node? id = some n := by
  obtain ⟨n, hn, rfl⟩ := List.mem_map.mp h
  refine Option.isSome_iff_exists.mp (List.find?_isSome.mpr ⟨n, ?_, by simp⟩)
  exact List.mem_reverse.mpr hn

end Definition

end Automation
