import Automation.Proofs.Text.Forward
import Automation.Yaml.Node

/-!
# What nodes are drawn from

Every scalar of a document is drawn from its tokens: its text is that of a token or empty, and its tag is
that of a token or what the text looks like. A reading stops only at tokens that are no document, or where
the scan was broken off (`ofTokens_drawn`).
-/

namespace Automation.Yaml.Node

variable {tokens : List Token} {tag : Tag} {text : String} {node : Node} {fault : Fault}

/-! ## Scalars of a node -/

/-- A tag that is written: that of a token, behind what its handle stands for. -/
def IsWritten (tokens : List Token) (uri : String) : Prop :=
  ∃ handle name names, .tag handle name ∈ tokens ∧ uri = names ++ name

/-- A text that is written, or that is left out. -/
def IsTextOf (tokens : List Token) (text : String) : Prop :=
  text = "" ∨ ∃ plain, .scalar plain text ∈ tokens

/-- What the scalars of a document are drawn from. -/
inductive Drawn (tokens : List Token) : Tag → String → Prop where
  /-- Nothing is written. -/
  | empty : Drawn tokens .null ""
  /-- A scalar is written, but no tag. -/
  | bare {plain : Bool} {text : String} (h : .scalar plain text ∈ tokens) :
      Drawn tokens (scalarTag none plain text) text
  /-- A tag is written, and perhaps a scalar behind it. -/
  | tagged {uri : String} {text : String} (plain : Bool) (hwritten : IsWritten tokens uri)
      (htext : IsTextOf tokens text) : Drawn tokens (scalarTag (some uri) plain text) text
  /-- A mark of a default becomes a text where it is a key. -/
  | key {text : String} (h : Drawn tokens .default text) : Drawn tokens .text text

theorem Drawn.isTextOf (h : Drawn tokens tag text) : IsTextOf tokens text := by
  induction h with
  | empty => exact .inl rfl
  | @bare plain _ h => exact .inr ⟨plain, h⟩
  | tagged _ _ htext => exact htext
  | key _ ih => exact ih

/-- What the tags of mappings are drawn from. -/
inductive TagDrawn (tokens : List Token) : Tag → Prop where
  | mapping : TagDrawn tokens .mapping
  | tagged {uri : String} {tag : Tag} (hwritten : IsWritten tokens uri) (hother : uri ≠ "!")
      (htag : Tag.ofUri uri = tag) : TagDrawn tokens tag
  /-- A mark of a default becomes a text where it is a key. -/
  | key (h : TagDrawn tokens .default) : TagDrawn tokens .text

theorem scalarTag_uri {uri : String} (hother : uri ≠ "!") (plain : Bool) (text : String) :
    scalarTag (some uri) plain text = Tag.ofUri uri := by
  unfold scalarTag
  split
  · contradiction
  · rename_i heq
    exact absurd (Option.some_inj.mp heq) hother
  · rename_i heq
    rw [Option.some_inj.mp heq]

/-- All that is in a node is drawn from some tokens. -/
inductive IsDrawn (tokens : List Token) : Node → Prop where
  | scalar {tag : Tag} {text : String} (h : Drawn tokens tag text) : IsDrawn tokens (.scalar tag text)
  | sequence {tag : Tag} {items : List Node} (h : ∀ item ∈ items, IsDrawn tokens item) :
      IsDrawn tokens (.sequence tag items)
  | mapping {tag : Tag} {entries : List (Node × Node)} {merged : Option (List (Node × Node))}
      (htag : TagDrawn tokens tag) (hkeys : ∀ entry ∈ entries, IsDrawn tokens entry.1)
      (hvalues : ∀ entry ∈ entries, IsDrawn tokens entry.2)
      (hmergedKeys : ∀ others ∈ merged, ∀ entry ∈ others, IsDrawn tokens entry.1)
      (hmergedValues : ∀ others ∈ merged, ∀ entry ∈ others, IsDrawn tokens entry.2) :
      IsDrawn tokens (.mapping tag entries merged)

/-- All that is in an entry is drawn from some tokens. -/
abbrev EntryDrawn (tokens : List Token) (entry : Node × Node) : Prop :=
  IsDrawn tokens entry.1 ∧ IsDrawn tokens entry.2

theorem isDrawn_empty : IsDrawn tokens .empty := .scalar .empty

theorem isDrawn_scalar : IsDrawn tokens (.scalar tag text) ↔ Drawn tokens tag text :=
  ⟨fun h => by cases h with | scalar h => exact h, .scalar⟩

theorem isDrawn_sequence {items : List Node} :
    IsDrawn tokens (.sequence tag items) ↔ ∀ item ∈ items, IsDrawn tokens item :=
  ⟨fun h => by cases h with | sequence h => exact h, .sequence⟩

theorem isDrawn_mapping {entries : List (Node × Node)} {merged : Option (List (Node × Node))} :
    IsDrawn tokens (.mapping tag entries merged) ↔ TagDrawn tokens tag ∧
      (∀ entry ∈ entries, EntryDrawn tokens entry) ∧
      ∀ others ∈ merged, ∀ entry ∈ others, EntryDrawn tokens entry := by
  constructor
  · rintro (_ | _ | ⟨htag, hkeys, hvalues, hmergedKeys, hmergedValues⟩)
    exact ⟨htag, fun entry hmem => ⟨hkeys entry hmem, hvalues entry hmem⟩,
      fun others hothers entry hmem =>
        ⟨hmergedKeys others hothers entry hmem, hmergedValues others hothers entry hmem⟩⟩
  · rintro ⟨htag, h, hmerged⟩
    exact .mapping htag (fun entry hmem => (h entry hmem).1) (fun entry hmem => (h entry hmem).2)
      (fun others hothers entry hmem => (hmerged others hothers entry hmem).1)
      fun others hothers entry hmem => (hmerged others hothers entry hmem).2

/-! ## Merging -/

theorem exists_of_mem_mapM {α β : Type} {f : α → Option β} {xs : List α} {ys : List β} {y : β}
    (h : xs.mapM f = some ys) (hy : y ∈ ys) : ∃ x ∈ xs, f x = some y := by
  induction xs generalizing ys with
  | nil =>
    cases h
    cases hy
  | cons x xs ih =>
    rw [List.mapM_cons] at h
    obtain ⟨first, hfirst, h⟩ := Option.bind_eq_some_iff.mp h
    obtain ⟨others, hothers, h⟩ := Option.bind_eq_some_iff.mp h
    cases h
    rcases List.mem_cons.mp hy with rfl | hy
    · exact ⟨x, List.mem_cons_self, hfirst⟩
    · obtain ⟨x', hmem, hx'⟩ := ih hothers hy
      exact ⟨x', List.mem_cons_of_mem x hmem, hx'⟩

theorem entryDrawn_of_entries? {entries : List (Node × Node)} (hnode : IsDrawn tokens node)
    (h : node.entries? = some entries) : ∀ entry ∈ entries, EntryDrawn tokens entry := by
  unfold entries? at h
  split at h
  · exact (isDrawn_mapping.mp hnode).2.2 entries h
  · cases h

theorem entryDrawn_of_mergedEntries? {entries : List (Node × Node)} (hnode : IsDrawn tokens node)
    (h : mergedEntries? node = some entries) : ∀ entry ∈ entries, EntryDrawn tokens entry := by
  unfold mergedEntries? at h
  split at h
  · rename_i items
    obtain ⟨lists, hlists, rfl⟩ := Option.map_eq_some_iff.mp h
    intro entry hmem
    obtain ⟨list, hlist, hentry⟩ := List.mem_flatten.mp hmem
    obtain ⟨item, hitem, hentries⟩ := exists_of_mem_mapM hlists (List.mem_reverse.mp hlist)
    exact entryDrawn_of_entries? (isDrawn_sequence.mp hnode item hitem) hentries entry hentry
  · exact entryDrawn_of_entries? hnode h

theorem isDrawn_plainKey (h : IsDrawn tokens node) : IsDrawn tokens (plainKey node) := by
  unfold plainKey
  split
  · exact .scalar (.key (isDrawn_scalar.mp h))
  · obtain ⟨htag, hentries, hmerged⟩ := isDrawn_mapping.mp h
    exact isDrawn_mapping.mpr ⟨.key htag, hentries, hmerged⟩
  · exact h

/-- Merging draws from nothing else. -/
theorem isDrawn_ofEntries {entries : List (Node × Node)} (htag : TagDrawn tokens tag)
    (h : ∀ entry ∈ entries, EntryDrawn tokens entry) : IsDrawn tokens (ofEntries tag entries) := by
  unfold ofEntries
  rw [List.partition_eq_filter_filter]
  refine isDrawn_mapping.mpr ⟨htag, h, fun others hothers entry hmem => ?_⟩
  obtain ⟨merged, hmerged, rfl⟩ := Option.map_eq_some_iff.mp hothers
  rcases List.mem_append.mp hmem with hmem | hmem
  · obtain ⟨list, hlist, hentry⟩ := List.mem_flatten.mp hmem
    obtain ⟨merge, hmerge, hentries⟩ := exists_of_mem_mapM hmerged hlist
    -- What is merged in is the value of an entry, or an item of it.
    have hvalue := (h merge (List.mem_filter.mp hmerge).1).2
    exact entryDrawn_of_mergedEntries? hvalue hentries entry hentry
  · obtain ⟨own, hown, rfl⟩ := List.mem_map.mp hmem
    have hdrawn := h own (List.mem_filter.mp hown).1
    exact ⟨isDrawn_plainKey hdrawn.1, hdrawn.2⟩

/-! ## Readings -/

namespace Reading

variable {α β : Type} {P : α → Prop} {Q : β → Prop}

/-- What is left to read are tokens of the document, and nodes that have a name are drawn from them. -/
structure Sound (tokens : List Token) (s : State) : Prop where
  ahead : ∀ token ∈ s.tokens, token ∈ tokens
  named : ∀ name node, s.anchors.get? name = some (some node) → IsDrawn tokens node

/-- Where a reading stops: at tokens that are no document, or where the scan was broken off. -/
def Stop (tokens : List Token) (fault : Fault) : Prop :=
  fault = .malformed ∨ .broken fault ∈ tokens

/-- A reading keeps to the tokens of a document, and what it gives has a property. -/
def Keeps (tokens : List Token) (x : Reading α) (P : α → Prop) : Prop :=
  ∀ s, Sound tokens s → (x.run s).Ends (Stop tokens) fun found => P found.1 ∧ Sound tokens found.2

theorem Keeps.pure {a : α} (h : P a) : Keeps tokens (Pure.pure a) P := fun _ hs => ⟨h, hs⟩

theorem Keeps.bind {x : Reading α} {f : α → Reading β} (hx : Keeps tokens x P)
    (hf : ∀ a, P a → Keeps tokens (f a) Q) : Keeps tokens (x >>= f) Q := by
  intro s hs
  rw [StateT.run_bind]
  exact (hx s hs).bind fun found hfound => hf found.1 hfound.1 found.2 hfound.2

theorem Keeps.imp {P' : α → Prop} {x : Reading α} (hx : Keeps tokens x P) (h : ∀ a, P a → P' a) :
    Keeps tokens x P' := fun s hs => (hx s hs).imp fun _ hfound => ⟨h _ hfound.1, hfound.2⟩

theorem Keeps.ite {b : Prop} [Decidable b] {x y : Reading α} (hx : b → Keeps tokens x P)
    (hy : ¬b → Keeps tokens y P) : Keeps tokens (if b then x else y) P := by
  split <;> rename_i hb
  · exact hx hb
  · exact hy hb

theorem Keeps.fail : Keeps tokens (fail : Reading α) P := fun _ _ => .inl rfl

theorem Keeps.throw (h : Stop tokens fault) : Keeps tokens (MonadExcept.throw fault : Reading α) P :=
  fun _ _ => h

theorem get_keeps : Keeps tokens get (Sound tokens) := fun _ hs => ⟨hs, hs⟩

theorem modify_keeps {f : State → State} (hf : ∀ s, Sound tokens s → Sound tokens (f s)) :
    Keeps tokens (modify f) fun _ => True := fun s hs => ⟨trivial, hf s hs⟩

theorem peek?_keeps : Keeps tokens peek? fun found => ∀ token, found = some token → token ∈ tokens := by
  refine get_keeps.bind fun s hs => ?_
  have hhead (token : Token) (h : s.tokens.head? = some token) : token ∈ tokens :=
    hs.ahead token (List.mem_of_mem_head? h)
  split
  · exact .throw (.inr (hhead _ ‹_›))
  · exact .pure hhead

theorem skip_keeps : Keeps tokens skip fun _ => True :=
  modify_keeps fun _ hs => ⟨fun token h => hs.ahead token (List.mem_of_mem_tail h), hs.named⟩

theorem take_keeps (token : Token) : Keeps tokens (take token) fun _ => True :=
  peek?_keeps.bind fun _ _ =>
    .ite (fun _ => skip_keeps.bind fun _ _ => .pure trivial) fun _ => .pure trivial

theorem isAt_keeps (ends : List Token) : Keeps tokens (isAt ends) fun _ => True :=
  peek?_keeps.bind fun _ _ => .pure trivial

theorem require_keeps (token : Token) : Keeps tokens (require token) fun _ => True :=
  (take_keeps token).bind fun _ _ => .ite (fun _ => .fail) fun _ => .pure trivial

theorem anchor?_keeps : Keeps tokens anchor? fun _ => True := by
  refine peek?_keeps.bind fun found _ => ?_
  split
  · exact skip_keeps.bind fun _ _ => .pure trivial
  · exact .pure trivial

theorem tag?_keeps : Keeps tokens tag? fun found =>
    ∀ handle name, found = some (handle, name) → .tag handle name ∈ tokens := by
  refine peek?_keeps.bind fun found hfound => ?_
  split
  · refine skip_keeps.bind fun _ _ => .pure ?_
    rintro _ _ ⟨⟩
    exact hfound _ rfl
  · exact .pure nofun

theorem resolved_keeps {tag : Option (Option String × String)}
    (h : ∀ handle name, tag = some (handle, name) → .tag handle name ∈ tokens) :
    Keeps tokens (resolved tag) fun found => ∀ uri, found = some uri → IsWritten tokens uri := by
  match tag with
  | none => exact .pure nofun
  | some (none, name) =>
    refine .pure ?_
    rintro _ ⟨⟩
    exact ⟨none, name, "", h none name rfl, String.empty_append.symm⟩
  | some (some handle, name) =>
    refine get_keeps.bind fun s _ => ?_
    split
    · rename_i names _
      refine .pure ?_
      rintro _ ⟨⟩
      exact ⟨some handle, name, names, h _ name rfl, rfl⟩
    · exact .fail

theorem properties_keeps : Keeps tokens properties fun found =>
    ∀ uri, found.2 = some uri → IsWritten tokens uri := by
  refine anchor?_keeps.bind fun name _ => ?_
  split
  · exact tag?_keeps.bind fun tag htag => (resolved_keeps htag).bind fun uri huri => .pure huri
  · refine tag?_keeps.bind fun tag htag => ?_
    split
    · exact .pure nofun
    · exact anchor?_keeps.bind fun name _ => (resolved_keeps htag).bind fun uri huri => .pure huri

/-- A name is put down for a node, or for none as yet. -/
theorem name_keeps (name : String) {found : Option Node}
    (h : ∀ node, found = some node → IsDrawn tokens node) :
    Keeps tokens (modify fun s => { s with anchors := s.anchors.set name found }) fun _ => True := by
  refine modify_keeps fun s hs => ⟨hs.ahead, fun other node hnode => ?_⟩
  rw [Entries.get?_set] at hnode
  split at hnode
  · exact h node (Option.some_inj.mp hnode)
  · exact hs.named other node hnode

theorem openAnchor_keeps (name : Option String) : Keeps tokens (openAnchor name) fun _ => True := by
  cases name with
  | none => exact .pure trivial
  | some name =>
    exact get_keeps.bind fun s _ => .ite (fun _ => .fail) fun _ => name_keeps name nofun

theorem closeAnchor_keeps (name : Option String) (h : IsDrawn tokens node) :
    Keeps tokens (closeAnchor name node) (IsDrawn tokens) := by
  cases name with
  | none => exact .pure h
  | some name =>
    refine (name_keeps name ?_).bind fun _ _ => .pure h
    rintro _ ⟨⟩
    exact h

theorem aliased_keeps (name : String) : Keeps tokens (aliased name) (IsDrawn tokens) := by
  refine get_keeps.bind fun s hs => ?_
  split
  · exact .pure (hs.named name _ ‹_›)
  · exact .fail

end Reading

/-! ## Nodes and collections -/

open Reading

/-- What is not written and has no tag is nothing. -/
theorem scalarTag_empty : scalarTag none true "" = .null := by decide +kernel

theorem emptyAt_keeps (name : Option String) {tag : Option String}
    (htag : ∀ uri, tag = some uri → IsWritten tokens uri) :
    Keeps tokens (emptyAt name tag) (IsDrawn tokens) := by
  refine .ite (fun _ => .fail) fun _ => .pure (.scalar ?_)
  cases tag with
  | none => exact scalarTag_empty ▸ .empty
  | some uri => exact .tagged true (htag uri rfl) (.inl rfl)

theorem isDrawn_written {tag : Option String} {plain : Bool}
    (htag : ∀ uri, tag = some uri → IsWritten tokens uri) (h : .scalar plain text ∈ tokens) :
    IsDrawn tokens (.scalar (scalarTag tag plain text) text) := by
  cases tag with
  | none => exact .scalar (.bare h)
  | some uri => exact .scalar (.tagged plain (htag uri rfl) (.inr ⟨plain, h⟩))

theorem tagDrawn_tagOr {tag : Option String} (htag : ∀ uri, tag = some uri → IsWritten tokens uri) :
    TagDrawn tokens (tagOr tag .mapping) := by
  unfold tagOr
  split
  · exact .mapping
  · exact .mapping
  · rename_i uri hother
    exact .tagged (htag uri rfl) hother rfl

/-- With so much fuel, nodes and collections are drawn from the tokens. -/
structure Keep (tokens : List Token) (fuel : Nat) : Prop where
  node block unindented : Keeps tokens (read fuel block unindented) (IsDrawn tokens)
  nodeUnless ends block unindented :
    Keeps tokens (readUnless fuel ends block unindented) (IsDrawn tokens)
  blockItems : Keeps tokens (readBlockItems fuel) fun items => ∀ item ∈ items, IsDrawn tokens item
  unindented : Keeps tokens (readUnindented fuel) fun items => ∀ item ∈ items, IsDrawn tokens item
  blockEntries : Keeps tokens (readBlockEntries fuel) fun entries =>
    ∀ entry ∈ entries, EntryDrawn tokens entry
  flowItems first : Keeps tokens (readFlowItems fuel first) fun items =>
    ∀ item ∈ items, IsDrawn tokens item
  flowEntries first : Keeps tokens (readFlowEntries fuel first) fun entries =>
    ∀ entry ∈ entries, EntryDrawn tokens entry

theorem Keep.zero : Keep tokens 0 where
  node _ _ := .fail
  nodeUnless _ _ _ := .fail
  blockItems := .fail
  unindented := .fail
  blockEntries := .fail
  flowItems _ := .fail
  flowEntries _ := .fail

variable {fuel : Nat}

theorem Keep.succ_node (h : Keep tokens fuel) (block unindented : Bool) :
    Keeps tokens (read (fuel + 1) block unindented) (IsDrawn tokens) := by
  rw [read]
  refine peek?_keeps.bind fun next _ => ?_
  split
  · exact skip_keeps.bind fun _ _ => aliased_keeps _
  refine properties_keeps.bind fun ⟨name, tag⟩ htag => ?_
  refine peek?_keeps.bind fun next hnext => (openAnchor_keeps name).bind fun _ _ => ?_
  -- Whatever the node is, it gets its name at its end.
  have hclose (node : Node) (hnode : IsDrawn tokens node) :
      Keeps tokens (closeAnchor name node) (IsDrawn tokens) := closeAnchor_keeps name hnode
  have hempty := (emptyAt_keeps name htag).bind hclose
  dsimp only
  split
  · refine .ite (fun _ => ?_) fun _ => hempty
    exact h.unindented.bind fun items hitems => hclose _ (.sequence hitems)
  · exact skip_keeps.bind fun _ _ => hclose _ (isDrawn_written htag (hnext _ rfl))
  · exact skip_keeps.bind fun _ _ => (h.flowItems true).bind fun items hitems =>
      hclose _ (.sequence hitems)
  · exact skip_keeps.bind fun _ _ => (h.flowEntries true).bind fun entries hentries =>
      hclose _ (isDrawn_ofEntries (tagDrawn_tagOr htag) hentries)
  · refine .ite (fun _ => ?_) fun _ => hempty
    exact skip_keeps.bind fun _ _ => h.blockItems.bind fun items hitems =>
      hclose _ (.sequence hitems)
  · refine .ite (fun _ => ?_) fun _ => hempty
    exact skip_keeps.bind fun _ _ => h.blockEntries.bind fun entries hentries =>
      hclose _ (isDrawn_ofEntries (tagDrawn_tagOr htag) hentries)
  · exact hempty

theorem Keep.succ_nodeUnless (h : Keep tokens fuel) (ends : List Token) (block unindented : Bool) :
    Keeps tokens (readUnless (fuel + 1) ends block unindented) (IsDrawn tokens) := by
  rw [readUnless]
  exact (isAt_keeps ends).bind fun _ _ =>
    .ite (fun _ => .pure isDrawn_empty) fun _ => h.node block unindented

theorem Keep.succ_blockItems (h : Keep tokens fuel) :
    Keeps tokens (readBlockItems (fuel + 1)) fun items => ∀ item ∈ items, IsDrawn tokens item := by
  rw [readBlockItems]
  refine (take_keeps _).bind fun _ _ => .ite (fun _ => ?_) fun _ => ?_
  · refine (h.nodeUnless _ _ _).bind fun item hitem => ?_
    exact h.blockItems.bind fun items hitems => .pure (List.forall_mem_cons.mpr ⟨hitem, hitems⟩)
  · exact (require_keeps _).bind fun _ _ => .pure nofun

theorem Keep.succ_unindented (h : Keep tokens fuel) :
    Keeps tokens (readUnindented (fuel + 1)) fun items => ∀ item ∈ items, IsDrawn tokens item := by
  rw [readUnindented]
  refine (take_keeps _).bind fun _ _ => .ite (fun _ => ?_) fun _ => .pure nofun
  refine (h.nodeUnless _ _ _).bind fun item hitem => ?_
  exact h.unindented.bind fun items hitems => .pure (List.forall_mem_cons.mpr ⟨hitem, hitems⟩)

variable {α : Type} {P : α → Prop}

/-- The value of an entry, which may be left out, and what follows it. -/
theorem Keep.value (h : Keep tokens fuel) (ends : List Token) (block unindented : Bool)
    {f : Node → Reading α} (hf : ∀ value, IsDrawn tokens value → Keeps tokens (f value) P) :
    Keeps tokens (do
      if ← take .value then
        let value ← readUnless fuel ends block unindented
        f value
      else
        let value ← pure .empty
        f value) P :=
  (take_keeps _).bind fun _ _ =>
    .ite (fun _ => (h.nodeUnless _ _ _).bind hf) fun _ => hf _ isDrawn_empty

/-- A separator in front of all but the first part, and what follows it. -/
theorem separated_keeps {first : Bool} {separator : Token} {f : Unit → Reading α}
    (hf : ∀ u, Keeps tokens (f u) P) :
    Keeps tokens (if first then do
      let u ← require separator
      f u
    else f ()) P :=
  .ite (fun _ => (require_keeps _).bind fun u _ => hf u) fun _ => hf ()

theorem Keep.succ_blockEntries (h : Keep tokens fuel) :
    Keeps tokens (readBlockEntries (fuel + 1)) fun entries =>
      ∀ entry ∈ entries, EntryDrawn tokens entry := by
  rw [readBlockEntries]
  refine (take_keeps _).bind fun _ _ => .ite (fun _ => ?_) fun _ => ?_
  · refine (h.nodeUnless _ _ _).bind fun key hkey => h.value _ _ _ fun value hvalue => ?_
    exact h.blockEntries.bind fun entries hentries =>
      .pure (List.forall_mem_cons.mpr ⟨⟨hkey, hvalue⟩, hentries⟩)
  · exact (require_keeps _).bind fun _ _ => .pure nofun

theorem Keep.succ_flowItems (h : Keep tokens fuel) (first : Bool) :
    Keeps tokens (readFlowItems (fuel + 1) first) fun items => ∀ item ∈ items, IsDrawn tokens item := by
  rw [readFlowItems]
  refine (take_keeps _).bind fun _ _ => .ite (fun _ => .pure nofun) fun _ => separated_keeps fun _ => ?_
  have hmore {item : Node} (hitem : IsDrawn tokens item) : Keeps tokens (do
      return item :: (← readFlowItems fuel false)) fun items => ∀ item ∈ items, IsDrawn tokens item :=
    (h.flowItems false).bind fun items hitems => .pure (List.forall_mem_cons.mpr ⟨hitem, hitems⟩)
  refine (take_keeps _).bind fun _ _ => .ite (fun _ => ?_) fun _ => ?_
  · refine (h.nodeUnless _ _ _).bind fun key hkey => h.value _ _ _ fun value hvalue => ?_
    exact hmore (isDrawn_ofEntries .mapping (List.forall_mem_singleton.mpr ⟨hkey, hvalue⟩))
  · refine (take_keeps _).bind fun _ _ => .ite (fun _ => .pure nofun) fun _ => ?_
    exact (h.node _ _).bind fun item hitem => hmore hitem

theorem Keep.succ_flowEntries (h : Keep tokens fuel) (first : Bool) :
    Keeps tokens (readFlowEntries (fuel + 1) first) fun entries =>
      ∀ entry ∈ entries, EntryDrawn tokens entry := by
  rw [readFlowEntries]
  refine (take_keeps _).bind fun _ _ => .ite (fun _ => .pure nofun) fun _ => separated_keeps fun _ => ?_
  have hmore {entry : Node × Node} (hentry : EntryDrawn tokens entry) : Keeps tokens (do
      return entry :: (← readFlowEntries fuel false)) fun entries =>
        ∀ entry ∈ entries, EntryDrawn tokens entry :=
    (h.flowEntries false).bind fun entries hentries =>
      .pure (List.forall_mem_cons.mpr ⟨hentry, hentries⟩)
  refine (take_keeps _).bind fun _ _ => .ite (fun _ => ?_) fun _ => ?_
  · refine (h.nodeUnless _ _ _).bind fun key hkey => h.value _ _ _ fun value hvalue => ?_
    exact hmore ⟨hkey, hvalue⟩
  · refine (take_keeps _).bind fun _ _ => .ite (fun _ => .pure nofun) fun _ => ?_
    exact (h.node _ _).bind fun key hkey => hmore ⟨hkey, isDrawn_empty⟩

theorem keep (tokens : List Token) (fuel : Nat) : Keep tokens fuel := by
  induction fuel with
  | zero => exact .zero
  | succ fuel ih =>
    exact {
      node := ih.succ_node
      nodeUnless := ih.succ_nodeUnless
      blockItems := ih.succ_blockItems
      unindented := ih.succ_unindented
      blockEntries := ih.succ_blockEntries
      flowItems := ih.succ_flowItems
      flowEntries := ih.succ_flowEntries }

/-! ## Texts -/

mutual

/-- The text of a node is one that is written, or that is left out. -/
theorem isTextOf_text? (node : Node) (h : IsDrawn tokens node) (htext : node.text? = some text) :
    IsTextOf tokens text := by
  match node with
  | .scalar tag s =>
    rw [text?, Option.some_inj] at htext
    exact htext ▸ (isDrawn_scalar.mp h).isTextOf
  | .sequence tag items =>
    rw [text?] at htext
    cases htext
  | .mapping tag entries merged =>
    rw [text?] at htext
    exact isTextOf_defaultText? entries (isDrawn_mapping.mp h).2.1 htext

theorem isTextOf_defaultText? (entries : List (Node × Node))
    (h : ∀ entry ∈ entries, EntryDrawn tokens entry) (htext : defaultText? entries = some text) :
    IsTextOf tokens text := by
  match entries with
  | [] =>
    rw [defaultText?] at htext
    cases htext
  | (key, value) :: entries =>
    obtain ⟨hentry, hentries⟩ := List.forall_mem_cons.mp h
    rw [defaultText?] at htext
    split at htext
    · exact isTextOf_text? value hentry.2 htext
    · exact isTextOf_defaultText? entries hentries htext

end

/-! ## Documents -/

theorem readDirectives_suffix (tokens : List Token) (versioned : Bool) (handles : Entries String) :
    (readDirectives tokens versioned handles).Ends (· = .malformed) fun found => found.2 <:+ tokens := by
  fun_induction readDirectives with
  | case1 | case3 | case4 | case6 => rfl
  | case2 | case5 | case7 =>
    rename_i ih
    exact ih.imp fun found hfound => hfound.trans (List.suffix_cons _ _)
  | case8 => exact List.suffix_rfl

theorem readRoot_drawn {rest : List Token} {handles : Entries String} {x : Reading Node}
    (hrest : ∀ token ∈ rest, token ∈ tokens) (hx : Keeps tokens x (IsDrawn tokens)) :
    (readRoot rest handles x).Ends (Stop tokens) (IsDrawn tokens) := by
  refine (hx ⟨rest, [], handles⟩ ⟨hrest, nofun⟩).bind fun ⟨root, s⟩ ⟨hroot, hs⟩ => ?_
  dsimp only
  split
  · exact hroot
  · rename_i fault others hends
    have hmem : .broken fault ∈ s.tokens.dropWhile (· = .documentEnd) := hends ▸ List.mem_cons_self
    exact .inr (hs.ahead _ ((List.dropWhile_suffix _).subset hmem))
  · exact .inl rfl

/-- The document of some tokens is drawn from them. A reading that stops has met tokens that are no
document, or the end of a scan that was broken off. -/
theorem ofTokens_drawn (tokens : List Token) :
    (ofTokens tokens).Ends (Stop tokens) fun found =>
      ∀ node, found = some node → IsDrawn tokens node := by
  have hroot {rest : List Token} {handles : Entries String} {x : Reading Node}
      (hrest : ∀ token ∈ rest, token ∈ tokens) (hx : Keeps tokens x (IsDrawn tokens)) :
      (some <$> readRoot rest handles x).Ends (Stop tokens) fun found =>
        ∀ node, found = some node → IsDrawn tokens node := by
    refine (readRoot_drawn hrest hx).map fun root hdrawn => ?_
    rintro _ ⟨⟩
    exact hdrawn
  have hnode (fuel : Nat) := (keep tokens fuel).node true false
  -- Directives, or a mark alone, may stand in front of the document; what is behind them is still drawn
  -- from the same tokens.
  have hdirectives : (readDirectives tokens false []).Ends (Stop tokens) fun found =>
      found.2 <:+ tokens := (readDirectives_suffix tokens false []).imp_error fun _ => .inl
  unfold ofTokens
  dsimp only
  split
  case h_1 => exact nofun
  case h_2 | h_3 =>
    refine hdirectives.bind fun found hfound => ?_
    split
    · refine hroot (fun token hmem => hfound.subset (List.mem_cons_of_mem _ hmem)) ?_
      split
      · exact .pure isDrawn_empty
      · exact .pure isDrawn_empty
      · exact .fail
      · exact .fail
      · exact hnode _
    · exact .inr (hfound.subset List.mem_cons_self)
    · exact .inl rfl
  case h_4 => exact hroot (fun _ => id) (hnode _)

end Automation.Yaml.Node
