import Automation.Schema.Codec

/-!
# What is written reads back

A codec restores a value if it reads what it writes of it as that value. Codecs of records are put
together from their fields, and so are the proofs: a record is restored if each of its fields is and
no name of a field is one of another.
-/

namespace Automation.Schema

variable {α β ρ : Type} {layout : Layout}

/-! ## Checked readings -/

@[simp] theorem Checked.map_ok (f : α → β) (a : α) : (Checked.ok a).map f = .ok (f a) := rfl

@[simp] theorem Checked.both_ok (f : α → β) (a : α) :
    (Checked.ok f).both (.ok a) = .ok (f a) := rfl

@[simp] theorem Checked.under_ok (step : Step) (a : α) : (Checked.ok a).under step = .ok a := rfl

/-! ## Codecs -/

namespace Codec

/-- What is written of a value reads back as it, and it is not null. -/
structure Restores (c : Codec α) (layout : Layout) (a : α) : Prop where
  read : c.read (c.write layout a) = .ok a
  nonnull : c.write layout a ≠ .null

theorem Restores.text (s : String) : text.Restores layout s := ⟨rfl, nofun⟩

theorem Restores.boundedText {least : Nat} {most : Option Nat} {s : String}
    (hleast : least ≤ s.length) (hmost : ∀ m ∈ most, s.length ≤ m) :
    (boundedText least most).Restores layout s := by
  refine ⟨?_, nofun⟩
  change (if s.length < least then _ else _) = _
  rw [if_neg (by omega)]
  cases most with
  | none => rfl
  | some m =>
    have hm := hmost m rfl
    exact if_neg (by omega)

theorem Restores.flag (b : Bool) : flag.Restores layout b := ⟨rfl, nofun⟩

theorem Restores.integer (n : Int) : integer.Restores layout n := ⟨rfl, nofun⟩

theorem Restores.number (x : Float) : number.Restores layout x := ⟨rfl, nofun⟩

theorem Restores.choice {names : List String} {ofName? : String → Option α} {name : α → String}
    {a : α} (h : ofName? (name a) = some a) : (choice names ofName? name).Restores layout a := by
  refine ⟨?_, nofun⟩
  have hshape : Source.shape (Value.text (name a)) = .text (name a) := rfl
  simp only [Codec.choice, hshape, h]

theorem Restores.guarded {c : Codec α} {ok : α → Bool} {complaint : Complaint} {a : α}
    (hc : c.Restores layout a) (hok : ok a = true) :
    (guarded c ok complaint).Restores layout a := by
  refine ⟨?_, hc.nonnull⟩
  change (c.read (c.write layout a)).andThen _ = _
  rw [hc.read]
  exact if_pos hok

theorem eq_null_of_shape {v : Value} (h : Source.shape v = .null) : v = .null := by
  cases v <;> first | rfl | cases h

/-- What is written of an optional value reads back. It may be null. -/
theorem optional_read {c : Codec α} {a : Option α} (h : ∀ x ∈ a, c.Restores layout x) :
    (optional c).read ((optional c).write layout a) = .ok a := by
  cases a with
  | none => rfl
  | some x =>
    have hx := h x rfl
    simp only [optional, Value.ofOption, hx.read, Checked.map_ok]
    split
    · rename_i hnull
      exact absurd (eq_null_of_shape hnull) hx.nonnull
    · rfl

theorem readItems_write {c : Codec α} (items : List α) (index : Nat)
    (h : ∀ x ∈ items, c.Restores layout x) :
    Checked.all (readItems c index (items.map (c.write layout))) = .ok items := by
  induction items generalizing index with
  | nil => rfl
  | cons x items ih =>
    have hx := h x List.mem_cons_self
    have hitems := ih (index + 1) fun y hy => h y (List.mem_cons_of_mem x hy)
    change ((((c.read (c.write layout x)).under _).map List.cons).both _) = _
    rw [hx.read, hitems]
    rfl

theorem Restores.list {c : Codec α} {items : List α} (h : ∀ x ∈ items, c.Restores layout x) :
    (list c).Restores layout items :=
  ⟨readItems_write items 0 h, nofun⟩

theorem Restores.dictionary {c : Codec α} {entries : Entries α}
    (h : ∀ entry ∈ entries, c.read (c.write layout entry.2) = .ok entry.2) :
    (dictionary c).Restores layout entries := by
  refine ⟨?_, nofun⟩
  change Checked.all (((entries.map fun entry => (entry.1, c.write layout entry.2)).map
    fun entry => (Key.name entry.1, entry.2)).map (readEntry c)) = _
  induction entries with
  | nil => rfl
  | cons entry entries ih =>
    obtain ⟨name, a⟩ := entry
    have ha := h (name, a) List.mem_cons_self
    have hrest := ih fun y hy => h y (List.mem_cons_of_mem _ hy)
    change ((((Checked.ok name).map Prod.mk).both ((c.read (c.write layout a)).under _)).map
      List.cons).both _ = _
    rw [ha, hrest]
    rfl

theorem Restores.anyDictionary (entries : Entries Value) :
    (Codec.dictionary any).Restores layout entries :=
  Restores.dictionary fun _ _ => rfl

end Codec

/-! ## Finding a field -/

/-- No name of one is a name of the other. -/
def FieldName.Apart (a b : FieldName) : Prop :=
  a.snake ≠ b.snake ∧ a.snake ≠ b.camel ∧ a.camel ≠ b.snake ∧ a.camel ≠ b.camel

instance (a b : FieldName) : Decidable (a.Apart b) := by unfold FieldName.Apart; infer_instance

/-- Names of which no one is another. -/
def Separate (names : List FieldName) : Prop := names.Pairwise FieldName.Apart

instance (names : List FieldName) : Decidable (Separate names) := by
  unfold Separate; infer_instance

/-- The entry that is written for a field, if it is not left out. -/
def writtenEntry (layout : Layout) (field : FieldName × Value) : Option (Key × Value) :=
  if !layout.nulls && field.2 = .null then none
  else some (.name (field.1.under layout.naming), field.2)

/-- What is read of fields that were written. -/
def writtenEntries (layout : Layout) (fields : List (FieldName × Value)) : List (Key × Value) :=
  fields.filterMap (writtenEntry layout)

namespace FieldName

variable {name other : FieldName} {value : Value} {fields : List (FieldName × Value)}

theorem under_eq (name : FieldName) (naming : Naming) :
    name.under naming = name.camel ∨ name.under naming = name.snake := by
  cases naming
  · exact .inl rfl
  · exact .inr rfl

theorem Apart.symm (h : name.Apart other) : other.Apart name :=
  ⟨h.1.symm, h.2.2.1.symm, h.2.1.symm, h.2.2.2.symm⟩

/-- The name under which a field is written is no name of a field apart from it. -/
theorem Apart.under_ne (h : other.Apart name) (naming : Naming) :
    other.under naming ≠ name.camel ∧ other.under naming ≠ name.snake := by
  obtain ⟨hss, hsc, hcs, hcc⟩ := h
  rcases under_eq other naming with hu | hu <;> rw [hu]
  · exact ⟨hcc, hcs⟩
  · exact ⟨hsc, hss⟩

theorem named_skip {wanted : String} {entry : Key × Value} {entries : List (Key × Value)}
    (h : ∀ s, entry.1 = .name s → s ≠ wanted) :
    find?.named (entry :: entries) wanted = find?.named entries wanted := by
  obtain ⟨key, v⟩ := entry
  cases key with
  | name s =>
    have hs := h s rfl
    simp only [find?.named, List.findSome?_cons, if_neg hs]
  | other shown number => rfl

theorem find?_skip {entries : List (Key × Value)} (h : other.Apart name) (naming : Naming) :
    name.find? ((.name (other.under naming), value) :: entries) = name.find? entries := by
  obtain ⟨hcamel, hsnake⟩ := h.under_ne naming
  rw [find?, find?, named_skip (by rintro s ⟨⟩; exact hcamel),
    named_skip (by rintro s ⟨⟩; exact hsnake)]

theorem find?_head {entries : List (Key × Value)} (naming : Naming)
    (h : name.find? entries = none) :
    name.find? ((.name (name.under naming), value) :: entries)
      = some (name.under naming, value) := by
  have hcamel : find?.named entries name.camel = none := by
    cases hn : find?.named entries name.camel with
    | none => rfl
    | some found => simp [find?, hn] at h
  cases naming with
  | camel => simp [find?, find?.named, under]
  | snake =>
    by_cases heq : name.snake = name.camel
    · simp [find?, find?.named, under, heq]
    · rw [find?, named_skip (by rintro s ⟨⟩; exact heq), hcamel]
      simp [find?.named, under]

theorem find?_eq_none (h : ∀ field ∈ fields, field.1.Apart name) :
    name.find? (writtenEntries layout fields) = none := by
  induction fields with
  | nil => rfl
  | cons field fields ih =>
    have hrest := ih fun f hf => h f (List.mem_cons_of_mem field hf)
    rw [writtenEntries, List.filterMap_cons, writtenEntry]
    split
    · exact hrest
    · rename_i entry heq
      split at heq
      · cases heq
      · cases heq
        rw [find?_skip (h field List.mem_cons_self)]
        exact hrest

/-- A field that was written is found, unless it was left out. -/
theorem find?_written (layout : Layout) (hsep : Separate (fields.map (·.1))) (hmem : (name, value) ∈ fields) :
    name.find? (writtenEntries layout fields) =
      if !layout.nulls && value = .null then none else some (name.under layout.naming, value) := by
  induction fields with
  | nil => cases hmem
  | cons field fields ih =>
    obtain ⟨hhead, htail⟩ := List.pairwise_cons.mp hsep
    rw [writtenEntries, List.filterMap_cons, writtenEntry]
    rcases List.mem_cons.mp hmem with rfl | hrest
    · -- Should it be left out, no other field is taken for it.
      have hnone : name.find? (writtenEntries layout fields) = none :=
        find?_eq_none fun f hf => (hhead f.1 (List.mem_map_of_mem hf)).symm
      by_cases hdrop : (!layout.nulls && decide (value = .null)) = true
      · rw [if_pos hdrop, if_pos hdrop]
        exact hnone
      · rw [if_neg hdrop, if_neg hdrop]
        exact find?_head layout.naming hnone
    · have hapart : field.1.Apart name := hhead name (List.mem_map_of_mem hrest)
      have hfound := ih htail hrest
      by_cases hdrop : (!layout.nulls && decide (field.2 = .null)) = true
      · rw [if_pos hdrop]
        exact hfound
      · rw [if_neg hdrop]
        exact (find?_skip hapart layout.naming).trans hfound

end FieldName

/-! ## Fields -/

namespace Fields

/-- A part of a record is read from what is written of the record, whatever stands beside it. -/
structure Restores (f : Fields ρ α) (layout : Layout) (r : ρ) (a : α) : Prop where
  names : (f.write layout r).map (·.1) = f.names
  read : ∀ {all : List (FieldName × Value)}, Separate (all.map (·.1)) → f.write layout r ⊆ all →
    f.read (writtenEntries layout all) = .ok a

theorem Restores.required {name : FieldName} {get : ρ → α} {c : Codec α} {r : ρ}
    (h : c.Restores layout (get r)) : (required name get c).Restores layout r (get r) := by
  refine ⟨rfl, fun {all} hsep hall => ?_⟩
  have hmem : (name, c.write layout (get r)) ∈ all := hall List.mem_cons_self
  have hfound := FieldName.find?_written layout hsep hmem
  rw [if_neg (by simp [h.nonnull])] at hfound
  simp only [Fields.required, hfound, h.read, Checked.under_ok]

theorem Restores.default_of_read {name : FieldName} {get : ρ → α} {c : Codec α} {value : α} {r : ρ}
    (hread : c.read (c.write layout (get r)) = .ok (get r))
    (hnull : c.write layout (get r) = .null → get r = value) :
    (default name get c value).Restores layout r (get r) := by
  refine ⟨rfl, fun {all} hsep hall => ?_⟩
  have hmem : (name, c.write layout (get r)) ∈ all := hall List.mem_cons_self
  have hfound := FieldName.find?_written layout hsep hmem
  split at hfound <;> rename_i hdrop
  · -- What is left out is null, and only the default is written so.
    simp only [Bool.and_eq_true, decide_eq_true_eq] at hdrop
    simp only [Fields.default, hfound, hnull hdrop.2]
  · simp only [Fields.default, hfound, hread, Checked.under_ok]

theorem Restores.default {name : FieldName} {get : ρ → α} {c : Codec α} {value : α} {r : ρ}
    (h : c.Restores layout (get r)) : (Fields.default name get c value).Restores layout r (get r) :=
  .default_of_read h.read fun hnull => absurd hnull h.nonnull

theorem Restores.optional {name : FieldName} {get : ρ → Option α} {c : Codec α} {r : ρ}
    (h : ∀ x ∈ get r, c.Restores layout x) :
    (optional name get c).Restores layout r (get r) := by
  refine .default_of_read (Codec.optional_read h) fun hnull => ?_
  cases hr : get r with
  | none => rfl
  | some x =>
    rw [hr] at hnull
    exact absurd hnull (h x hr).nonnull

theorem Restores.map {f : α → β} {x : Fields ρ α} {r : ρ} {a : α} (h : x.Restores layout r a) :
    (f <$> x).Restores layout r (f a) := by
  refine ⟨h.names, fun hsep hall => ?_⟩
  change (x.read _).map f = _
  rw [h.read hsep hall, Checked.map_ok]

theorem Restores.seq {f : Fields ρ (α → β)} {x : Fields ρ α} {r : ρ} {g : α → β} {a : α}
    (hf : f.Restores layout r g) (hx : x.Restores layout r a) :
    (f <*> x).Restores layout r (g a) := by
  refine ⟨?_, fun {all} hsep hall => ?_⟩
  · change (f.write layout r ++ x.write layout r).map _ = f.names ++ x.names
    rw [List.map_append, hf.names, hx.names]
  · have hall : f.write layout r ++ x.write layout r ⊆ all := hall
    change (f.read _).both (x.read _) = _
    rw [hf.read hsep fun y hy => hall (List.mem_append_left _ hy),
      hx.read hsep fun y hy => hall (List.mem_append_right _ hy), Checked.both_ok]

theorem Restores.on {ρ' : Type} {f : Fields ρ α} {part : ρ' → ρ} {r : ρ'} {a : α}
    (h : f.Restores layout (part r) a) : (f.on part).Restores layout r a :=
  ⟨h.names, h.read⟩

/-- What is read of a record that was written. -/
theorem shape_object (f : Fields ρ α) (r : ρ) :
    Source.shape (Value.object (f.object layout r))
      = .object (writtenEntries layout (f.write layout r)) := by
  change Shape.object ((List.filterMap _ _).map _) = _
  rw [List.map_filterMap, writtenEntries]
  congr 2
  funext ⟨name, value⟩
  simp only [writtenEntry]
  split <;> rfl

/-- The keys that are written are names of fields. -/
theorem extras_written {f : Fields ρ α} {r : ρ} {a : α} (h : f.Restores layout r a)
    (hsep : Separate f.names) :
    extras f.names (writtenEntries layout (f.write layout r)) = [] := by
  rw [← h.names] at hsep
  unfold extras
  rw [List.filterMap_eq_nil_iff]
  intro entry hentry
  obtain ⟨⟨name, value⟩, hfield, hwritten⟩ := List.mem_filterMap.mp hentry
  have hfound := FieldName.find?_written layout hsep hfield
  unfold writtenEntry at hwritten
  split at hwritten <;> rename_i hdrop
  · cases hwritten
  · cases hwritten
    rw [if_neg hdrop] at hfound
    have hused : name.under layout.naming ∈ f.names.filterMap fun name =>
        (name.find? (writtenEntries layout (f.write layout r))).map (·.1) := by
      refine List.mem_filterMap.mpr ⟨name, ?_, by rw [hfound]; rfl⟩
      rw [← h.names]
      exact List.mem_map_of_mem hfield
    exact if_pos (List.contains_iff_mem.mpr hused)

end Fields

/-! ## Records -/

namespace Codec

variable {f : Fields α α} {a b : α}

theorem Restores.record {name : String} (hsep : Separate f.names) (h : f.Restores layout a b)
    (hb : b = a) : (Codec.record name f).Restores layout a := by
  subst hb
  refine ⟨?_, nofun⟩
  simp only [record, Fields.shape_object]
  exact h.read (h.names ▸ hsep) (fun _ hx => hx)

theorem Restores.closedRecord {name : String} (hsep : Separate f.names)
    (h : f.Restores layout a b) (hb : b = a) : (Codec.closedRecord name f).Restores layout a := by
  subst hb
  refine ⟨?_, nofun⟩
  simp only [closedRecord, Fields.shape_object, Fields.extras_written h hsep]
  exact h.read (h.names ▸ hsep) (fun _ hx => hx)

end Codec

end Automation.Schema
