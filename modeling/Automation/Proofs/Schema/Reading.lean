import Automation.Schema.Codec

/-!
# What readers check

A codec ensures a property if whatever it reads has it, from whatever source. A record ensures what
its fields do.
-/

namespace Except

variable {ε α β : Type}

theorem bind_eq_ok {x : Except ε α} {f : α → Except ε β} {b : β} :
    (x >>= f) = .ok b ↔ ∃ a, x = .ok a ∧ f a = .ok b := by
  cases x with
  | error fault => exact ⟨nofun, nofun⟩
  | ok a => exact ⟨fun h => ⟨a, rfl, h⟩, by rintro ⟨_, ⟨⟩, h⟩; exact h⟩

theorem bind_eq_error {x : Except ε α} {f : α → Except ε β} {e : ε} :
    x >>= f = .error e ↔ x = .error e ∨ ∃ a, x = .ok a ∧ f a = .error e := by
  cases x <;> simp [bind, Except.bind]

theorem map_eq_ok {x : Except ε α} {f : α → β} {b : β} :
    x.map f = .ok b ↔ ∃ a, x = .ok a ∧ b = f a := by
  cases x <;> simp [Except.map, eq_comm]

theorem toOption_eq_some {x : Except ε α} {a : α} : x.toOption = some a ↔ x = .ok a := by
  cases x <;> simp [Except.toOption]

theorem exists_of_mapM_error {f : α → Except ε β} {xs : List α} {e : ε}
    (h : xs.mapM f = .error e) : ∃ x ∈ xs, f x = .error e := by
  induction xs with
  | nil => cases h
  | cons x xs ih =>
    rw [List.mapM_cons] at h
    rcases bind_eq_error.mp h with hx | ⟨b, -, h⟩
    · exact ⟨x, List.mem_cons_self, hx⟩
    · rcases bind_eq_error.mp h with hxs | ⟨bs, -, hpure⟩
      · obtain ⟨y, hy, hfy⟩ := ih hxs
        exact ⟨y, List.mem_cons_of_mem x hy, hfy⟩
      · cases hpure

theorem mapM_error_of_mem {f : α → Except ε β} {x : α} {xs : List α} {e : ε} (hx : x ∈ xs)
    (h : f x = .error e) : ∃ e', xs.mapM f = .error e' := by
  induction xs with
  | nil => cases hx
  | cons y ys ih =>
    rw [List.mapM_cons]
    cases hy : f y with
    | error e' => exact ⟨e', rfl⟩
    | ok b =>
      rcases List.mem_cons.mp hx with rfl | hx
      · rw [hy] at h
        cases h
      · obtain ⟨e', hys⟩ := ih hx
        rw [hys]
        exact ⟨e', rfl⟩

theorem exists_of_mem_mapM {f : α → Except ε β} {xs : List α} {ys : List β} {y : β}
    (h : xs.mapM f = .ok ys) (hy : y ∈ ys) : ∃ x ∈ xs, f x = .ok y := by
  induction xs generalizing ys with
  | nil =>
    cases h
    cases hy
  | cons x xs ih =>
    rw [List.mapM_cons] at h
    obtain ⟨first, hfirst, h⟩ := bind_eq_ok.mp h
    obtain ⟨rest, hrest, h⟩ := bind_eq_ok.mp h
    cases h
    rcases List.mem_cons.mp hy with rfl | hy
    · exact ⟨x, List.mem_cons_self, hfirst⟩
    · obtain ⟨x', hmem, hx'⟩ := ih hrest hy
      exact ⟨x', List.mem_cons_of_mem x hmem, hx'⟩

theorem map_eq_error {x : Except ε α} {f : α → β} {e : ε} :
    x.map f = .error e ↔ x = .error e := by
  cases x <;> simp [Except.map]

theorem mapError_eq_error {ε' : Type} {x : Except ε α} {f : ε → ε'} {e : ε'} :
    x.mapError f = .error e ↔ ∃ e', x = .error e' ∧ e = f e' := by
  cases x with
  | ok a => exact ⟨nofun, by rintro ⟨_, ⟨⟩, -⟩⟩
  | error e' => exact ⟨fun h => ⟨e', rfl, (Except.error.inj h).symm⟩, by rintro ⟨_, ⟨⟩, rfl⟩; rfl⟩

theorem exists_ok_bind {x : Except ε α} {f : α → Except ε β} :
    (∃ b, (x >>= f) = .ok b) ↔ ∃ a, x = .ok a ∧ ∃ b, f a = .ok b := by
  cases x <;> simp [bind, Except.bind]

/-- There is a result behind a check if the check passes and there is one without it. -/
theorem exists_ok_check {b : Prop} [Decidable b] {e : ε} {x : Except ε α} :
    (∃ a, (if b then (Except.error e : Except ε PUnit) >>= fun _ => x else x) = .ok a) ↔
      ¬b ∧ ∃ a, x = .ok a := by
  split <;> rename_i hb
  · exact iff_of_false (by rintro ⟨_, ⟨⟩⟩) fun h => h.1 hb
  · exact ⟨fun h => ⟨hb, h⟩, fun h => h.2⟩

theorem length_of_mapM_ok {f : α → Except ε β} {xs : List α} {ys : List β}
    (h : xs.mapM f = .ok ys) : ys.length = xs.length := by
  induction xs generalizing ys with
  | nil =>
    cases h
    rfl
  | cons x xs ih =>
    rw [List.mapM_cons] at h
    obtain ⟨y, -, h⟩ := bind_eq_ok.mp h
    obtain ⟨rest, hrest, h⟩ := bind_eq_ok.mp h
    cases h
    rw [List.length_cons, List.length_cons, ih hrest]

end Except

namespace Automation.Schema

variable {α β ρ : Type}

/-! ## Checked readings -/

theorem Checked.map_eq_ok {f : α → β} {x : Checked α} {b : β} :
    x.map f = .ok b ↔ ∃ a, x = .ok a ∧ b = f a := by
  cases x with
  | ok a => simp [map, eq_comm]
  | bad issues => simp [map]

theorem Checked.both_eq_ok {f : Checked (α → β)} {x : Checked α} {b : β} :
    f.both x = .ok b ↔ ∃ g a, f = .ok g ∧ x = .ok a ∧ b = g a := by
  cases f with
  | ok g => cases x <;> simp [both, eq_comm]
  | bad issues => simp [both]

theorem Checked.under_eq_ok {step : Step} {x : Checked α} {a : α} :
    x.under step = .ok a ↔ x = .ok a := by
  cases x <;> simp [under]

theorem Checked.andThen_eq_ok {x : Checked α} {f : α → Checked β} {b : β} :
    x.andThen f = .ok b ↔ ∃ a, x = .ok a ∧ f a = .ok b := by
  cases x <;> simp [andThen]

/-! ## Codecs -/

namespace Codec

/-- Whatever is read has a property. -/
structure Ensures (c : Codec α) (P : α → Prop) : Prop where
  of_read : ∀ {σ : Type} [Source σ] (x : σ) (a : α), c.read x = .ok a → P a

/-- A codec reads a value from some data. -/
def Accepts (c : Codec α) (a : α) : Prop := ∃ x : Value, c.read x = .ok a

theorem Ensures.accepts {c : Codec α} {P : α → Prop} {a : α} (h : c.Ensures P) (ha : c.Accepts a) :
    P a := by
  obtain ⟨x, hx⟩ := ha
  exact h.of_read x a hx

theorem Ensures.boundedText {least : Nat} {most : Option Nat} :
    (Codec.boundedText least most).Ensures fun s => least ≤ s.length ∧ ∀ m ∈ most, s.length ≤ m := by
  refine ⟨fun x s h => ?_⟩
  obtain ⟨s', -, h⟩ := Checked.andThen_eq_ok.mp h
  split at h
  · cases h
  · split at h
    · split at h
      · cases h
      · cases h
        exact ⟨by omega, by rintro m ⟨⟩; omega⟩
    · cases h
      exact ⟨by omega, by rintro m ⟨⟩⟩

theorem Ensures.guarded {c : Codec α} {ok : α → Bool} {complaint : Complaint} :
    (Codec.guarded c ok complaint).Ensures fun a => ok a = true := by
  refine ⟨fun x a h => ?_⟩
  obtain ⟨a', -, h⟩ := Checked.andThen_eq_ok.mp h
  split at h
  · cases h
    assumption
  · cases h

theorem Ensures.optional {c : Codec α} {P : α → Prop} (hc : c.Ensures P) :
    (Codec.optional c).Ensures fun a => ∀ x ∈ a, P x := by
  refine ⟨fun x a h => ?_⟩
  simp only [Codec.optional] at h
  split at h
  · cases h
    rintro x ⟨⟩
  · obtain ⟨y, hy, rfl⟩ := Checked.map_eq_ok.mp h
    rintro z ⟨⟩
    exact hc.of_read x y hy

/-- Each item that is read of a list is read of a part of it. -/
theorem exists_of_readItems {σ : Type} [Source σ] {c : Codec α} {index : Nat} {sources : List σ}
    {items : List α} (h : Checked.all (readItems c index sources) = .ok items) :
    ∀ x ∈ items, ∃ source ∈ sources, c.read source = .ok x := by
  induction sources generalizing items index with
  | nil =>
    cases h
    exact nofun
  | cons source sources ih =>
    obtain ⟨g, rest, hg, hrest, rfl⟩ := Checked.both_eq_ok.mp h
    obtain ⟨y, hy, rfl⟩ := Checked.map_eq_ok.mp hg
    refine List.forall_mem_cons.mpr ⟨⟨source, List.mem_cons_self, Checked.under_eq_ok.mp hy⟩, ?_⟩
    intro x hx
    obtain ⟨found, hfound, hread⟩ := ih hrest x hx
    exact ⟨found, List.mem_cons_of_mem source hfound, hread⟩

theorem Ensures.list {c : Codec α} {P : α → Prop} (hc : c.Ensures P) :
    (Codec.list c).Ensures fun items => ∀ x ∈ items, P x := by
  refine ⟨fun x items h => ?_⟩
  simp only [Codec.list] at h
  split at h
  · intro y hy
    obtain ⟨source, -, hsource⟩ := exists_of_readItems h y hy
    exact hc.of_read source y hsource
  · cases h

end Codec

/-! ## Fields -/

namespace Fields

/-- Whatever is read of a record has a property. -/
structure Ensures (f : Fields ρ α) (P : α → Prop) : Prop where
  of_read : ∀ {σ : Type} [Source σ] (entries : List (Key × σ)) (a : α), f.read entries = .ok a → P a

theorem Ensures.any (f : Fields ρ α) : f.Ensures fun _ => True := ⟨fun _ _ _ => trivial⟩

theorem Ensures.required {name : FieldName} {get : ρ → α} {c : Codec α} {P : α → Prop}
    (hc : c.Ensures P) : (Fields.required name get c).Ensures P := by
  refine ⟨fun entries a h => ?_⟩
  simp only [Fields.required] at h
  split at h
  · exact hc.of_read _ a (Checked.under_eq_ok.mp h)
  · cases h

theorem Ensures.default {name : FieldName} {get : ρ → α} {c : Codec α} {value : α} {P : α → Prop}
    (hc : c.Ensures P) (hvalue : P value) : (Fields.default name get c value).Ensures P := by
  refine ⟨fun entries a h => ?_⟩
  simp only [Fields.default] at h
  split at h
  · exact hc.of_read _ a (Checked.under_eq_ok.mp h)
  · cases h
    exact hvalue

theorem Ensures.optional {name : FieldName} {get : ρ → Option α} {c : Codec α} {P : α → Prop}
    (hc : c.Ensures P) : (Fields.optional name get c).Ensures fun a => ∀ x ∈ a, P x :=
  .default hc.optional (by rintro x ⟨⟩)

theorem Ensures.map {f : α → β} {x : Fields ρ α} {P : α → Prop} (hx : x.Ensures P) :
    (f <$> x).Ensures fun b => ∃ a, P a ∧ b = f a := by
  refine ⟨fun entries b h => ?_⟩
  obtain ⟨a, ha, rfl⟩ := Checked.map_eq_ok.mp h
  exact ⟨a, hx.of_read entries a ha, rfl⟩

theorem Ensures.seq {f : Fields ρ (α → β)} {x : Fields ρ α} {F : (α → β) → Prop} {P : α → Prop}
    (hf : f.Ensures F) (hx : x.Ensures P) :
    (f <*> x).Ensures fun b => ∃ g a, F g ∧ P a ∧ b = g a := by
  refine ⟨fun entries b h => ?_⟩
  obtain ⟨g, a, hg, ha, rfl⟩ := Checked.both_eq_ok.mp h
  exact ⟨g, a, hf.of_read entries g hg, hx.of_read entries a ha, rfl⟩

theorem Ensures.mono {f : Fields ρ α} {P Q : α → Prop} (hf : f.Ensures P) (h : ∀ a, P a → Q a) :
    f.Ensures Q :=
  ⟨fun entries a ha => h a (hf.of_read entries a ha)⟩

end Fields

/-! ## Records -/

namespace Codec

variable {f : Fields α α} {P : α → Prop}

theorem Ensures.record {name : String} (h : f.Ensures P) : (Codec.record name f).Ensures P := by
  refine ⟨fun x a ha => ?_⟩
  simp only [Codec.record] at ha
  split at ha
  · exact h.of_read _ a ha
  · cases ha

theorem Ensures.closedRecord {name : String} (h : f.Ensures P) :
    (Codec.closedRecord name f).Ensures P := by
  refine ⟨fun x a ha => ?_⟩
  simp only [Codec.closedRecord] at ha
  split at ha
  · split at ha
    · exact h.of_read _ a ha
    · cases ha
  · cases ha

end Codec

end Automation.Schema
