import Automation.Schema.Codec
import Automation.Proofs.Value.Texts

/-!
# Texts in what is written

A codec carries a change of texts over if it makes no difference whether the texts of a written form are
changed, or what is written has been changed before. A record carries a change over if its fields do.
-/

namespace Automation.Schema

variable {α β ρ : Type} {f : String → String}

namespace Codec

/-- The texts of what is written of a value are changed by changing the value. -/
def Carries (c : Codec α) (f : String → String) (g : α → α) : Prop :=
  ∀ layout a, c.write layout (g a) = (c.write layout a).mapTexts f

theorem Carries.text : text.Carries f f := fun _ _ => rfl

theorem Carries.any : any.Carries f (Value.mapTexts f) := fun _ _ => rfl

/-- An integer has no text in it. -/
theorem Carries.integer : integer.Carries f id := fun _ _ => rfl

theorem Carries.guarded {c : Codec α} {ok : α → Bool} {complaint : Complaint} {g : α → α}
    (h : c.Carries f g) : (guarded c ok complaint).Carries f g := h

theorem Carries.optional {c : Codec α} {g : α → α} (h : c.Carries f g) :
    c.optional.Carries f (Option.map g) := by
  intro layout a
  cases a with
  | none => rfl
  | some a => exact h layout a

theorem Carries.list {c : Codec α} {g : α → α} (h : c.Carries f g) :
    (list c).Carries f (List.map g) := by
  intro layout items
  simp only [Codec.list, Value.mapTexts_list, List.map_map]
  congr 1
  exact List.map_congr_left fun a _ => h layout a

theorem Carries.dictionary {c : Codec α} {g : α → α} (h : c.Carries f g) :
    (dictionary c).Carries f (Entries.mapValues g) := by
  intro layout entries
  simp only [Codec.dictionary, Entries.mapValues, Value.mapTexts_object, List.map_map]
  congr 1
  exact List.map_congr_left fun entry _ => Prod.ext rfl (h layout entry.2)

end Codec

namespace Fields

/-- The texts of the written fields of a record are changed by changing the record. -/
def Carries (fields : Fields ρ α) (f : String → String) (g : ρ → ρ) : Prop :=
  ∀ layout r, fields.write layout (g r) =
    (fields.write layout r).map fun field => (field.1, field.2.mapTexts f)

variable {g : ρ → ρ}

theorem Carries.required {name : FieldName} {get : ρ → α} {c : Codec α} {k : α → α}
    (h : c.Carries f k) (hget : ∀ r, get (g r) = k (get r)) :
    (required name get c).Carries f g := by
  intro layout r
  simp only [Fields.required, hget, h layout, List.map_cons, List.map_nil]

theorem Carries.default {name : FieldName} {get : ρ → α} {c : Codec α} {value : α} {k : α → α}
    (h : c.Carries f k) (hget : ∀ r, get (g r) = k (get r)) :
    (default name get c value).Carries f g := by
  intro layout r
  simp only [Fields.default, hget, h layout, List.map_cons, List.map_nil]

theorem Carries.optional {name : FieldName} {get : ρ → Option α} {c : Codec α} {k : α → α}
    (h : c.Carries f k) (hget : ∀ r, get (g r) = (get r).map k) :
    (optional name get c).Carries f g :=
  .default h.optional hget

theorem Carries.map {fields : Fields ρ α} {make : α → β} (h : fields.Carries f g) :
    (make <$> fields).Carries f g := h

theorem Carries.seq {make : Fields ρ (α → β)} {fields : Fields ρ α} (hmake : make.Carries f g)
    (h : fields.Carries f g) : (make <*> fields).Carries f g := by
  intro layout r
  change make.write layout (g r) ++ fields.write layout (g r) =
    List.map _ (make.write layout r ++ fields.write layout r)
  rw [hmake layout r, h layout r, List.map_append]

/-- A field that is null stays so, which is why the same fields are left out. -/
theorem Carries.object {fields : Fields ρ α} (h : fields.Carries f g) (layout : Layout) (r : ρ) :
    fields.object layout (g r) =
      (fields.object layout r).map fun field => (field.1, field.2.mapTexts f) := by
  simp only [Fields.object, h layout r, List.filterMap_map, List.map_filterMap]
  refine List.filterMap_congr fun field _ => ?_
  simp only [Function.comp_apply, Value.mapTexts_eq_null]
  split <;> rfl

end Fields

theorem Codec.Carries.closedRecord {name : String} {fields : Fields α α} {g : α → α}
    (h : fields.Carries f g) : (closedRecord name fields).Carries f g := by
  intro layout a
  simp only [Codec.closedRecord, h.object layout a, Value.mapTexts_object]

end Automation.Schema
