import Automation.Number.Text
import Automation.Value.Basic
import Mathlib.Data.List.Nodup

/-!
# Parts of values

A value is a part of itself, and what is a part of an item or of a field is a part of the whole. Data
that a JSON text can hold is `Plain`, and it is `Finite` if no float in it is infinite or no number.
-/

namespace Automation.Value

/-- An induction over a value has its hypothesis for the items of a list and the fields of an object. -/
@[elab_as_elim]
theorem nestedInduction {motive : Value → Prop} (null : motive .null)
    (bool : ∀ b, motive (.bool b)) (int : ∀ n, motive (.int n)) (float : ∀ x, motive (.float x))
    (text : ∀ s, motive (.text s)) (list : ∀ items, (∀ x ∈ items, motive x) → motive (.list items))
    (object : ∀ fields : List (String × Value), (∀ field ∈ fields, motive field.2) →
      motive (.object fields)) : ∀ v, motive v
  | .null => null
  | .bool b => bool b
  | .int n => int n
  | .float x => float x
  | .text s => text s
  | .list items => list items fun x _ => nestedInduction null bool int float text list object x
  | .object fields => object fields fun (_, x) _ =>
    nestedInduction null bool int float text list object x
termination_by v => sizeOf v
decreasing_by
  all_goals
    have hlt := List.sizeOf_lt_of_mem ‹_ ∈ _›
    simp only [Prod.mk.sizeOf_spec, Value.list.sizeOf_spec, Value.object.sizeOf_spec] at *
    omega

/-- What a value is made of. -/
inductive Part (p : Value) : Value → Prop where
  | refl : Part p p
  | item {x : Value} {items : List Value} : x ∈ items → Part p x → Part p (.list items)
  | field {name : String} {x : Value} {fields : List (String × Value)} :
      (name, x) ∈ fields → Part p x → Part p (.object fields)

variable {p v : Value} {items : List Value} {fields : List (String × Value)}

/-! ## Finding the parts -/

@[simp] theorem part_null : Part p .null ↔ p = .null := ⟨by rintro ⟨⟩; rfl, by rintro rfl; exact .refl⟩

@[simp] theorem part_bool {b : Bool} : Part p (.bool b) ↔ p = .bool b :=
  ⟨by rintro ⟨⟩; rfl, by rintro rfl; exact .refl⟩

@[simp] theorem part_int {n : Int} : Part p (.int n) ↔ p = .int n :=
  ⟨by rintro ⟨⟩; rfl, by rintro rfl; exact .refl⟩

@[simp] theorem part_float {x : Float} : Part p (.float x) ↔ p = .float x :=
  ⟨by rintro ⟨⟩; rfl, by rintro rfl; exact .refl⟩

@[simp] theorem part_text {s : String} : Part p (.text s) ↔ p = .text s :=
  ⟨by rintro ⟨⟩; rfl, by rintro rfl; exact .refl⟩

@[simp] theorem part_list : Part p (.list items) ↔ p = .list items ∨ ∃ x ∈ items, Part p x := by
  constructor
  · rintro (_ | ⟨hx, hp⟩)
    · exact .inl rfl
    · exact .inr ⟨_, hx, hp⟩
  · rintro (rfl | ⟨x, hx, hp⟩)
    · exact .refl
    · exact .item hx hp

@[simp] theorem part_object :
    Part p (.object fields) ↔ p = .object fields ∨ ∃ field ∈ fields, Part p field.2 := by
  constructor
  · rintro (_ | _ | ⟨hx, hp⟩)
    · exact .inl rfl
    · exact .inr ⟨_, hx, hp⟩
  · rintro (rfl | ⟨⟨name, x⟩, hx, hp⟩)
    · exact .refl
    · exact .field hx hp

/-! ## Data that a JSON text can hold -/

/-- The names of an object are distinct, and no integer has more digits than are read. -/
structure Plain (v : Value) : Prop where
  names : ∀ {fields}, Part (.object fields) v → (Entries.keys fields).Nodup
  digits : ∀ {n}, Part (.int n) v → (Nat.toDigits 10 n.natAbs).length ≤ Number.digitLimit

/-- Every float is a number, and not infinite. -/
def Finite (v : Value) : Prop := ∀ {x}, Part (.float x) v → x.isFinite = true

/-! ### By the form of a value -/

@[simp] theorem plain_null : null.Plain := ⟨by simp, by simp⟩

@[simp] theorem plain_bool (b : Bool) : (bool b).Plain := ⟨by simp, by simp⟩

@[simp] theorem plain_float (x : Float) : (float x).Plain := ⟨by simp, by simp⟩

@[simp] theorem plain_text (s : String) : (text s).Plain := ⟨by simp, by simp⟩

@[simp] theorem plain_int {n : Int} :
    (int n).Plain ↔ (Nat.toDigits 10 n.natAbs).length ≤ Number.digitLimit :=
  ⟨fun h => h.digits .refl, fun h => ⟨by simp, by simpa using h⟩⟩

theorem Plain.item {x : Value} (h : (list items).Plain) (hx : x ∈ items) : x.Plain :=
  ⟨fun hp => h.names (.item hx hp), fun hp => h.digits (.item hx hp)⟩

theorem Plain.field {field : String × Value} (h : (object fields).Plain) (hx : field ∈ fields) :
    field.2.Plain :=
  ⟨fun hp => h.names (.field hx hp), fun hp => h.digits (.field hx hp)⟩

@[simp] theorem plain_list : (list items).Plain ↔ ∀ x ∈ items, x.Plain := by
  refine ⟨fun h _ hx => h.item hx, fun h => ⟨fun hp => ?_, fun hp => ?_⟩⟩
  · cases hp with
    | item hx hp => exact (h _ hx).names hp
  · cases hp with
    | item hx hp => exact (h _ hx).digits hp

@[simp] theorem plain_object : (object fields).Plain ↔
    (Entries.keys fields).Nodup ∧ ∀ field ∈ fields, field.2.Plain := by
  refine ⟨fun h => ⟨h.names .refl, fun _ hx => h.field hx⟩,
    fun ⟨hnames, h⟩ => ⟨fun hp => ?_, fun hp => ?_⟩⟩
  · cases hp with
    | refl => exact hnames
    | field hx hp => exact (h _ hx).names hp
  · cases hp with
    | field hx hp => exact (h _ hx).digits hp

theorem Finite.item {x : Value} (h : (list items).Finite) (hx : x ∈ items) : x.Finite :=
  fun hp => h (.item hx hp)

theorem Finite.field {field : String × Value} (h : (object fields).Finite) (hx : field ∈ fields) :
    field.2.Finite :=
  fun hp => h (.field hx hp)

end Automation.Value
