import Automation.Proofs.Value.Part
import Automation.Value.Compare
import Mathlib.Data.List.Perm.Subperm

/-!
# The laws of comparison

A comparison of quantities turns around with its sides (`Quantity.compare?_swap`). Equality of data
is symmetric for data whose objects name each field once (`agrees_comm`): the fields of the one
object are all found in the other, and as many distinct names as it has are all that it has.
-/

namespace Automation

/-! ## Quantities -/

namespace Number

open Float.Model (UnpackedFloat)

/-- A comparison of floats turns around with its sides. -/
theorem unpacked_compare_swap (x y : UnpackedFloat) :
    y.compare x = (x.compare y).map Ordering.swap := by
  cases x with
  | notANumber => cases y <;> rfl
  | infinity s => cases y with
    | infinity t => cases s <;> cases t <;> rfl
    | _ => cases s <;> rfl
  | zero s => cases y with
    | infinity t | finite t => cases t <;> rfl
    | _ => rfl
  | finite s m e => cases y with
    | infinity t => cases t <;> rfl
    | notANumber => rfl
    | zero => cases s <;> rfl
    | finite t n k =>
      have heq : (compare k e).then (compare n m) = ((compare e k).then (compare m n)).swap := by
        rw [Ordering.swap_then, ← Std.OrientedOrd.eq_swap, ← Std.OrientedOrd.eq_swap]
      cases s <;> cases t
      case positive.positive => exact congrArg some heq
      case negative.negative => exact congrArg (some ∘ Ordering.swap) heq
      all_goals rfl

theorem unpacked_compare_self (x : UnpackedFloat) :
    x.compare x = if x.isNaN then none else some .eq := by
  cases x with
  | notANumber => rfl
  | zero s => rfl
  | infinity s => cases s <;> rfl
  | finite s m e =>
    have heq : (compare e e).then (compare m m) = .eq := by
      rw [Std.ReflOrd.compare_self, Std.ReflOrd.compare_self]
      rfl
    cases s with
    | positive => exact congrArg some heq
    | negative => exact congrArg (some ∘ Ordering.swap) heq

end Number

namespace Value

/-- The comparison of floats in one piece. -/
theorem Quantity.compare?_float (x y : Float) :
    (float x).compare? (float y) = x.toModel.unpack.compare y.toModel.unpack := by
  have hlt (x y : Float) : x < y ↔ x.toModel.unpack.compare y.toModel.unpack = some .lt := by
    change decide (x.toModel.unpack.lt y.toModel.unpack = true) = true ↔ _
    simp [Float.Model.UnpackedFloat.lt]
  have heq : (x == y) = (x.toModel.unpack.compare y.toModel.unpack == some .eq) := rfl
  simp only [compare?, hlt, heq, beq_iff_eq]
  rw [Number.unpacked_compare_swap x.toModel.unpack y.toModel.unpack]
  cases x.toModel.unpack.compare y.toModel.unpack with
  | none => rfl
  | some o => cases o <;> rfl

/-- A comparison turns around with its sides. -/
theorem Quantity.compare?_swap (p q : Quantity) : q.compare? p = (p.compare? q).map Ordering.swap := by
  cases p with
  | int m => cases q with
    | int n => exact congrArg some Std.OrientedOrd.eq_swap
    | float x => rfl
  | float x => cases q with
    | int n => simp [compare?, Function.comp_def]
    | float y => rw [compare?_float, compare?_float, Number.unpacked_compare_swap]

/-- Only what is no number differs from itself. -/
theorem Quantity.compare?_self (x : Float) :
    (float x).compare? (float x) = if x.isNaN then none else some .eq := by
  rw [compare?_float, Number.unpacked_compare_self]
  rfl

theorem Quantity.compare?_eq_comm (p q : Quantity) :
    (p.compare? q == some .eq) = (q.compare? p == some .eq) := by
  rw [compare?_swap p q]
  cases p.compare? q with
  | none => rfl
  | some o => cases o <;> rfl

end Value

/-! ## Entries of distinct names -/

namespace Entries

variable {α : Type} {entries : Entries α} {name : String} {value : α}

theorem get?_eq_some_iff (h : entries.keys.Nodup) :
    entries.get? name = some value ↔ (name, value) ∈ entries := by
  induction entries with
  | nil => simp
  | cons entry rest ih =>
    obtain ⟨key, old⟩ := entry
    obtain ⟨hkey, hrest⟩ := List.nodup_cons.mp h
    rw [get?_cons, List.mem_cons, Prod.mk.injEq]
    split
    · rename_i heq
      subst heq
      have hnone : (key, value) ∉ rest := fun hmem => hkey (List.mem_map.mpr ⟨_, hmem, rfl⟩)
      simp [hnone, eq_comm]
    · rename_i hne
      simp [Ne.symm hne, ih hrest]

end Entries

namespace Value

/-! ## Equality of data -/

/-- The names of every object in a value are distinct. -/
def Distinct (v : Value) : Prop := ∀ {fields}, Part (.object fields) v → (Entries.keys fields).Nodup

variable {v : Value} {items others : List Value} {fields more : List (String × Value)}

theorem Plain.distinct (h : v.Plain) : v.Distinct := h.names

theorem Distinct.item (h : (list items).Distinct) (hv : v ∈ items) : v.Distinct :=
  fun hp => h (.item hv hp)

theorem Distinct.field {field : String × Value} (h : (object fields).Distinct) (hf : field ∈ fields) :
    field.2.Distinct :=
  fun hp => h (.field hf hp)

theorem agreesList_comm (h : ∀ x ∈ items, ∀ y ∈ others, x.agrees y = y.agrees x) :
    agreesList items others = agreesList others items := by
  induction items generalizing others with
  | nil => cases others <;> rfl
  | cons x items ih =>
    cases others with
    | nil => rfl
    | cons y others =>
      rw [agreesList, agreesList, h x List.mem_cons_self y List.mem_cons_self,
        ih fun x hx y hy => h x (List.mem_cons_of_mem _ hx) y (List.mem_cons_of_mem _ hy)]

theorem agreesFields_iff : agreesFields fields more = true ↔
    ∀ field ∈ fields, ∃ v, Entries.get? field.1 more = some v ∧ field.2.agrees v = true := by
  induction fields with
  | nil => simp [agreesFields]
  | cons field rest ih =>
    obtain ⟨name, x⟩ := field
    rw [agreesFields, Bool.and_eq_true, ih, List.forall_mem_cons]
    refine and_congr_left fun _ => ?_
    cases Entries.get? name more <;> simp

/-- If as many fields are all found, then they are all that there are. -/
theorem agreesFields_turn (hfields : (Entries.keys fields).Nodup) (hmore : (Entries.keys more).Nodup)
    (hlength : fields.length = more.length)
    (hcomm : ∀ f ∈ fields, ∀ g ∈ more, f.2.agrees g.2 = g.2.agrees f.2)
    (h : agreesFields fields more = true) : agreesFields more fields = true := by
  rw [agreesFields_iff] at h ⊢
  have hsub : Entries.keys fields ⊆ Entries.keys more := by
    intro name hname
    obtain ⟨f, hf, rfl⟩ := List.mem_map.mp hname
    obtain ⟨v, hv, -⟩ := h f hf
    exact List.mem_map.mpr ⟨_, (Entries.get?_eq_some_iff hmore).mp hv, rfl⟩
  have hperm : (Entries.keys fields).Perm (Entries.keys more) :=
    (List.subperm_of_subset hfields hsub).perm_of_length_le (by simp [Entries.keys, hlength])
  intro g hg
  obtain ⟨f, hf, hname⟩ := List.mem_map.mp (hperm.mem_iff.mpr (List.mem_map_of_mem hg))
  obtain ⟨v, hv, hagrees⟩ := h f hf
  obtain rfl : g.2 = v := by
    rw [hname, (Entries.get?_eq_some_iff hmore).mpr hg] at hv
    exact Option.some.inj hv
  refine ⟨f.2, ?_, by rw [← hcomm f hf g hg]; exact hagrees⟩
  rw [← hname]
  exact (Entries.get?_eq_some_iff hfields).mpr hf

/-- Equality of data is symmetric. -/
theorem agrees_comm {a b : Value} (ha : a.Distinct) (hb : b.Distinct) : a.agrees b = b.agrees a := by
  induction a using nestedInduction generalizing b with
  | null => cases b <;> rfl
  | text s => cases b <;> first | rfl | exact Bool.beq_comm
  | bool | int | float =>
    cases b <;> first | rfl | exact Quantity.compare?_eq_comm _ _
  | list items ih =>
    cases b with
    | list others =>
      rw [agrees, agrees]
      exact agreesList_comm fun x hx y hy => ih x hx (ha.item hx) (hb.item hy)
    | _ => rfl
  | object fields ih =>
    cases b with
    | object more =>
      have hcomm : ∀ f ∈ fields, ∀ g ∈ more, f.2.agrees g.2 = g.2.agrees f.2 :=
        fun f hf g hg => ih f hf (ha.field hf) (hb.field hg)
      rw [Bool.eq_iff_iff, agrees, agrees, Bool.and_eq_true, Bool.and_eq_true, beq_iff_eq, beq_iff_eq]
      constructor
      · rintro ⟨hlength, h⟩
        exact ⟨hlength.symm, agreesFields_turn (ha .refl) (hb .refl) hlength hcomm h⟩
      · rintro ⟨hlength, h⟩
        exact ⟨hlength.symm, agreesFields_turn (hb .refl) (ha .refl) hlength
          (fun g hg f hf => (hcomm f hf g hg).symm) h⟩
    | _ => rfl

end Value

end Automation
