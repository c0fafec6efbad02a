import Automation.Proofs.Value.Part

/-!
# Texts in values

A value can be put through a function on texts, at every depth: lists keep their lengths, objects the
names of their fields, and all that is no text stays.
-/

namespace Automation.Value

mutual

/-- A value with every text in it put through a function. -/
def mapTexts (f : String → String) : Value → Value
  | .text s => .text (f s)
  | .list items => .list (mapTextsList f items)
  | .object fields => .object (mapTextsFields f fields)
  | v => v

/-- The elements of a list with every text in them put through a function. -/
def mapTextsList (f : String → String) : List Value → List Value
  | [] => []
  | item :: items => mapTexts f item :: mapTextsList f items

/-- Fields with every text in their values put through a function. -/
def mapTextsFields (f : String → String) : List (String × Value) → List (String × Value)
  | [] => []
  | (name, value) :: fields => (name, mapTexts f value) :: mapTextsFields f fields

end

variable {f : String → String} {v : Value} {items : List Value} {fields : List (String × Value)}

theorem mapTextsList_eq : mapTextsList f items = items.map (mapTexts f) := by
  induction items with
  | nil => rfl
  | cons item items ih => rw [mapTextsList, ih, List.map_cons]

theorem mapTextsFields_eq :
    mapTextsFields f fields = fields.map fun field => (field.1, mapTexts f field.2) := by
  induction fields with
  | nil => rfl
  | cons field fields ih => rw [mapTextsFields, ih, List.map_cons]

@[simp] theorem mapTexts_null : mapTexts f .null = .null := rfl
@[simp] theorem mapTexts_int {n : Int} : mapTexts f (.int n) = .int n := rfl
@[simp] theorem mapTexts_text {s : String} : mapTexts f (.text s) = .text (f s) := rfl

@[simp] theorem mapTexts_list : mapTexts f (.list items) = .list (items.map (mapTexts f)) := by
  rw [mapTexts, mapTextsList_eq]

@[simp] theorem mapTexts_object :
    mapTexts f (.object fields) = .object (fields.map fun field => (field.1, mapTexts f field.2)) := by
  rw [mapTexts, mapTextsFields_eq]

@[simp] theorem mapTexts_eq_null : mapTexts f v = .null ↔ v = .null := by
  cases v <;> simp [mapTexts]

/-- A value stays as it is if each text in it does. -/
theorem mapTexts_id (h : ∀ s, Part (.text s) v → f s = s) : v.mapTexts f = v := by
  induction v using nestedInduction with
  | text s => rw [mapTexts_text, h s .refl]
  | list items ih =>
    rw [mapTexts_list, List.map_congr_left fun x hx => ih x hx fun s hs => h s (.item hx hs), List.map_id']
  | object fields ih =>
    have hfields : ∀ field ∈ fields, (field.1, mapTexts f field.2) = field :=
      fun field hfield => Prod.ext rfl (ih field hfield fun s hs => h s (.field hfield hs))
    rw [mapTexts_object, List.map_congr_left hfields, List.map_id']
  | _ => rfl

end Automation.Value
