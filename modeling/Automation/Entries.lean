/-!
# Entries

Finite maps from names that remember the order in which the names came. A name that is set again
keeps its place, so the order is that of first insertion.
-/

namespace Automation

/-- A map from names as the list of its entries. -/
abbrev Entries (α : Type) := List (String × α)

namespace Entries

variable {α β : Type}

/-- The value under a name. -/
def get? (name : String) : Entries α → Option α
  | [] => none
  | (key, value) :: rest => if key = name then some value else get? name rest

/-- Whether a name has a value. -/
def has (name : String) (entries : Entries α) : Bool := (entries.get? name).isSome

/-- Put a value under a name: in the place of the old one, or at the end. -/
def set (name : String) (value : α) : Entries α → Entries α
  | [] => [(name, value)]
  | (key, old) :: rest =>
    if key = name then (key, value) :: rest else (key, old) :: set name value rest

/-- The entries without a name. -/
def erase (name : String) (entries : Entries α) : Entries α :=
  entries.filter fun entry => entry.1 ≠ name

/-- The names, in order. -/
def keys (entries : Entries α) : List String := entries.map (·.1)

/-- Set every entry of a second map in the first. -/
def merge (entries changes : Entries α) : Entries α :=
  changes.foldl (fun acc (name, value) => acc.set name value) entries

/-- A map from pairs in which a later value of a name replaces an earlier one. -/
def ofPairs (pairs : List (String × α)) : Entries α := merge [] pairs

/-- The same names with other values. -/
def mapValues (f : α → β) (entries : Entries α) : Entries β :=
  entries.map fun (name, value) => (name, f value)

/-! ## Laws -/

@[simp] theorem get?_nil (name : String) : get? name ([] : Entries α) = none := rfl

@[simp] theorem get?_cons (name key : String) (value : α) (rest : Entries α) :
    get? name ((key, value) :: rest) = if key = name then some value else get? name rest := rfl

/-- A name that was set reads back; every other name reads as before. -/
theorem get?_set (name other : String) (value : α) (entries : Entries α) :
    (entries.set name value).get? other =
      if name = other then some value else entries.get? other := by
  induction entries with
  | nil => simp [set]
  | cons entry rest ih =>
    obtain ⟨key, old⟩ := entry
    by_cases hk : key = name
    · by_cases ho : name = other <;> simp [set, hk, ho]
    · by_cases ho : key = other
      · have hn : ¬ name = other := fun h => hk (ho.trans h.symm)
        simp [set, ho, hn, Ne.symm hn]
      · simp [set, hk, ho, ih]

/-- Setting changes no name but its own, and adds it at the end if it is new. -/
theorem keys_set (name : String) (value : α) (entries : Entries α) :
    (entries.set name value).keys =
      if entries.has name then entries.keys else entries.keys ++ [name] := by
  induction entries with
  | nil => simp [set, has, keys]
  | cons entry rest ih =>
    obtain ⟨key, old⟩ := entry
    by_cases hk : key = name
    · simp [set, hk, has, keys]
    · have hh : has name ((key, old) :: rest) = has name rest := by simp [has, hk]
      rw [hh]
      by_cases hr : has name rest = true
      · rw [if_pos hr] at ih ⊢
        simpa [set, hk, keys] using ih
      · rw [if_neg hr] at ih ⊢
        simpa [set, hk, keys] using ih

end Entries

end Automation
