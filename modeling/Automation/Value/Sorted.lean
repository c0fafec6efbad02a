import Automation.Value.Basic

/-!
# Values with sorted fields

Where the order of fields says nothing, values are compared with the fields of every object in the
order of their names.
-/

namespace Automation.Value

mutual

/-- A value in which the fields of every object are sorted by their names. -/
def sortFields : Value → Value
  | .list items => .list (sortItems items)
  | .object fields => .object ((sortEach fields).mergeSort fun a b => decide (a.1 ≤ b.1))
  | v => v

/-- The elements of a list with sorted fields. -/
def sortItems : List Value → List Value
  | [] => []
  | item :: items => sortFields item :: sortItems items

/-- The fields of an object in their order, with sorted fields in each. -/
def sortEach : List (String × Value) → List (String × Value)
  | [] => []
  | (name, value) :: rest => (name, sortFields value) :: sortEach rest

end

end Automation.Value
