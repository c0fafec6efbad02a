import Automation.Value.Display

/-!
# Sources

Data that can be read step by step: values, and the richer data of other formats, whose keys need
not be names and which have scalars of their own.
-/

namespace Automation.Schema

/-- A key of an object. -/
inductive Key where
  | name (s : String)
  /-- A key that is no text, with its shown form and its place in issues. -/
  | other (shown : String) (number : Option Nat)

/-- The outermost layer of data. -/
inductive Shape (σ : Type) where
  | null
  | bool (b : Bool)
  | int (n : Int)
  | float (x : Float)
  | text (s : String)
  | list (items : List σ)
  | object (fields : List (Key × σ))
  /-- A scalar that no other case covers, with its shown form. -/
  | foreign (shown : String)

/-- Data that can be read. -/
class Source (σ : Type) where
  shape : σ → Shape σ
  /-- All of it as a value. -/
  toValue : σ → Value

/-- The outermost layer of a value. -/
def valueShape : Value → Shape Value
  | .null => .null
  | .bool b => .bool b
  | .int n => .int n
  | .float x => .float x
  | .text s => .text s
  | .list items => .list items
  | .object fields => .object (fields.map fun (name, value) => (.name name, value))

instance : Source Value := ⟨valueShape, id⟩

end Automation.Schema
