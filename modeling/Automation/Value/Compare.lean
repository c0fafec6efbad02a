import Automation.Value.Basic
import Automation.Number.Text

/-!
# Comparing values

Numbers compare by what they stand for, whether they are integers or floats, and a flag counts as
one or zero. Nothing compares with a NaN.
-/

namespace Automation.Value

/-- A number: an integer, or a float. -/
inductive Quantity where
  | int (n : Int)
  | float (x : Float)
deriving DecidableEq

/-- How two quantities compare, exactly; a NaN compares with nothing. -/
def Quantity.compare? : Quantity → Quantity → Option Ordering
  | .int a, .int b => some (compare a b)
  | .float a, .float b =>
    if a < b then some .lt else if b < a then some .gt else if a == b then some .eq else none
  | .int a, .float b => compareMixed a b
  | .float a, .int b => (compareMixed b a).map Ordering.swap
where
  compareMixed (n : Int) (x : Float) : Option Ordering :=
    match Number.Dyadic.ofFloat? x with
    | some d => some (Number.compareInt n d)
    | none => if x.isNaN then none else if 0 < x then some .lt else some .gt

/-- The quantity of a number. Flags are no numbers here. -/
def quantity? : Value → Option Quantity
  | .int n => some (.int n)
  | .float x => some (.float x)
  | _ => none

/-- The quantity of a number or a flag. -/
def measure? : Value → Option Quantity
  | .bool b => some (.int (if b then 1 else 0))
  | v => v.quantity?

mutual

/-- Whether two values are equal as data: numbers by quantity, lists item by item, and objects
field by field in any order. -/
def agrees : Value → Value → Bool
  | .null, .null => true
  | .text a, .text b => a == b
  | .list a, .list b => agreesList a b
  | .object a, .object b => a.length == b.length && agreesFields a b
  | a, b =>
    match a.measure?, b.measure? with
    | some x, some y => x.compare? y == some .eq
    | _, _ => false

/-- Item by item. -/
def agreesList : List Value → List Value → Bool
  | [], [] => true
  | x :: xs, y :: ys => agrees x y && agreesList xs ys
  | _, _ => false

/-- Every field has an equal one of the same name. -/
def agreesFields : List (String × Value) → List (String × Value) → Bool
  | [], _ => true
  | (name, value) :: rest, other =>
    (match Entries.get? name other with
      | some value' => agrees value value'
      | none => false)
    && agreesFields rest other

end

end Automation.Value
