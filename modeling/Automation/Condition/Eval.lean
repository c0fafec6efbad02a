import Automation.Condition.Parser
import Automation.Value.Compare

/-!
# Evaluating conditions

A condition is evaluated in a run's context. Strict equality is equality of data of one kind.
Loose equality also compares numbers with their text, flags with the truth of anything, and all
else by the shown form. An order holds between numbers, texts that write numbers, and texts.
-/

namespace Automation.Condition

/-- Why a condition has no truth value. -/
inductive Fault where
  | unreadable (fault : ReadFault)
  | undefined (path : String)
  | lookup (fault : LookupFault)
deriving DecidableEq, Repr

/-! ## Truth -/

/-- The texts that are false, in lower case. -/
def falseWords : List String := ["", "false", "none", "null", "0"]

/-- Whether a value counts as true. -/
def truth : Value → Bool
  | .bool b => b
  | .text s => !falseWords.contains (Text.lowerLatin s)
  | v => !v.isEmptyLike

/-! ## Comparing -/

/-- The quantity of a number or of a text that writes one. -/
def quantity? : Value → Option Value.Quantity
  | .text s => (Number.readFloat? s).map .float
  | v => v.quantity?

/-- Equality of data of one kind. -/
def equalStrictly : Value → Value → Bool
  | .bool a, .bool b => a == b
  -- Flags are kept apart from numbers, which `agrees` does not do.
  | .bool _, _ => false
  | _, .bool _ => false
  | a, b => a.agrees b

/-- Equality across kinds. -/
def equalLoosely : Value → Value → Bool
  | .null, .null => true
  | .null, _ => false
  | _, .null => false
  | .bool a, b => a == truth b
  | a, .bool b => truth a == b
  | a, b =>
    match quantity? a, quantity? b with
    | some x, some y => x.compare? y == some .eq
    | _, _ => a.display == b.display

/-- How two values are ordered, if they are. -/
def order? (a b : Value) : Option Ordering :=
  match quantity? a, quantity? b with
  | some x, some y => x.compare? y
  | _, _ =>
    match a, b with
    | .text s, .text t => some (compare s t)
    | _, _ => none

/-- The truth of a comparison. -/
def Comparison.holds : Comparison → Value → Value → Bool
  | .strictEqual, a, b => equalStrictly a b
  | .strictUnequal, a, b => !equalStrictly a b
  | .equal, a, b => equalLoosely a b
  | .unequal, a, b => !equalLoosely a b
  | .greater, a, b => order? a b == some .gt
  | .less, a, b => order? a b == some .lt
  | .atLeast, a, b => order? a b == some .gt || order? a b == some .eq
  | .atMost, a, b => order? a b == some .lt || order? a b == some .eq

/-! ## Evaluating -/

/-- The value of a tree in a context. The right side of a connective is only evaluated if the left
one leaves it open. -/
def Expr.eval (c : Context) : Expr → Except Fault Value
  | .literal v => .ok v
  | .path p =>
    match c.lookup p with
    | .error fault => .error (.lookup fault)
    | .ok none => .error (.undefined p)
    | .ok (some v) => .ok v
  | .not e => do
    let v ← e.eval c
    return .bool (!truth v)
  | .and l r => do
    let a ← l.eval c
    if truth a then
      let b ← r.eval c
      return .bool (truth b)
    else return .bool false
  | .or l r => do
    let a ← l.eval c
    if truth a then return .bool true
    else
      let b ← r.eval c
      return .bool (truth b)
  | .compare op l r => do
    let a ← l.eval c
    let b ← r.eval c
    return .bool (op.holds a b)

/-- The truth of a condition in a context. -/
def evaluate (expression : String) (c : Context) : Except Fault Bool :=
  match read expression with
  | .error fault => .error (.unreadable fault)
  | .ok e => (e.eval c).map truth

/-- The message about a path that a condition cannot look up. -/
def undefinedMessage (expression path : String) : String :=
  s!"Condition '{expression}' could not be evaluated: '{path}' is not defined"

end Automation.Condition
