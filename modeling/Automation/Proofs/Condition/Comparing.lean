import Automation.Condition.Eval
import Automation.Proofs.Value.Compare

/-!
# The laws of the comparison operators

Each operator turns around with its sides: an order into the opposite one, and an equality into
itself (`Comparison.holds_turned`). The two unequal operators are the complements of the equal ones.

Strict equality does not imply the loose one. Data of one kind is equal by its contents, but equality
across kinds looks at the number that a text writes and at the shown form of a list or an object, so
that a text that writes what is no number differs from itself and `[1]` differs from `[1.0]`.
`equalLoosely_of_equalStrictly_iff` says where it does follow, and `comparisons_consistent` puts the
laws together.
-/

namespace Automation.Condition

variable {a b : Value} {op : Comparison}

/-! ## Turning a comparison around -/

/-- The operator that says the same with its sides exchanged. -/
def Comparison.turned : Comparison → Comparison
  | .greater => .less
  | .less => .greater
  | .atLeast => .atMost
  | .atMost => .atLeast
  | op => op

theorem order?_swap (a b : Value) : order? b a = (order? a b).map Ordering.swap := by
  unfold order?
  generalize quantity? a = x, quantity? b = y
  cases x <;> cases y
  case some.some x y => exact Value.Quantity.compare?_swap x y
  all_goals
    cases a <;> cases b
    case text.text => exact congrArg some Std.OrientedOrd.eq_swap
    all_goals rfl

theorem equalStrictly_comm (ha : a.Distinct) (hb : b.Distinct) :
    equalStrictly a b = equalStrictly b a := by
  cases a <;> cases b <;> first | exact Value.agrees_comm ha hb | exact Bool.beq_comm | rfl

theorem equalLoosely_comm (a b : Value) : equalLoosely a b = equalLoosely b a := by
  cases a with
  | null => cases b <;> rfl
  | bool p => cases b with
    | null => rfl
    | bool q => exact Bool.beq_comm
    | _ => simp only [equalLoosely, Bool.beq_comm]
  | _ => cases b with
    | null => rfl
    | bool q => simp only [equalLoosely, Bool.beq_comm]
    | _ =>
      simp only [equalLoosely]
      generalize quantity? _ = x, quantity? _ = y
      cases x <;> cases y
      case some.some => exact Value.Quantity.compare?_eq_comm _ _
      all_goals exact Bool.beq_comm

/-- A comparison says the same as the turned one of its sides exchanged. -/
theorem Comparison.holds_turned (ha : a.Distinct) (hb : b.Distinct) :
    op.turned.holds b a = op.holds a b := by
  cases op with
  | strictEqual => exact equalStrictly_comm hb ha
  | strictUnequal => exact congrArg not (equalStrictly_comm hb ha)
  | equal => exact equalLoosely_comm b a
  | unequal => exact congrArg not (equalLoosely_comm b a)
  | greater | less | atLeast | atMost =>
    rw [turned, holds, holds, order?_swap a b]
    cases order? a b with
    | none => rfl
    | some o => cases o <;> rfl

/-! ## From strict to loose equality -/

/-- What data that is equal must meet to be equal across kinds too: a text writes no number or one
that is equal to itself, and lists and objects are shown alike. -/
def MeetsLoosely (a b : Value) : Prop :=
  match a with
  | .text s => ∀ x, Number.readFloat? s = some x → x.isNaN = false
  | .list _ | .object _ => a.display = b.display
  | _ => True

theorem equalLoosely_text (s : String) : equalLoosely (.text s) (.text s) = true ↔
    ∀ x, Number.readFloat? s = some x → x.isNaN = false := by
  cases hread : Number.readFloat? s with
  | none => simp [equalLoosely, quantity?, hread]
  | some x => simp [equalLoosely, quantity?, hread, Value.Quantity.compare?_self]

/-- Values that are strictly equal are loosely equal exactly if they meet what this asks. -/
theorem equalLoosely_of_equalStrictly_iff (h : equalStrictly a b = true) :
    equalLoosely a b = true ↔ MeetsLoosely a b := by
  cases a with
  | null => cases b with
    | null => exact iff_of_true rfl trivial
    | _ => cases h
  | bool p => cases b with
    | bool q => exact iff_of_true h trivial
    | _ => cases h
  | int n => cases b with
    | int m | float y => exact iff_of_true h trivial
    | _ => cases h
  | float x => cases b with
    | int m | float y => exact iff_of_true h trivial
    | _ => cases h
  | text s => cases b with
    | text t =>
      obtain rfl := eq_of_beq h
      exact equalLoosely_text s
    | _ => cases h
  | list items => cases b with
    | list others => exact beq_iff_eq
    | _ => cases h
  | object fields => cases b with
    | object more => exact beq_iff_eq
    | _ => cases h

/-! ## The laws together -/

/-- The laws of the comparison operators, for values whose objects name each field once. -/
theorem comparisons_consistent (ha : a.Distinct) (hb : b.Distinct) :
    (Comparison.strictEqual.holds a b = true →
      (Comparison.equal.holds a b = true ↔ MeetsLoosely a b)) ∧
    Comparison.strictUnequal.holds a b = !Comparison.strictEqual.holds a b ∧
    Comparison.unequal.holds a b = !Comparison.equal.holds a b ∧
    Comparison.strictEqual.holds a b = Comparison.strictEqual.holds b a ∧
    Comparison.equal.holds a b = Comparison.equal.holds b a ∧
    Comparison.greater.holds a b = Comparison.less.holds b a ∧
    Comparison.atLeast.holds a b = Comparison.atMost.holds b a :=
  have hturn (op : Comparison) : op.holds a b = op.turned.holds b a :=
    (Comparison.holds_turned ha hb).symm
  ⟨equalLoosely_of_equalStrictly_iff, rfl, rfl, hturn .strictEqual, hturn .equal, hturn .greater,
    hturn .atLeast⟩

/-- The laws at a list of an integer and a list of the float that is equal to it. -/
theorem ones_consistent :
    (Value.list [.int 1]).Distinct ∧ (Value.list [.float 1.0]).Distinct ∧
      Comparison.strictEqual.holds (.list [.int 1]) (.list [.float 1.0]) = true ∧
      (Comparison.equal.holds (.list [.int 1]) (.list [.float 1.0]) = true ↔
        MeetsLoosely (.list [.int 1]) (.list [.float 1.0])) := by
  have hint : (Value.list [.int 1]).Distinct := by intro fields h; simp at h
  have hfloat : (Value.list [.float 1.0]).Distinct := by intro fields h; simp at h
  have hstrict : Comparison.strictEqual.holds (.list [.int 1]) (.list [.float 1.0]) = true := by
    decide +kernel
  exact ⟨hint, hfloat, hstrict, (comparisons_consistent hint hfloat).1 hstrict⟩

/-- Lists that are strictly equal and not loosely. -/
theorem ones_differ_loosely :
    Comparison.strictEqual.holds (.list [.int 1]) (.list [.float 1.0]) = true ∧
      Comparison.equal.holds (.list [.int 1]) (.list [.float 1.0]) = false := by
  decide +kernel

end Automation.Condition
