import Automation.Number.Text

/-!
# Reading forward

A reader of a text gives what it has read and what is left of the text, which is an end of it, or it
stops for a reason. `Except.Ends` says both at once, so that it goes through a reader step by step.
-/

namespace Except

variable {ε α β : Type} {E : ε → Prop} {P : α → Prop} {Q : β → Prop}

/-- A computation ends with an error of which the one thing holds, or with a result of which the other
does. -/
def Ends (E : ε → Prop) (P : α → Prop) : Except ε α → Prop
  | .error e => E e
  | .ok a => P a

theorem Ends.of_ok {x : Except ε α} {a : α} (h : x.Ends E P) (hx : x = .ok a) : P a := by
  rwa [hx] at h

theorem Ends.of_error {x : Except ε α} {e : ε} (h : x.Ends E P) (hx : x = .error e) : E e := by
  rwa [hx] at h

theorem Ends.bind {x : Except ε α} {f : α → Except ε β} (hx : x.Ends E P)
    (hf : ∀ a, P a → (f a).Ends E Q) : (x >>= f).Ends E Q := by
  cases x with
  | ok a => exact hf a hx
  | error e => exact hx

theorem Ends.map {x : Except ε α} {f : α → β} (hx : x.Ends E P) (hf : ∀ a, P a → Q (f a)) :
    (x.map f).Ends E Q := by
  cases x with
  | ok a => exact hf a hx
  | error e => exact hx

theorem Ends.imp {P' : α → Prop} {x : Except ε α} (hx : x.Ends E P) (h : ∀ a, P a → P' a) :
    x.Ends E P' := by
  cases x with
  | ok a => exact h a hx
  | error e => exact hx

theorem Ends.imp_error {E' : ε → Prop} {x : Except ε α} (hx : x.Ends E P) (h : ∀ e, E e → E' e) :
    x.Ends E' P := by
  cases x with
  | ok a => exact hx
  | error e => exact h e hx

theorem Ends.ite {b : Prop} [Decidable b] {x y : Except ε α} (hx : b → x.Ends E P)
    (hy : ¬b → y.Ends E P) : (if b then x else y).Ends E P := by
  split <;> rename_i hb
  · exact hx hb
  · exact hy hb

/-- A check in front: it fails with an error, or the rest follows. -/
theorem Ends.check {b : Prop} [Decidable b] {e : ε} {x : Except ε β} (he : b → E e)
    (hx : ¬b → x.Ends E Q) :
    (if b then (Except.error e : Except ε PUnit) >>= fun _ => x else x).Ends E Q := by
  split <;> rename_i hb
  · exact he hb
  · exact hx hb

end Except

namespace Automation.Number

/-- Among some characters so many digits stand in a row, and these are more than are read. -/
def LongRun (cs : List Char) (count : Nat) : Prop :=
  ∃ run, run <:+: cs ∧ (∀ c ∈ run, Text.isLatinDigit c = true) ∧ digitLimit < run.length ∧
    run.length = count

theorem LongRun.of_suffix {cs rest : List Char} {count : Nat} (h : LongRun rest count)
    (hrest : rest <:+ cs) : LongRun cs count := by
  obtain ⟨run, hrun, hdigits, hlong, hcount⟩ := h
  exact ⟨run, hrun.trans hrest.isInfix, hdigits, hlong, hcount⟩

end Automation.Number
