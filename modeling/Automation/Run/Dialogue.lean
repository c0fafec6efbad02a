import Automation.Action.Call

/-!
# Dialogues

What a run does is not a function of its definition alone: it asks the clock, it asks whether it was
aborted, it waits, and it calls other systems. A dialogue is the tree of all that may happen: a
request, and for each answer to it the dialogue that follows.
-/

namespace Automation

/-- A request to the world. -/
inductive Request where
  /-- The reading of the clock, in microseconds. -/
  | clock
  /-- Whether a run was aborted. -/
  | aborted (runId : String)
  /-- Some seconds of waiting. -/
  | sleep (seconds : Float)
  /-- A call, given up after some seconds. -/
  | call (c : Call) (timeout : Float)
deriving DecidableEq

/-- The type of the answers to a request. A call that is given up has no answer, and waiting may break
off with an error of its own. -/
def Request.Answer : Request → Type
  | .clock => Nat
  | .aborted _ => Bool
  | .sleep _ => Except String Unit
  | .call _ _ => Option Automation.Answer

/-- A computation in dialogue with the world. -/
inductive Dialogue (α : Type) where
  | done (a : α)
  | ask (r : Request) (next : r.Answer → Dialogue α)

namespace Dialogue

variable {α β : Type}

/-- Go on after the end. -/
protected def bind : Dialogue α → (α → Dialogue β) → Dialogue β
  | .done a, f => f a
  | .ask r next, f => .ask r fun answer => (next answer).bind f

instance : Monad Dialogue where
  pure := .done
  bind := Dialogue.bind

/-- A single request. -/
def request (r : Request) : Dialogue r.Answer := .ask r .done

/-- Read the clock. -/
def clock : Dialogue Nat := request .clock

/-! ## Laws -/

@[simp] theorem done_bind (a : α) (f : α → Dialogue β) : (done a).bind f = f a := rfl

@[simp] theorem ask_bind (r : Request) (next : r.Answer → Dialogue α) (f : α → Dialogue β) :
    (ask r next).bind f = ask r fun answer => (next answer).bind f := rfl

theorem bind_done (d : Dialogue α) : d.bind done = d := by
  induction d with
  | done a => rfl
  | ask r next ih => simp only [ask_bind, ih]

theorem bind_assoc {γ : Type} (d : Dialogue α) (f : α → Dialogue β) (g : β → Dialogue γ) :
    (d.bind f).bind g = d.bind fun a => (f a).bind g := by
  induction d with
  | done a => rfl
  | ask r next ih => simp only [ask_bind, ih]

instance : LawfulMonad Dialogue :=
  .mk' Dialogue (fun d => bind_done d) (fun _ _ => rfl) fun d f g => bind_assoc d f g

/-! ## Progress -/

/-- One dialogue follows another after an answer. -/
inductive Follows : Dialogue α → Dialogue α → Prop where
  | answer (r : Request) (next : r.Answer → Dialogue α) (a : r.Answer) :
    Follows (next a) (ask r next)

/-- One dialogue is what is left of another after some answers. -/
def Remains : Dialogue α → Dialogue α → Prop := Relation.TransGen Follows

/-- No dialogue goes on for ever. -/
theorem follows_wf : WellFounded (Follows (α := α)) := by
  refine ⟨fun d => ?_⟩
  induction d with
  | done a => exact ⟨_, fun _ h => by cases h⟩
  | ask r next ih => exact ⟨_, fun _ h => by cases h with | answer _ _ a => exact ih a⟩

theorem remains_wf : WellFounded (Remains (α := α)) := follows_wf.transGen

theorem remains_answer (r : Request) (next : r.Answer → Dialogue α) (a : r.Answer) :
    Remains (next a) (ask r next) := .single (.answer r next a)

theorem Remains.trans {a b c : Dialogue α} (h : Remains a b) (h' : Remains b c) : Remains a c :=
  Relation.TransGen.trans h h'

end Dialogue

end Automation
