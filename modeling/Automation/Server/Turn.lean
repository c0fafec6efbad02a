import Automation.Server.Basic

/-!
# Turns

Runs take turns. In its turn a task talks with the world until it has to wait, for time to pass or
for an answer; when its run is over it records the result. The next turn belongs to the task that
wakes first. Every turn takes an answer off a dialogue or ends a task, so the tasks come to an end
in any order of turns.
-/

namespace Automation

variable {τ : Type}

/-! ## One turn -/

/-- Where a dialogue comes to a stop. -/
inductive Stop (α : Type) where
  /-- It waits up to a reading of the clock. -/
  | waiting (wakesAt : Nat) (rest : Dialogue α)
  | over (a : α)

namespace Server

/-- Talk on until there is something to wait for. -/
def converse {α : Type} (s : Server τ) : Dialogue α → Stop α × Server τ
  | .done a => (.over a, s)
  | .ask .clock next => s.converse (next s.elapsed)
  | .ask (.aborted runId) next => s.converse (next (s.flags.isAborted runId s.elapsed))
  | .ask (.sleep seconds) next => (.waiting (s.elapsed + pauseMicros seconds) (next (.ok ())), s)
  | .ask (.call c timeout) next =>
    let (answer, wakesAt, s) := s.call c timeout
    (.waiting wakesAt (next answer), s)

end Server

namespace Service

/-- What follows a run that has been recorded: it is queued if it is suspended, and else nobody has
to abort it any more. -/
def afterRun (d : Dispatcher) (result : RunResult τ) : Service τ Unit :=
  modify fun s =>
    match result.status, result.continuation with
    | .suspended, some c =>
      if d.suspends then { s with scheduler := s.scheduler.scheduleResume c } else s
    | _, _ => if d.aborts then { s with flags := s.flags.clear result.runId } else s

/-- Insert the run of a task, unless it is there. -/
def begin (t : Task τ) : Service τ Unit := do
  unless t.started do
    let _ ← store (Runs.start t.workflow t.event t.runId (t.kind = .test) (← get).now)

variable [ActiveTime τ] [RunningMean τ]

/-- Record how the run of a task came out. -/
def conclude (t : Task τ) (outcome : Except Escape (RunResult τ)) : Service τ (RunResult τ) := do
  match outcome with
  | .error cause => throw (.escape cause)
  | .ok result =>
    let isTest : Bool := t.kind = .test
    let _ ← store (Runs.record t.workflow t.event result isTest (← get).now)
    unless isTest do afterRun t.dispatcher result
    return result

end Service

namespace Server

variable [ActiveTime τ] [RunningMean τ]

/-- How the run of a task came out, as far as the one who waits for it can tell. -/
abbrev Ending (τ : Type) := Except Failed (RunResult τ)

/-- The turn of a task: what became of the task, or how it ended, and the server behind it. -/
def takeTurn (s : Server τ) (t : Task τ) : (Task τ ⊕ Ending τ) × Server τ :=
  let s := { s with elapsed := max s.elapsed t.wakesAt }
  match (Service.begin t).run s with
  | (.error failure, s) => (.inr (.error failure), s)
  | (.ok (), s) =>
    match s.converse t.rest with
    | (.waiting wakesAt rest, s) =>
      (.inl { t with started := true, wakesAt, turn := s.turns, rest },
        { s with turns := s.turns + 1 })
    | (.over outcome, s) =>
      let (ending, s) := (Service.conclude t outcome).run s
      (.inr ending, s)

/-! ## The next task -/

/-- The task whose turn is next, with the tasks before and behind it. -/
def nextTask : List (Task τ) → Option (List (Task τ) × Task τ × List (Task τ))
  | [] => none
  | t :: rest =>
    match nextTask rest with
    | none => some ([], t, rest)
    | some (before, u, behind) =>
      if t.precedes u then some ([], t, rest) else some (t :: before, u, behind)

/-- The server after the turn of a task that stands between others, with the number and the ending
of the task if it has ended. -/
def turn (s : Server τ) (before : List (Task τ)) (t : Task τ) (behind : List (Task τ)) :
    Option (Ending τ) × Server τ :=
  match s.takeTurn t with
  | (.inl t, s) => (none, { s with tasks := before ++ t :: behind })
  | (.inr ending, s) => (some ending, { s with tasks := before ++ behind })

end Server

/-! ## Progress -/

/-- One list of tasks comes out of another: a task has ended, or less of it is left. -/
inductive Advances : List (Task τ) → List (Task τ) → Prop where
  | ended (t : Task τ) (tasks : List (Task τ)) : Advances tasks (t :: tasks)
  | went (t u : Task τ) (tasks : List (Task τ)) (h : u.rest.Remains t.rest) :
    Advances (u :: tasks) (t :: tasks)
  | later (t : Task τ) {tasks tasks' : List (Task τ)} (h : Advances tasks tasks') :
    Advances (t :: tasks) (t :: tasks')

theorem Advances.behind {tasks tasks' : List (Task τ)} (h : Advances tasks tasks') :
    ∀ before : List (Task τ), Advances (before ++ tasks) (before ++ tasks')
  | [] => h
  | t :: before => .later t (h.behind before)

theorem acc_cons {d : Dialogue (Except Escape (RunResult τ))} (hd : Acc Dialogue.Remains d) :
    ∀ {tasks : List (Task τ)}, Acc Advances tasks → ∀ t : Task τ, t.rest = d →
      Acc Advances (t :: tasks) := by
  induction hd with
  | intro d _ ihd =>
    intro tasks htasks
    induction htasks with
    | intro tasks hacc ih =>
      intro t ht
      refine ⟨_, fun tasks' h => ?_⟩
      cases h with
      | ended => exact ⟨tasks, hacc⟩
      | went _ u _ h => exact ihd u.rest (ht ▸ h) ⟨tasks, hacc⟩ u rfl
      | later _ h => exact ih _ h t ht

/-- Tasks do not advance for ever. -/
theorem advances_wf : WellFounded (Advances (τ := τ)) := by
  refine ⟨fun tasks => ?_⟩
  induction tasks with
  | nil => exact ⟨_, fun _ h => by cases h⟩
  | cons t tasks ih => exact acc_cons (Dialogue.remains_wf.apply t.rest) ih t rfl

instance : WellFoundedRelation (List (Task τ)) := ⟨Advances, advances_wf⟩

namespace Server

theorem nextTask_eq {tasks before behind : List (Task τ)} {t : Task τ}
    (h : nextTask tasks = some (before, t, behind)) : tasks = before ++ t :: behind := by
  induction tasks generalizing before with
  | nil => simp [nextTask] at h
  | cons u rest ih =>
    unfold nextTask at h
    split at h
    · simp only [Option.some.injEq, Prod.mk.injEq] at h
      obtain ⟨rfl, rfl, rfl⟩ := h
      rfl
    · rename_i before' v behind' hrest
      split at h <;> simp only [Option.some.injEq, Prod.mk.injEq] at h <;>
        obtain ⟨rfl, rfl, rfl⟩ := h
      · rfl
      · rw [ih hrest]
        rfl

/-- What a dialogue waits with is less than the dialogue. -/
theorem remains_of_converse {α : Type} {d rest : Dialogue α} {wakesAt : Nat} {s : Server τ}
    (h : (s.converse d).1 = .waiting wakesAt rest) : rest.Remains d := by
  induction d with
  | done a => simp [converse] at h
  | ask r next ih =>
    cases r with
    | clock => exact (ih _ h).trans (Dialogue.remains_answer _ next _)
    | aborted runId => exact (ih _ h).trans (Dialogue.remains_answer _ next _)
    | sleep seconds =>
      simp only [converse, Stop.waiting.injEq] at h
      exact h.2 ▸ Dialogue.remains_answer (.sleep seconds) next (.ok ())
    | call c timeout =>
      simp only [converse, Stop.waiting.injEq] at h
      exact h.2 ▸ Dialogue.remains_answer (.call c timeout) next _

variable [ActiveTime τ] [RunningMean τ]

theorem remains_of_takeTurn {s : Server τ} {t u : Task τ} (h : (s.takeTurn t).1 = .inl u) :
    u.rest.Remains t.rest := by
  unfold takeTurn at h
  dsimp only at h
  split at h
  · cases h
  · split at h
    · rename_i hconverse
      cases h
      exact remains_of_converse (congrArg Prod.fst hconverse)
    · cases h

/-- Every turn is progress. -/
theorem advances_of_turn (s : Server τ) (before : List (Task τ)) (t : Task τ)
    (behind : List (Task τ)) :
    Advances (s.turn before t behind).2.tasks (before ++ t :: behind) := by
  unfold turn
  split
  · rename_i u s' h
    exact (Advances.went t u behind (remains_of_takeTurn (congrArg Prod.fst h))).behind before
  · exact (Advances.ended t behind).behind before

/-! ## Many turns -/

/-- Let tasks take turns as long as the next one may, or until an awaited one has ended. -/
def takeTurns (s : Server τ) (may : Task τ → Bool) (awaited : Option Nat) :
    Option (Ending τ) × Server τ :=
  match _next : nextTask s.tasks with
  | none => (none, s)
  | some (before, t, behind) =>
    if may t then
      match _turn : s.turn before t behind with
      | (some ending, s') =>
        if awaited = some t.number then (some ending, s') else s'.takeTurns may awaited
      | (none, s') => s'.takeTurns may awaited
    else (none, s)
termination_by s.tasks
decreasing_by
  all_goals
    have := s.advances_of_turn before t behind
    rw [_turn] at this
    rw [nextTask_eq _next]
    exact this

/-- The server after all turns up to a reading of the clock. -/
def runUntil (s : Server τ) (reading : Nat) : Server τ :=
  (s.takeTurns (fun t => t.wakesAt ≤ reading) none).2

/-- The server after all turns that need no waiting. -/
def settle (s : Server τ) : Server τ := s.runUntil s.elapsed

/-- The server after some time in which the tasks go on. -/
def pass (s : Server τ) (micros : Nat) : Server τ :=
  let reading := s.elapsed + micros
  let s := s.runUntil reading
  { s with elapsed := max s.elapsed reading }

/-- The server after all tasks have ended. -/
def finishAll (s : Server τ) : Server τ := (s.takeTurns (fun _ => true) none).2

/-- Let a task take turns with the others until it has ended. Its first turn comes before all
others. -/
def await (s : Server τ) (t : Task τ) : Ending τ × Server τ :=
  match s.turn [] t s.tasks with
  | (some ending, s) => (ending, s)
  | (none, s) =>
    let (ending, s) := s.takeTurns (fun _ => true) (some t.number)
    (ending.getD (.error .notReady), s)

end Server

end Automation
