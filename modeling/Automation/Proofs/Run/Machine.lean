import Automation.Proofs.Run.Visit

/-!
# The machine

The walk of a run calls itself for the walks inside it. The machine does the same work one step
after another: it keeps a list of what is still to do, takes the first errand from it and puts new
ones in its place. Every course of the walk is one of the machine (`Engine.walk_simulates`), so what
holds of a run can be shown for one step and carried along the steps.
-/

namespace Automation

variable {τ : Type} {e : Engine} {s s' : RunState τ} {t : List Exchange}

/-! ## Between two nodes -/

namespace Engine

section Boundary

variable [ActiveTime τ]

/-- What is asked before a node if the answer is not to stop. -/
def asked (e : Engine) (s : RunState τ) : List Exchange :=
  if e.watchesAborts then [⟨.aborted s.runId, false⟩] else []

/-- How the check between two nodes can go. -/
inductive Boundary (e : Engine) (s : RunState τ) : List Exchange → Except Halt Unit → Prop where
  | aborted (hw : e.watchesAborts = true) :
      Boundary e s [⟨.aborted s.runId, true⟩] (.error (.aborted s.runId))
  | stepBudget (hs : e.maxSteps ≤ s.stepsVisited) :
      Boundary e s (e.asked s) (.error (.stepBudget e.maxSteps))
  | timeBudget (reading : Nat) (hs : s.stepsVisited < e.maxSteps)
      (ha : ActiveTime.exceeds (s.active reading) e.maxActive = true) :
      Boundary e s (e.asked s ++ [⟨.clock, reading⟩]) (.error (.timeBudget e.maxActive))
  | passed (reading : Nat) (hs : s.stepsVisited < e.maxSteps)
      (ha : ActiveTime.exceeds (s.active reading) e.maxActive = false) :
      Boundary e s (e.asked s ++ [⟨.clock, reading⟩]) (.ok ())

/-- The check of the budgets, which comes after the question whether to stop. -/
def checkBudgets (e : Engine) (s : RunState τ) : Walk τ Unit := do
  if e.maxSteps ≤ s.stepsVisited then throw (.stepBudget e.maxSteps)
  let reading ← Walk.clock
  if ActiveTime.exceeds (s.active reading) e.maxActive then throw (.timeBudget e.maxActive)

theorem checkBoundary_eq (e : Engine) : (e.checkBoundary : Walk τ Unit) = (do
    let s ← get
    if e.watchesAborts then
      let stop : Bool ← Walk.request (.aborted s.runId)
      if stop then throw (.aborted s.runId)
    e.checkBudgets s) :=
  rfl

/-- The budgets are looked at in order, and the clock is only read if there are steps left. -/
theorem checkBudgets_iff {r : Except Halt Unit} :
    (e.checkBudgets s).Course s t r s' ↔ s' = s ∧
      ((e.maxSteps ≤ s.stepsVisited ∧ t = [] ∧ r = .error (.stepBudget e.maxSteps)) ∨
        ∃ reading : Nat, s.stepsVisited < e.maxSteps ∧ t = [⟨.clock, reading⟩] ∧
          ((ActiveTime.exceeds (s.active reading) e.maxActive = true ∧
              r = .error (.timeBudget e.maxActive)) ∨
            (ActiveTime.exceeds (s.active reading) e.maxActive = false ∧ r = .ok ()))) := by
  unfold checkBudgets
  constructor
  · intro h
    split at h <;> rename_i hs
    · obtain ⟨rfl, rfl, rfl⟩ := Walk.course_throw.mp h
      exact ⟨rfl, .inl ⟨hs, rfl, rfl⟩⟩
    · obtain ⟨reading, t', rfl, hr⟩ := Walk.course_clock_bind.mp h
      split at hr <;> rename_i ha
      · obtain ⟨rfl, rfl, rfl⟩ := Walk.course_throw.mp hr
        exact ⟨rfl, .inr ⟨reading, by omega, rfl, .inl ⟨ha, rfl⟩⟩⟩
      · obtain ⟨rfl, rfl, rfl⟩ := Walk.course_pure.mp hr
        exact ⟨rfl, .inr ⟨reading, by omega, rfl, .inr ⟨by simpa using ha, rfl⟩⟩⟩
  · rintro ⟨rfl, ⟨hs, rfl, rfl⟩ | ⟨reading, hs, rfl, hrest⟩⟩
    · rw [if_pos hs]
      exact Walk.course_throw.mpr ⟨rfl, rfl, rfl⟩
    · rw [if_neg (by omega)]
      refine Walk.course_clock_bind.mpr ⟨reading, [], rfl, ?_⟩
      rcases hrest with ⟨ha, rfl⟩ | ⟨ha, rfl⟩
      · rw [if_pos ha]
        exact Walk.course_throw.mpr ⟨rfl, rfl, rfl⟩
      · rw [if_neg (by simp [ha])]
        exact Walk.course_pure.mpr ⟨rfl, rfl, rfl⟩

theorem Boundary.of_budgets {r : Except Halt Unit} (h : (e.checkBudgets s).Course s t r s') :
    s' = s ∧ Boundary e s (e.asked s ++ t) r := by
  obtain ⟨rfl, ⟨hs, rfl, rfl⟩ | ⟨reading, hs, rfl, ⟨ha, rfl⟩ | ⟨ha, rfl⟩⟩⟩ := checkBudgets_iff.mp h
  · rw [List.append_nil]
    exact ⟨rfl, .stepBudget hs⟩
  · exact ⟨rfl, .timeBudget reading hs ha⟩
  · exact ⟨rfl, .passed reading hs ha⟩

/-- A check that is not answered with a stop goes on as the check of the budgets. -/
theorem Boundary.budgets {r : Except Halt Unit} (h : Boundary e s t r) :
    (e.watchesAborts = true ∧ t = [⟨.aborted s.runId, true⟩] ∧ r = .error (.aborted s.runId)) ∨
      ∃ t', t = e.asked s ++ t' ∧ (e.checkBudgets s).Course s t' r s := by
  cases h with
  | aborted hw => exact .inl ⟨hw, rfl, rfl⟩
  | stepBudget hs =>
    exact .inr ⟨[], (List.append_nil _).symm,
      checkBudgets_iff.mpr ⟨rfl, .inl ⟨hs, rfl, rfl⟩⟩⟩
  | timeBudget reading hs ha =>
    exact .inr ⟨_, rfl, checkBudgets_iff.mpr ⟨rfl, .inr ⟨reading, hs, rfl, .inl ⟨ha, rfl⟩⟩⟩⟩
  | passed reading hs ha =>
    exact .inr ⟨_, rfl, checkBudgets_iff.mpr ⟨rfl, .inr ⟨reading, hs, rfl, .inr ⟨ha, rfl⟩⟩⟩⟩

/-- The check between two nodes changes nothing, and it goes in one of these ways. -/
theorem checkBoundary_iff {r : Except Halt Unit} :
    (e.checkBoundary).Course s t r s' ↔ s' = s ∧ Boundary e s t r := by
  rw [checkBoundary_eq, Walk.course_get_bind]
  by_cases hw : e.watchesAborts = true
  · rw [if_pos hw]
    constructor
    · intro h
      obtain ⟨stop, t', rfl, hanswered⟩ := Walk.course_request_bind.mp h
      cases stop with
      | true =>
        obtain ⟨rfl, rfl, rfl⟩ := Walk.course_throw.mp hanswered
        exact ⟨rfl, .aborted hw⟩
      | false =>
        obtain ⟨rfl, hb⟩ := Boundary.of_budgets hanswered
        rw [asked, if_pos hw] at hb
        exact ⟨rfl, hb⟩
    · rintro ⟨rfl, hb⟩
      rcases hb.budgets with ⟨_, rfl, rfl⟩ | ⟨t', rfl, hbudgets⟩
      · exact Walk.course_request_bind.mpr
          ⟨true, [], rfl, Walk.course_throw.mpr ⟨rfl, rfl, rfl⟩⟩
      · rw [asked, if_pos hw]
        exact Walk.course_request_bind.mpr ⟨false, t', rfl, hbudgets⟩
  · rw [if_neg hw]
    constructor
    · intro h
      obtain ⟨rfl, hb⟩ := Boundary.of_budgets h
      rw [asked, if_neg hw] at hb
      exact ⟨rfl, hb⟩
    · rintro ⟨rfl, hb⟩
      rcases hb.budgets with ⟨hw', _⟩ | ⟨t', rfl, hbudgets⟩
      · exact absurd hw' hw
      · rw [asked, if_neg hw]
        exact hbudgets

end Boundary

end Engine

/-! ## Errands -/

/-- What a run still has to do. -/
inductive Errand where
  /-- Begin a walk inside the walk. -/
  | enter (target : String) (locals : Entries Value)
  /-- Come back from a walk inside the walk. -/
  | leave
  /-- Walk on from a node, if there is one. -/
  | go (next : Option String) (locals : Entries Value) (top : Bool)
deriving DecidableEq

/-- The state with one more node visited. -/
def RunState.counted (s : RunState τ) : RunState τ := { s with stepsVisited := s.stepsVisited + 1 }

namespace Engine

variable [ActiveTime τ]

/-- What is to do after a node: the walks inside it, and then the walk from the next node. -/
def errandsAfter (n : Node) (locals : Entries Value) (top : Bool)
    (inner : List (String × Entries Value)) : List Errand :=
  inner.map (fun (target, locals) => .enter target locals) ++ [.go n.nextAction locals top]

/-- Do one errand, and give what is to do after it. -/
def step (e : Engine) : Errand → Walk τ (List Errand)
  | .enter target locals => do
    if e.maxDepth ≤ (← get).depth then throw (.depthBudget e.maxDepth)
    modify fun s => { s with depth := s.depth + 1 }
    return [.go (some target) locals false, .leave]
  | .leave => do
    modify fun s => { s with depth := s.depth - 1 }
    return []
  | .go none _ _ => return []
  | .go (some id) locals top => do
    match (← get).workflow.node? id with
    | none => Walk.surprise (.noNode id)
    | some n =>
      checkBoundary e
      modify RunState.counted
      return errandsAfter n locals top (← e.visit n locals top)

/-- What one errand can do from a state, and all that it can do. A visit either halts the run or says
where it walks on. -/
inductive Steps (e : Engine) (s : RunState τ) :
    Errand → List Exchange → Except Halt (List Errand) → RunState τ → Prop where
  | tooDeep (target : String) (locals : Entries Value) (hd : e.maxDepth ≤ s.depth) :
      Steps e s (.enter target locals) [] (.error (.depthBudget e.maxDepth)) s
  | entered (target : String) (locals : Entries Value) (hd : s.depth < e.maxDepth) :
      Steps e s (.enter target locals) [] (.ok [.go (some target) locals false, .leave])
        { s with depth := s.depth + 1 }
  | left : Steps e s .leave [] (.ok []) { s with depth := s.depth - 1 }
  | ended (locals : Entries Value) (top : Bool) : Steps e s (.go none locals top) [] (.ok []) s
  | missing {id : String} (locals : Entries Value) (top : Bool)
      (hn : s.workflow.node? id = none) :
      Steps e s (.go (some id) locals top) [] (.error (.surprise (.noNode id))) s
  | stopped {id : String} {n : Node} {t : List Exchange} {halt : Halt} (locals : Entries Value)
      (top : Bool) (hn : s.workflow.node? id = some n) (hb : Boundary e s t (.error halt)) :
      Steps e s (.go (some id) locals top) t (.error halt) s
  | halted {id : String} {n : Node} {locals : Entries Value} {top : Bool} {t₁ t₂ : List Exchange}
      {halt : Halt} {s' : RunState τ} (hn : s.workflow.node? id = some n)
      (hb : Boundary e s t₁ (.ok ()))
      (hv : (e.visit n locals top).Course s.counted t₂ (.error halt) s') :
      Steps e s (.go (some id) locals top) (t₁ ++ t₂) (.error halt) s'
  | visited {id : String} {n : Node} {locals : Entries Value} {top : Bool} {t₁ t₂ : List Exchange}
      {inner : List (String × Entries Value)} {s' : RunState τ}
      (hn : s.workflow.node? id = some n) (hb : Boundary e s t₁ (.ok ()))
      (hv : (e.visit n locals top).Course s.counted t₂ (.ok inner) s') :
      Steps e s (.go (some id) locals top) (t₁ ++ t₂) (.ok (errandsAfter n locals top inner)) s'

theorem step_cases {errand : Errand} {r : Except Halt (List Errand)}
    (h : (e.step errand).Course s t r s') : e.Steps s errand t r s' := by
  cases errand with
  | enter target locals =>
    unfold step at h
    rw [Walk.course_get_bind] at h
    split at h <;> rename_i hd
    · obtain ⟨rfl, rfl, rfl⟩ := Walk.course_throw.mp h
      exact .tooDeep target locals hd
    · dsimp only at h
      rw [Walk.course_modify_bind] at h
      obtain ⟨rfl, rfl, rfl⟩ := Walk.course_pure.mp h
      exact .entered target locals (by omega)
  | leave =>
    have hleft : t = [] ∧ r = .ok [] ∧ s' = { s with depth := s.depth - 1 } :=
      Walk.course_pure.mp (Walk.course_modify_bind.mp h)
    obtain ⟨rfl, rfl, rfl⟩ := hleft
    exact .left
  | go next locals top =>
    cases next with
    | none =>
      obtain ⟨rfl, rfl, rfl⟩ := Walk.course_pure.mp h
      exact .ended locals top
    | some id =>
      unfold step at h
      rw [Walk.course_get_bind] at h
      split at h <;> rename_i hn
      · obtain ⟨rfl, rfl, rfl⟩ := Walk.course_surprise.mp h
        exact .missing locals top hn
      · rcases Walk.course_bind.mp h with ⟨halt, rfl, hb⟩ | ⟨⟨⟩, t₁, t₂, s₁, rfl, hb, hv⟩
        · obtain ⟨rfl, hb⟩ := checkBoundary_iff.mp hb
          exact .stopped locals top hn hb
        · -- The count of visits goes up between the check and the visit.
          obtain ⟨rfl, hb⟩ := checkBoundary_iff.mp hb
          rw [Walk.course_modify_bind, bind_pure_comp] at hv
          obtain ⟨halt | inner, rfl, hvisit⟩ := Walk.course_map.mp hv
          · exact .halted hn hb hvisit
          · exact .visited hn hb hvisit

theorem Steps.course {errand : Errand} {r : Except Halt (List Errand)}
    (h : e.Steps s errand t r s') : (e.step errand).Course s t r s' := by
  unfold step
  cases h with
  | tooDeep target locals hd =>
    rw [Walk.course_get_bind, if_pos hd]
    exact Walk.course_throw.mpr ⟨rfl, rfl, rfl⟩
  | entered target locals hd =>
    rw [Walk.course_get_bind, if_neg (by omega)]
    exact Walk.course_pure.mpr ⟨rfl, rfl, rfl⟩
  | left => exact Walk.course_modify_bind.mpr (Walk.course_pure.mpr ⟨rfl, rfl, rfl⟩)
  | ended locals top => exact Walk.course_pure.mpr ⟨rfl, rfl, rfl⟩
  | missing locals top hn =>
    rw [Walk.course_get_bind, hn]
    exact Walk.course_surprise.mpr ⟨rfl, rfl, rfl⟩
  | stopped locals top hn hb =>
    rw [Walk.course_get_bind, hn]
    exact Walk.course_bind.mpr (.inl ⟨_, rfl, checkBoundary_iff.mpr ⟨rfl, hb⟩⟩)
  | halted hn hb hv | visited hn hb hv =>
    rw [Walk.course_get_bind, hn]
    refine Walk.Course.bind (checkBoundary_iff.mpr ⟨rfl, hb⟩) ?_
    rw [Walk.course_modify_bind, bind_pure_comp]
    exact Walk.course_map.mpr ⟨_, rfl, hv⟩

end Engine

/-! ## What stays -/

/-- A state that can come later in a segment of a run: who runs what on which event stays, results
are added at the end, and the count of visits does not go back. -/
def RunState.Continues (s s' : RunState τ) : Prop :=
  ∃ outputs steps visited paused depth, s.stepsVisited ≤ visited ∧
    s' = { s with
      context := { s.context with outputs }, stepResults := s.stepResults ++ steps
      stepsVisited := visited, paused, depth }

namespace RunState.Continues

theorem refl (s : RunState τ) : s.Continues s :=
  ⟨s.context.outputs, [], s.stepsVisited, s.paused, s.depth, Int.le_refl _, by simp⟩

theorem trans {s₁ s₂ s₃ : RunState τ} (h : s₁.Continues s₂) (h' : s₂.Continues s₃) :
    s₁.Continues s₃ := by
  obtain ⟨_, steps, visited, _, _, hv, rfl⟩ := h
  obtain ⟨outputs, steps', visited', paused, depth, hv', rfl⟩ := h'
  exact ⟨outputs, steps ++ steps', visited', paused, depth, Int.le_trans hv hv', by simp⟩

theorem steps (h : s.Continues s') : s.stepResults <+: s'.stepResults := by
  obtain ⟨_, steps, _, _, _, _, rfl⟩ := h
  exact List.prefix_append _ _

theorem workflow (h : s.Continues s') : s'.workflow = s.workflow := by
  obtain ⟨_, _, _, _, _, _, rfl⟩ := h
  rfl

theorem odd (h : s.Continues s') : s'.context.odd = s.context.odd := by
  obtain ⟨_, _, _, _, _, _, rfl⟩ := h
  rfl

theorem counted (s : RunState τ) : s.Continues s.counted :=
  ⟨s.context.outputs, [], s.stepsVisited + 1, s.paused, s.depth, by omega, by
    simp [RunState.counted]⟩

theorem of_unrecorded (h : s.Unrecorded s') : s.Continues s' := by
  obtain ⟨outputs, paused, rfl⟩ := h
  exact ⟨outputs, [], s.stepsVisited, paused, s.depth, Int.le_refl _, by simp⟩

theorem of_leaves {v : Visit} {o : Outcome} (h : v.Leaves e o s t s') : s.Continues s' := by
  obtain ⟨t₁, iteration, finished, paused, rfl, hv, rfl⟩ := h
  refine ⟨(o.keep v.node.id s.context).outputs, [v.result e o iteration finished], s.stepsVisited,
    paused, s.depth, Int.le_refl _, ?_⟩
  unfold Visit.leave Outcome.keep
  split <;> rfl

end RunState.Continues

section Steps

variable [ActiveTime τ]

theorem Engine.visit_continues {n : Node} {locals : Entries Value} {top : Bool}
    {r : Except Halt (List (String × Entries Value))}
    (h : (e.visit n locals top).Course s t r s') : s.Continues s' := by
  obtain ⟨started, t', rfl, ⟨x, -, rfl, hs⟩ | ⟨o, hl, _⟩⟩ := visit_cases h
  · exact .of_unrecorded hs
  · exact .of_leaves hl

theorem Engine.visit_depth {n : Node} {locals : Entries Value} {top : Bool}
    {r : Except Halt (List (String × Entries Value))}
    (h : (e.visit n locals top).Course s t r s') :
    s'.depth = s.depth ∧ s'.stepsVisited = s.stepsVisited := by
  obtain ⟨started, t', rfl, ⟨x, -, rfl, _, _, rfl⟩ | ⟨o, ⟨_, _, _, _, rfl, _, rfl⟩, _⟩⟩ :=
    visit_cases h
  · exact ⟨rfl, rfl⟩
  · exact ⟨rfl, rfl⟩

theorem Engine.step_go_depth {id : String} {locals : Entries Value} {top : Bool}
    {r : Except Halt (List Errand)} (h : (e.step (.go (some id) locals top)).Course s t r s') :
    s'.depth = s.depth := by
  cases step_cases h with
  | missing hn | stopped hn hb => rfl
  | halted hn hb hv | visited hn hb hv => exact (visit_depth hv).1

theorem Engine.step_go_visited {id : String} {locals : Entries Value} {top : Bool}
    {more : List Errand} (h : (e.step (.go (some id) locals top)).Course s t (.ok more) s') :
    s'.stepsVisited = s.stepsVisited + 1 := by
  cases step_cases h with
  | visited hn hb hv => exact (visit_depth hv).2

theorem Engine.step_continues {errand : Errand} {r : Except Halt (List Errand)}
    (h : (e.step errand).Course s t r s') : s.Continues s' := by
  cases step_cases h with
  | tooDeep | ended | missing | stopped => exact .refl s
  | entered =>
    exact ⟨s.context.outputs, [], s.stepsVisited, s.paused, s.depth + 1, Int.le_refl _, by simp⟩
  | left =>
    exact ⟨s.context.outputs, [], s.stepsVisited, s.paused, s.depth - 1, Int.le_refl _, by simp⟩
  | halted hn hb hv | visited hn hb hv =>
    exact (RunState.Continues.counted s).trans (visit_continues hv)

end Steps

/-! ## Passes -/

/-- One errand done: in which state, through which exchanges, and with what result. -/
structure Pass (τ : Type) where
  errand : Errand
  before : RunState τ
  exchanges : List Exchange
  result : Except Halt (List Errand)
  after : RunState τ

/-- The exchanges of some passes, in order. -/
def Pass.talk (log : List (Pass τ)) : List Exchange := log.flatMap (·.exchanges)

namespace Engine

variable [ActiveTime τ]

/-- A pass can happen. -/
def Does (e : Engine) (p : Pass τ) : Prop :=
  (e.step p.errand).Course p.before p.exchanges p.result p.after

/-- The machine can do errands from a state by some passes, and end with a result in a state. -/
inductive Passes (e : Engine) :
    List Errand → RunState τ → List (Pass τ) → Except Halt Unit → RunState τ → Prop where
  | done (s : RunState τ) : Passes e [] s [] (.ok ()) s
  | halted {p : Pass τ} {halt : Halt} (rest : List Errand) (hp : e.Does p)
      (hr : p.result = .error halt) :
      Passes e (p.errand :: rest) p.before [p] (.error halt) p.after
  | passed {p : Pass τ} {more rest : List Errand} {log : List (Pass τ)} {r : Except Halt Unit}
      {s' : RunState τ} (hp : e.Does p) (hr : p.result = .ok more)
      (h : Passes e (more ++ rest) p.after log r s') :
      Passes e (p.errand :: rest) p.before (p :: log) r s'

namespace Passes

variable {errands rest : List Errand} {log log' : List (Pass τ)} {r : Except Halt Unit}
  {s₁ : RunState τ} {halt : Halt}

theorem continues (h : e.Passes errands s log r s') : s.Continues s' := by
  induction h with
  | done s => exact .refl s
  | halted rest hp hr => exact step_continues hp
  | passed hp hr h ih => exact (step_continues hp).trans ih

/-- The first pass does the first errand. It ends the run, or the machine goes on with what it
leaves to do. -/
theorem cons_cases {errand : Errand} (h : e.Passes (errand :: rest) s log r s') :
    ∃ p log', log = p :: log' ∧ p.errand = errand ∧ p.before = s ∧ e.Does p ∧
      ((∃ halt, p.result = .error halt ∧ log' = [] ∧ r = .error halt ∧ s' = p.after) ∨
        ∃ more, p.result = .ok more ∧ e.Passes (more ++ rest) p.after log' r s') := by
  cases h with
  | @halted p halt _ hp hr => exact ⟨p, [], rfl, rfl, rfl, hp, .inl ⟨halt, hr, rfl, rfl, rfl⟩⟩
  | @passed p more _ log' _ _ hp hr hrest =>
    exact ⟨p, log', rfl, rfl, rfl, hp, .inr ⟨more, hr, hrest⟩⟩

theorem append (h : e.Passes errands s log (.ok ()) s₁) (h' : e.Passes rest s₁ log' r s') :
    e.Passes (errands ++ rest) s (log ++ log') r s' := by
  generalize hok : Except.ok () = r₀ at h
  induction h with
  | done s => exact h'
  | halted rest hp hr => cases hok
  | passed hp hr h ih =>
    -- What the pass leaves to do stands before the rest, and that before the errands after it.
    subst hok
    rw [List.cons_append, List.cons_append]
    refine .passed hp hr ?_
    rw [← List.append_assoc]
    exact ih h' rfl

theorem append_halted (h : e.Passes errands s log (.error halt) s') (rest : List Errand) :
    e.Passes (errands ++ rest) s log (.error halt) s' := by
  generalize herr : Except.error halt = r₀ at h
  induction h with
  | done s => cases herr
  | halted rest' hp hr =>
    cases herr
    exact .halted (rest' ++ rest) hp hr
  | passed hp hr h ih =>
    subst herr
    rw [List.cons_append]
    refine .passed hp hr ?_
    rw [← List.append_assoc]
    exact ih rfl

end Passes

/-- Do errands in a world that answers each request in its own way, by so many passes at most. -/
def play (e : Engine) (world : (r : Request) → r.Answer) :
    Nat → List Errand → RunState τ → Option (List (Pass τ) × Except Halt Unit × RunState τ)
  | _, [], s => some ([], .ok (), s)
  | 0, _ :: _, _ => none
  | count + 1, errand :: rest, s =>
    let (t, r, s') := Dialogue.answered world ((e.step errand).run s)
    match r with
    | .error halt => some ([⟨errand, s, t, .error halt, s'⟩], .error halt, s')
    | .ok more => do
      let (log, r, s'') ← e.play world count (more ++ rest) s'
      return (⟨errand, s, t, .ok more, s'⟩ :: log, r, s'')

/-- What is played can happen, and every request is answered as the world does. -/
theorem play_passes {world : (r : Request) → r.Answer} {count : Nat} {errands : List Errand}
    {log : List (Pass τ)} {r : Except Halt Unit}
    (h : e.play world count errands s = some (log, r, s')) :
    e.Passes errands s log r s' ∧ ∀ x ∈ Pass.talk log, x.answer = world x.request := by
  induction count generalizing errands s log r with
  | zero =>
    cases errands with
    | nil =>
      cases h
      exact ⟨.done _, List.forall_mem_nil _⟩
    | cons errand rest => cases h
  | succ count ih =>
    cases errands with
    | nil =>
      cases h
      exact ⟨.done _, List.forall_mem_nil _⟩
    | cons errand rest =>
      have hcourse := Dialogue.course_answered world ((e.step errand).run s)
      have hanswers : ∀ x ∈ (Dialogue.answered world ((e.step errand).run s)).1,
          x.answer = world x.request := fun x hx => Dialogue.answered_mem hx
      simp only [play] at h
      generalize Dialogue.answered world ((e.step errand).run s) = course at h hcourse hanswers
      obtain ⟨t, first, s₁⟩ := course
      cases first with
      | error halt =>
        cases h
        refine ⟨.halted (p := ⟨errand, s, t, .error halt, s₁⟩) rest hcourse rfl, ?_⟩
        simpa [Pass.talk] using hanswers
      | ok more =>
        obtain ⟨⟨log, r, s''⟩, hrest, hlog⟩ := Option.bind_eq_some_iff.mp h
        cases hlog
        obtain ⟨hpasses, htalk⟩ := ih hrest
        refine ⟨.passed (p := ⟨errand, s, t, .ok more, s₁⟩) hcourse rfl hpasses, ?_⟩
        intro x hx
        rcases List.mem_append.mp hx with hx | hx
        · exact hanswers x hx
        · exact htalk x hx

/-! ## Every walk is one of the machine -/

/-- The machine can do errands as a walk does: through the same exchanges, to the same result and
the same state. A walk that halts comes back through the walks around it, the machine does not. -/
def Simulates (e : Engine) (errands : List Errand) (s : RunState τ) (t : List Exchange)
    (r : Except Halt Unit) (s' : RunState τ) : Prop :=
  ∃ log s'', e.Passes errands s log r s'' ∧ Pass.talk log = t ∧
    s' = { s'' with depth := s.depth } ∧ (r = .ok () → s''.depth = s.depth)

namespace Simulates

variable {errands rest : List Errand} {t₁ t₂ : List Exchange} {r : Except Halt Unit}
  {s₁ : RunState τ} {halt : Halt}

theorem append (h : e.Simulates errands s t₁ (.ok ()) s₁) (h' : e.Simulates rest s₁ t₂ r s') :
    e.Simulates (errands ++ rest) s (t₁ ++ t₂) r s' := by
  obtain ⟨log, s₂, hp, rfl, rfl, hd⟩ := h
  obtain ⟨log', s₃, hp', rfl, rfl, hd'⟩ := h'
  have hs₂ : { s₂ with depth := s.depth } = s₂ := by rw [← hd rfl]
  rw [hs₂] at hp'
  exact ⟨log ++ log', s₃, hp.append hp', List.flatMap_append, rfl, hd'⟩

theorem append_halted (h : e.Simulates errands s t (.error halt) s') (rest : List Errand) :
    e.Simulates (errands ++ rest) s t (.error halt) s' := by
  obtain ⟨log, s₁, hp, rfl, rfl, _⟩ := h
  exact ⟨log, s₁, hp.append_halted rest, rfl, rfl, nofun⟩

theorem visited_le (h : e.Simulates errands s t r s') : s.stepsVisited ≤ s'.stepsVisited := by
  obtain ⟨log, s₁, hp, rfl, rfl, _⟩ := h
  obtain ⟨_, _, visited, _, _, hv, rfl⟩ := hp.continues
  exact hv

/-- A first step that halts. -/
theorem halted {errand : Errand} (h : (e.step errand).Course s t (.error halt) s')
    (hdepth : s'.depth = s.depth) : e.Simulates [errand] s t (.error halt) s' := by
  let p : Pass τ := ⟨errand, s, t, .error halt, s'⟩
  exact ⟨[p], s', .halted (p := p) [] h rfl, List.append_nil t, by rw [← hdepth], nofun⟩

/-- A first step, and then the rest. -/
theorem step {errand : Errand} {more : List Errand} (h : (e.step errand).Course s t₁ (.ok more) s₁)
    (hdepth : s₁.depth = s.depth) (h' : e.Simulates (more ++ rest) s₁ t₂ r s') :
    e.Simulates (errand :: rest) s (t₁ ++ t₂) r s' := by
  obtain ⟨log, s₂, hp, rfl, rfl, hd⟩ := h'
  let p : Pass τ := ⟨errand, s, t₁, .ok more, s₁⟩
  exact ⟨p :: log, s₂, .passed (p := p) h rfl hp, rfl, by rw [hdepth],
    fun hr => (hd hr).trans hdepth⟩

end Simulates

section Walks

variable {fuel : Nat} {r : Except Halt Unit}

/-- A walk inside the walk. -/
theorem nested_simulates {target : String} {locals : Entries Value}
    (hwalk : ∀ {s s' : RunState τ} {t r}, e.maxSteps ≤ s.stepsVisited + fuel →
      (e.walk fuel (some target) locals false).Course s t r s' →
      e.Simulates [.go (some target) locals false] s t r s')
    (hfuel : e.maxSteps ≤ s.stepsVisited + fuel)
    (h : (e.walkNested (e.walk fuel (some target) locals false)).Course s t r s') :
    e.Simulates [.enter target locals] s t r s' := by
  unfold walkNested at h
  rw [Walk.course_get_bind] at h
  split at h <;> rename_i hd
  · obtain ⟨rfl, rfl, rfl⟩ := Walk.course_throw.mp h
    exact .halted (Steps.tooDeep target locals hd).course rfl
  · obtain ⟨s₁, rfl, hw⟩ := Walk.course_nested.mp h
    obtain ⟨log, s₂, hp, rfl, rfl, hs₂⟩ := hwalk (by exact hfuel) hw
    let enter : Pass τ := ⟨.enter target locals, s, [], .ok [.go (some target) locals false, .leave],
      { s with depth := s.depth + 1 }⟩
    have henter : e.Does enter := (Steps.entered (s := s) target locals (by omega)).course
    cases r with
    | error halt =>
      -- The machine stops inside; only the walk still counts its depth down on the way out.
      exact ⟨enter :: log, s₂, .passed henter rfl (hp.append_halted [.leave]), rfl, by simp, nofun⟩
    | ok _ =>
      let leave : Pass τ := ⟨.leave, s₂, [], .ok [], { s₂ with depth := s₂.depth - 1 }⟩
      have hleave : e.Passes [.leave] s₂ [leave] (.ok ()) { s₂ with depth := s₂.depth - 1 } :=
        .passed (p := leave) Steps.left.course rfl (.done _)
      refine ⟨enter :: (log ++ [leave]), _, .passed henter rfl (hp.append hleave), ?_, ?_, ?_⟩
      · simp [Pass.talk, enter, leave]
      · simp
      · simp [hs₂]

/-- The walks inside a node, one after another. -/
theorem inner_simulates {inner : List (String × Entries Value)}
    (hwalk : ∀ {s s' : RunState τ} {t r next locals top}, e.maxSteps ≤ s.stepsVisited + fuel →
      (e.walk fuel next locals top).Course s t r s' →
      e.Simulates [.go next locals top] s t r s')
    (hfuel : e.maxSteps ≤ s.stepsVisited + fuel)
    (h : Walk.Course (inner.forM fun (target, locals) =>
      e.walkNested (e.walk fuel (some target) locals false)) s t r s') :
    e.Simulates (inner.map fun (target, locals) => .enter target locals) s t r s' := by
  induction inner generalizing s t with
  | nil =>
    obtain ⟨rfl, rfl, rfl⟩ := Walk.course_pure.mp h
    exact ⟨[], s', .done s', rfl, rfl, fun _ => rfl⟩
  | cons entry inner ih =>
    obtain ⟨target, locals⟩ := entry
    rw [List.map_cons, ← List.singleton_append]
    rcases Walk.course_bind.mp h with ⟨halt, rfl, hw⟩ | ⟨⟨⟩, t₁, t₂, s₁, rfl, hw, hrest⟩
    · exact (nested_simulates hwalk hfuel hw).append_halted _
    · have hfirst := nested_simulates hwalk hfuel hw
      have hvisited := hfirst.visited_le
      exact hfirst.append (ih (by omega) hrest)

theorem walk_none_cases {locals : Entries Value} {top : Bool}
    (h : (e.walk fuel none locals top).Course s t r s') : t = [] ∧ r = .ok () ∧ s' = s := by
  cases fuel <;> exact Walk.course_pure.mp h

/-- A walk at a node begins with the step of the machine. Then it walks inside the node, and on from
the next one. -/
theorem walk_some_cases {id : String} {locals : Entries Value} {top : Bool}
    (h : (e.walk fuel (some id) locals top).Course s t r s') :
    (∃ halt, r = .error halt ∧ (e.step (.go (some id) locals top)).Course s t (.error halt) s') ∨
      (fuel = 0 ∧ s.stepsVisited < e.maxSteps ∧ s' = s.counted) ∨
      ∃ fuel' n inner t₁ t₂ s₁, fuel = fuel' + 1 ∧ t = t₁ ++ t₂ ∧
        (e.step (.go (some id) locals top)).Course s t₁ (.ok (errandsAfter n locals top inner)) s₁ ∧
        Walk.Course (do
          inner.forM fun (target, locals) => e.walkNested (e.walk fuel' (some target) locals false)
          e.walk fuel' n.nextAction locals top) s₁ t₂ r s' := by
  unfold walk at h
  unfold step
  rw [Walk.course_get_bind] at h
  simp only [Walk.course_get_bind]
  cases hn : s.workflow.node? id with
  | none =>
    rw [hn] at h
    obtain ⟨rfl, rfl, rfl⟩ := Walk.course_surprise.mp h
    exact .inl ⟨_, rfl, Walk.course_surprise.mpr ⟨rfl, rfl, rfl⟩⟩
  | some n =>
    rw [hn] at h
    rcases Walk.course_bind.mp h with ⟨halt, rfl, hb⟩ | ⟨⟨⟩, t₁, t₂, s₁, rfl, hb, hrest⟩
    · exact .inl ⟨halt, rfl, Walk.course_bind.mpr (.inl ⟨halt, rfl, hb⟩)⟩
    · cases fuel with
      | zero =>
        -- Without fuel the walk breaks off after a check that has passed.
        obtain ⟨rfl, hb⟩ := checkBoundary_iff.mp hb
        obtain ⟨rfl, rfl, rfl⟩ := Walk.course_throw.mp (Walk.course_modify_bind.mp hrest)
        cases hb with
        | passed reading hs ha => exact .inr (.inl ⟨rfl, hs, rfl⟩)
      | succ fuel' =>
        rw [Walk.course_modify_bind] at hrest
        rcases Walk.course_bind.mp hrest with ⟨halt, rfl, hv⟩ | ⟨inner, t₃, t₄, s₂, rfl, hv, hafter⟩
        · refine .inl ⟨halt, rfl, hb.bind ?_⟩
          rw [Walk.course_modify_bind, bind_pure_comp]
          exact Walk.course_map.mpr ⟨.error halt, rfl, hv⟩
        · refine .inr (.inr ⟨fuel', n, inner, t₁ ++ t₃, t₄, s₂, rfl, ?_, hb.bind ?_, hafter⟩)
          · rw [List.append_assoc]
          · rw [Walk.course_modify_bind, bind_pure_comp]
            exact Walk.course_map.mpr ⟨.ok inner, rfl, hv⟩

/-- The induction is on the fuel. It never runs out at a visit: the check before the visit has seen
that there are steps left. -/
theorem walk_simulates {next : Option String} {locals : Entries Value} {top : Bool}
    (hfuel : e.maxSteps ≤ s.stepsVisited + fuel)
    (h : (e.walk fuel next locals top).Course s t r s') :
    e.Simulates [.go next locals top] s t r s' := by
  induction fuel using Nat.strongRecOn generalizing s s' t r next locals top with
  | ind fuel ih =>
  cases next with
  | none =>
    obtain ⟨rfl, rfl, rfl⟩ := walk_none_cases h
    have hfirst : (e.step (.go none locals top)).Course s' [] (.ok []) s' :=
      Walk.course_pure.mpr ⟨rfl, rfl, rfl⟩
    have hrest : e.Simulates ([] ++ []) s' [] (.ok ()) s' :=
      ⟨[], s', .done s', rfl, rfl, fun _ => rfl⟩
    exact hrest.step hfirst rfl
  | some id =>
    rcases walk_some_cases h with ⟨halt, rfl, hstep⟩ | ⟨rfl, hs, -⟩ |
      ⟨fuel, n, inner, t₁, t₂, s₁, rfl, rfl, hstep, hrest⟩
    · exact .halted hstep (step_go_depth hstep)
    · omega
    · -- The visit is counted, so the walks inside and the walk after it do with one less fuel.
      have hvisited := step_go_visited hstep
      refine .step hstep (step_go_depth hstep) ?_
      rw [List.append_nil]
      rcases Walk.course_bind.mp hrest with ⟨halt, rfl, hinner⟩ |
        ⟨⟨⟩, t₃, t₄, s₂, rfl, hinner, hnext⟩
      · exact (inner_simulates (ih fuel (by omega)) (by omega) hinner).append_halted _
      · have hsim := inner_simulates (ih fuel (by omega)) (by omega) hinner
        have hle := hsim.visited_le
        exact hsim.append (ih fuel (by omega) (by omega) hnext)

end Walks

end Engine

end Automation
