import Automation.Proofs.Run.Budget

/-!
# What visits spend their time on

The visit of an action runs its executor: all attempts, with the pauses between them. A pause of the
run itself is waited for between two readings of the clock, and what passes between them is added to
the time in pauses. A visit asks nothing else but the time.
-/

namespace Automation

variable {τ : Type} [ActiveTime τ] {e : Engine} {s s' : RunState τ} {t : List Exchange}

/-- A request that takes time: a call, or waiting. -/
def Request.Lasts : Request → Prop
  | .clock | .aborted _ => False
  | .sleep _ | .call _ _ => True

/-- Exchanges that take no time. -/
def Exchange.Instant (t : List Exchange) : Prop := ∀ x ∈ t, ¬x.request.Lasts

theorem Exchange.Instant.of_clocks (h : ∀ x ∈ t, x.IsClock) : Exchange.Instant t := by
  intro x hx
  rw [h x hx]
  exact id

theorem Exchange.Instant.clock (reading : Nat) : Exchange.Instant [⟨.clock, reading⟩] :=
  .of_clocks (List.forall_mem_singleton.mpr rfl)

theorem Exchange.Instant.append {t' : List Exchange} (h : Exchange.Instant t)
    (h' : Exchange.Instant t') : Exchange.Instant (t ++ t') :=
  List.forall_mem_append.mpr ⟨h, h'⟩

/-! ## Executors -/

/-- The run of an executor: its result, and the number of attempts. -/
abbrev Execution := Dialogue (Except Fault (Entries Value) × Nat)

namespace Engine

/-- The run of the executor at a node in a context, if the node is an action that can be filled in
and carried out. -/
def executionAt (e : Engine) (n : Node) (c : Context) : Option Execution :=
  match n.work with
  | .action a =>
    match resolveConfig a c with
    | .ok (.ok a) =>
      if e.missing.contains a.kind.name then none
      else some (a.perform n.id c e.places e.origin e.retry)
    | _ => none
  | _ => none

/-- The run of the executor in a pass, if the pass visits a node at which there is one. -/
def execution (e : Engine) (p : Pass τ) : Option Execution :=
  match p.errand with
  | .go (some id) locals _ =>
    if p.Starts then
      (p.before.workflow.node? id).bind fun n => e.executionAt n { p.before.context with locals }
    else none
  | _ => none

/-- What a pass asks before the work at its node: what the check asks, and two readings of the
clock, that of the check and that of the visit. -/
def lead (e : Engine) (p : Pass τ) : List Exchange :=
  p.exchanges.take ((e.asked p.before).length + 2)

end Engine

/-! ## Spending -/

/-- How the time of a visit is spent after which the run goes on: with the run of an executor, with
a pause, or with neither. Before and after it stands what the run has spent in pauses. -/
inductive Spends : Option Execution → τ → List Exchange → τ → Prop where
  | idle (paused : τ) {t : List Exchange} (ht : ∀ x ∈ t, x.IsClock) : Spends none paused t paused
  | executed (paused : τ) {x : Execution} {t₁ t₂ : List Exchange}
      {outcome : Except Fault (Entries Value) × Nat} (hx : x.Course t₁ outcome)
      (ht : ∀ x ∈ t₂, x.IsClock) : Spends (some x) paused (t₁ ++ t₂) paused
  | waited (paused : τ) (start finish : Nat) (seconds : Float) {t : List Exchange}
      (ht : ∀ x ∈ t, x.IsClock) :
      Spends none paused
        (⟨.clock, start⟩ :: ⟨.sleep seconds, .ok ()⟩ :: ⟨.clock, finish⟩ :: t)
        (ActiveTime.add paused
          (ActiveTime.sub (ActiveTime.ofMicros finish) (ActiveTime.ofMicros start)))

theorem GoesOn.of_map {α β : Type} {r : Except Halt α} {f : α → β} (h : GoesOn (r.map f)) :
    GoesOn r := by
  cases r with
  | ok a => trivial
  | error halt => cases halt <;> exact h

omit [ActiveTime τ] in
/-- If the run goes on after a visit, the visit has ended with its result and at a reading of the
clock. -/
theorem Visit.EndsWith.goesOn {v : Visit} {o : Outcome} {r : Except Halt Unit}
    (h : v.EndsWith e o s t r s') (hgo : GoesOn r) :
    (∀ x ∈ t, x.IsClock) ∧ s'.paused = s.paused := by
  rcases h with ⟨x, -, rfl, -⟩ | ⟨finished, iteration, rfl, -, -, rfl⟩
  · exact hgo.elim
  · exact ⟨List.forall_mem_singleton.mpr rfl, rfl⟩

theorem Spends.of_endsWith {v : Visit} {o : Outcome} {r : Except Halt Unit}
    (h : v.EndsWith e o s t r s') (hgo : GoesOn r) : Spends none s.paused t s'.paused := by
  obtain ⟨ht, hpaused⟩ := h.goesOn hgo
  rw [hpaused]
  exact .idle _ ht

namespace Engine

variable {v : Visit}

theorem visitAction_spends {a : Action} {r : Except Halt Unit}
    (hn : v.node.work = .action a) (h : (e.visitAction v a).Course s t r s') (hgo : GoesOn r) :
    Spends (e.executionAt v.node { s.context with locals := v.locals }) s.paused t s'.paused := by
  unfold executionAt
  rw [hn]
  dsimp only
  obtain ⟨fault, -, rfl, rfl, rfl⟩ | ⟨issues, hbad, hends⟩ | ⟨a', ha, ⟨hmissing, hends⟩ |
    ⟨hmissing, result, attempts, t₁, t₂, rfl, hperform, hends⟩⟩ := visitAction_cases h
  · exact hgo.elim
  · rw [hbad]
    exact .of_endsWith hends hgo
  · rw [ha]
    dsimp only
    rw [if_pos hmissing]
    exact .of_endsWith hends hgo
  · rw [ha]
    dsimp only
    rw [if_neg (Bool.eq_false_iff.mp hmissing)]
    obtain ⟨ht, hpaused⟩ := hends.goesOn hgo
    rw [hpaused]
    exact .executed _ hperform ht

theorem visitDelay_spends {d : Delay} {top : Bool} {r : Except Halt Unit}
    (h : (e.visitDelay v d top).Course s t r s') (hgo : GoesOn r) :
    Spends none s.paused t s'.paused := by
  unfold visitDelay at h
  dsimp only at h
  split at h
  · split at h
    · obtain ⟨rfl, rfl, rfl⟩ := Walk.course_surprise.mp h
      exact hgo.elim
    · rcases Walk.course_bind.mp h with ⟨halt, rfl, hw⟩ | ⟨⟨⟩, t₁, t₂, s₁, rfl, hw, hthrow⟩
      · exact .of_endsWith (Visit.succeed_endsWith hw) hgo
      · obtain ⟨rfl, rfl, rfl⟩ := Walk.course_throw.mp hthrow
        rw [List.append_nil]
        exact .of_endsWith (Visit.succeed_endsWith hw) trivial
  · split at h
    · exact .of_endsWith (Visit.succeed_endsWith h) hgo
    · rcases Walk.course_bind.mp h with ⟨halt, rfl, hw⟩ | ⟨⟨⟩, t₁, t₂, s₁, rfl, hw, hafter⟩
      · obtain ⟨message, hr, rfl⟩ | ⟨start, finish, hr, -, -⟩ := wait_cases hw
        · cases hr
          exact hgo.elim
        · cases hr
      · obtain ⟨message, hr, -⟩ | ⟨start, finish, -, rfl, rfl⟩ := wait_cases hw
        · cases hr
        · obtain ⟨ht, hpaused⟩ := (Visit.succeed_endsWith hafter).goesOn hgo
          rw [hpaused]
          exact .waited _ start finish _ ht

/-- How the time of a visit is spent, by the kinds of work. -/
theorem visit_spends {n : Node} {locals : Entries Value} {top : Bool}
    {r : Except Halt (List (String × Entries Value))}
    (h : (e.visit n locals top).Course s t r s') (hgo : GoesOn r) :
    ∃ (started : Nat) (t' : _), t = ⟨.clock, started⟩ :: t' ∧
      Spends (e.executionAt n { s.context with locals }) s.paused t' s'.paused := by
  obtain ⟨started, t', rfl, hwork⟩ := Walk.course_clock_bind.mp h
  refine ⟨started, t', rfl, ?_⟩
  cases hn : n.work with
  | action a =>
    simp only [hn] at hwork
    obtain ⟨r₀, rfl, hw⟩ := Walk.course_bind_pure.mp hwork
    exact visitAction_spends (v := ⟨n, locals, started⟩) hn hw hgo.of_map
  | condition b =>
    simp only [hn, bind_pure_comp] at hwork
    obtain ⟨r₁, rfl, hw⟩ := Walk.course_map.mp hwork
    obtain ⟨o, r₀, -, hends, rfl⟩ := visitBranch_endsWith hw
    simp only [executionAt, hn]
    exact .of_endsWith hends hgo.of_map.of_map
  | loop l =>
    simp only [hn, bind_pure_comp] at hwork
    obtain ⟨r₁, rfl, hw⟩ := Walk.course_map.mp hwork
    obtain ⟨o, r₀, -, hends, rfl⟩ := visitLoop_endsWith hw
    simp only [executionAt, hn]
    exact .of_endsWith hends hgo.of_map.of_map
  | delay d =>
    simp only [hn] at hwork
    obtain ⟨r₁, rfl, hw⟩ := Walk.course_bind_pure.mp hwork
    simp only [executionAt, hn]
    exact visitDelay_spends hw hgo.of_map

/-! ## Passes -/

/-- What a pass asks before the work at its node takes no time, and the rest is spent with the work. -/
def SpendsAt (e : Engine) (p : Pass τ) : Prop :=
  ∃ t, p.exchanges = e.lead p ++ t ∧ Exchange.Instant (e.lead p) ∧
    Spends (e.execution p) p.before.paused t p.after.paused

omit [ActiveTime τ] in
theorem asked_instant : Exchange.Instant (e.asked s) := by
  unfold asked
  split
  · exact List.forall_mem_singleton.mpr id
  · exact List.forall_mem_nil _

section Visits

variable {p : Pass τ} {id : String} {n : Node} {locals : Entries Value} {top : Bool}

omit [ActiveTime τ] in
theorem execution_of_starts (herrand : p.errand = .go (some id) locals top)
    (hn : p.before.workflow.node? id = some n) (hstarts : p.Starts) :
    e.execution p = e.executionAt n { p.before.context with locals } := by
  unfold execution
  rw [herrand]
  dsimp only
  rw [if_pos hstarts, hn]
  rfl

omit [ActiveTime τ] in
theorem execution_of_not_starts (h : ¬p.Starts) : e.execution p = none := by
  unfold execution
  split
  · exact if_neg h
  · rfl

omit [ActiveTime τ] in
theorem lead_eq {checked : List Exchange} {x : Exchange}
    (hlength : checked.length = (e.asked p.before).length + 1)
    (h : p.exchanges = checked ++ x :: t) : e.lead p = checked ++ [x] := by
  rw [lead, h, List.append_cons]
  exact List.take_left' (by rw [List.length_append, hlength]; rfl)

theorem spendsAt_visit {t₁ t₂ : List Exchange} {r : Except Halt (List (String × Entries Value))}
    (herrand : p.errand = .go (some id) locals top) (hn : p.before.workflow.node? id = some n)
    (hb : Boundary e p.before t₁ (.ok ()))
    (hv : (e.visit n locals top).Course p.before.counted t₂ r p.after)
    (hexchanges : p.exchanges = t₁ ++ t₂) (hgo : GoesOn r) : e.SpendsAt p := by
  obtain ⟨started, t, rfl, hspends⟩ := visit_spends hv hgo
  rw [SpendsAt, execution_of_starts herrand hn (visit_depth hv).2]
  cases hb with
  | passed reading hs ha =>
    rw [lead_eq List.length_append hexchanges]
    refine ⟨t, by rw [hexchanges, List.append_cons], ?_, hspends⟩
    exact (asked_instant.append (.clock reading)).append (.clock started)

end Visits

/-- A pass after which the run goes on visits a node, or it asks nothing. -/
theorem Does.spends {p : Pass τ} (h : e.Does p) (hgo : GoesOn p.result) : e.SpendsAt p := by
  obtain ⟨errand, before, exchanges, result, after⟩ := p
  change (e.step errand).Course before exchanges result after at h
  have hnothing (p : Pass τ) (hexchanges : p.exchanges = []) (hexecution : e.execution p = none)
      (hpaused : p.after.paused = p.before.paused) : e.SpendsAt p := by
    rw [SpendsAt, lead, hexchanges, hexecution, hpaused]
    exact ⟨[], rfl, List.forall_mem_nil _, .idle _ (List.forall_mem_nil _)⟩
  cases step_cases h with
  | tooDeep | missing => exact hgo.elim
  | stopped locals top hn hb =>
    cases hb with
    | aborted | stepBudget | timeBudget => exact hgo.elim
  | entered | left | ended => exact hnothing _ rfl rfl rfl
  | halted hn hb hv => exact spendsAt_visit rfl hn hb hv rfl (by cases ‹Halt› <;> exact hgo)
  | visited hn hb hv => exact spendsAt_visit rfl hn hb hv rfl trivial

end Engine

end Automation
