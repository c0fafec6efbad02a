import Automation.Proofs.Run.Machine
import Automation.Proofs.Run.Stored

/-!
# Segments

A run is walked in segments: from its start, or from the end of a long pause, to the next long pause
or to the end of the run. What a segment does is what the machine does from its first errand. A
segment begins and ends in settled states, and what it leaves at a long pause can be stored.
-/

namespace Automation

variable {τ : Type} [ActiveTime τ] {e : Engine} {s s' : RunState τ} {t : List Exchange}

/-! ## What passes show -/

namespace Engine

/-- Each result of a state is one of an earlier state, or began at a reading of the clock that is
among some exchanges. -/
def StartedIn (e : Engine) (t : List Exchange) (s s' : RunState τ) : Prop :=
  ∀ step ∈ s'.stepResults, step ∈ s.stepResults ∨
    ∃ reading : Nat, ⟨.clock, reading⟩ ∈ t ∧ step.startedAt = e.stamp reading

omit [ActiveTime τ] in
theorem StartedIn.of_eq (h : s'.stepResults = s.stepResults) : e.StartedIn t s s' := by
  intro step hstep
  rw [h] at hstep
  exact .inl hstep

theorem visit_started {n : Node} {locals : Entries Value} {top : Bool}
    {r : Except Halt (List (String × Entries Value))}
    (h : (e.visit n locals top).Course s t r s') : e.StartedIn t s s' := by
  obtain ⟨started, t', rfl, ⟨x, -, rfl, _, _, rfl⟩ | ⟨o, ⟨_, _, _, _, rfl, _, rfl⟩, _⟩⟩ :=
    visit_cases h
  · exact .of_eq rfl
  · intro step hstep
    rcases List.mem_append.mp hstep with hold | hnew
    · exact .inl hold
    · obtain rfl := List.mem_singleton.mp hnew
      exact .inr ⟨started, List.mem_cons_self, rfl⟩

theorem step_started {errand : Errand} {r : Except Halt (List Errand)}
    (h : (e.step errand).Course s t r s') : e.StartedIn t s s' := by
  cases step_cases h with
  | tooDeep | entered | left | ended | missing | stopped => exact .of_eq rfl
  | halted hn hb hv | visited hn hb hv =>
    intro step hstep
    rcases visit_started hv step hstep with hold | ⟨reading, hreading, hstart⟩
    · exact .inl hold
    · exact .inr ⟨reading, List.mem_append_right _ hreading, hstart⟩

/-- The stamp of a reading of the clock, moved. -/
theorem shift_storable {reading : Nat} {span : Int} {t : Time.Stamp}
    (h : (e.stamp reading).shift span = .ok t) : t.Storable := by
  unfold Time.Stamp.shift Time.Stamp.shift? at h
  split at h
  · rename_i found hfound
    split at hfound
    · rename_i hcalendar
      cases h
      cases hfound
      refine ⟨hcalendar, ?_⟩
      rintro o ⟨⟩
      decide
    · cases hfound
  · cases h

theorem afterDelay_suspended {d : Delay} {next next' : Option String} {top : Bool} {started : Nat}
    {resumeAt : Time.Stamp} (h : e.afterDelay d next top started = .error (.suspended next' resumeAt)) :
    top = true ∧ next' = next ∧ resumeAt.Storable := by
  unfold afterDelay at h
  split at h <;> rename_i hs
  · split at h <;> rename_i hshift
    · cases h
    · cases h
      obtain ⟨span, -, hmoved⟩ := Except.bind_eq_ok.mp hshift
      simp only [Delay.suspends, Bool.and_eq_true] at hs
      exact ⟨hs.1, rfl, shift_storable hmoved⟩
  · cases h

/-- A run is suspended at a pause of the top level, to go on at the node after it. -/
theorem proceed_suspended {n : Node} {c : Context} {top : Bool} {started : Nat}
    {next : Option String} {resumeAt : Time.Stamp}
    (h : e.proceed n c top started = .error (.suspended next resumeAt)) :
    top = true ∧ (∃ d, n.work = .delay d) ∧ next = n.nextAction ∧ resumeAt.Storable := by
  unfold proceed at h
  split at h <;> rename_i hwork
  · cases h
  · cases h
  · cases h
  · rename_i d
    cases hafter : e.afterDelay d n.nextAction top started with
    | ok _ =>
      rw [hafter] at h
      cases h
    | error halt =>
      rw [hafter] at h
      cases h
      obtain ⟨htop, hnext, hresume⟩ := afterDelay_suspended hafter
      exact ⟨htop, ⟨d, hwork⟩, hnext, hresume⟩

theorem step_suspended {errand : Errand} {next : Option String} {resumeAt : Time.Stamp}
    (h : (e.step errand).Course s t (.error (.suspended next resumeAt)) s') :
    resumeAt.Storable ∧ ∃ id locals n d, errand = .go (some id) locals true ∧
      s.workflow.node? id = some n ∧ n.work = .delay d ∧ next = n.nextAction := by
  cases step_cases h with
  | stopped locals top hn hb => cases hb
  | halted hn hb hv =>
    -- A surprise or a failure is another halt, so the pause itself has suspended the run.
    obtain ⟨started, t', rfl, ⟨x, -, hr, _⟩ | ⟨o, _, _, hr, _⟩⟩ := visit_cases hv
    · cases hr
    · rcases o.verdict_cases _ with hverdict | ⟨message, hverdict⟩ <;> rw [hverdict] at hr
      · obtain ⟨rfl, ⟨d, hwork⟩, hnext, hresume⟩ := proceed_suspended hr.symm
        exact ⟨hresume, _, _, _, d, rfl, hn, hwork, hnext⟩
      · cases hr

namespace Passes

variable {errands : List Errand} {log : List (Pass τ)} {r : Except Halt Unit} {p : Pass τ}
  {halt : Halt}

theorem mem (h : e.Passes errands s log r s') (hp : p ∈ log) : e.Does p ∧ s.Continues p.before := by
  induction h with
  | done s => cases hp
  | halted rest hdoes hr =>
    obtain rfl := List.mem_singleton.mp hp
    exact ⟨hdoes, .refl _⟩
  | passed hdoes hr h ih =>
    rcases List.mem_cons.mp hp with rfl | hrest
    · exact ⟨hdoes, .refl _⟩
    · obtain ⟨hpdoes, hafter⟩ := ih hrest
      exact ⟨hpdoes, (step_continues hdoes).trans hafter⟩

/-- Passes end in a halt because the last of them does. -/
theorem halted_by (h : e.Passes errands s log (.error halt) s') :
    ∃ pre p, log = pre ++ [p] ∧ e.Does p ∧ s.Continues p.before ∧ p.result = .error halt ∧
      p.after = s' := by
  generalize herr : Except.error halt = r₀ at h
  induction h with
  | done s => cases herr
  | halted rest hdoes hr =>
    cases herr
    exact ⟨[], _, rfl, hdoes, .refl _, hr, rfl⟩
  | passed hdoes hr h ih =>
    obtain ⟨pre, p, rfl, hp, hcontinues, hhalt, hafter⟩ := ih herr
    exact ⟨_ :: pre, p, rfl, hp, (step_continues hdoes).trans hcontinues, hhalt, hafter⟩

theorem started (h : e.Passes errands s log r s') : e.StartedIn (Pass.talk log) s s' := by
  induction h with
  | done s => exact .of_eq rfl
  | halted rest hdoes hr =>
    intro step hstep
    rcases step_started hdoes step hstep with hold | ⟨reading, hreading, hstart⟩
    · exact .inl hold
    · exact .inr ⟨reading, List.mem_append_left _ hreading, hstart⟩
  | passed hdoes hr h ih =>
    intro step hstep
    rcases ih step hstep with hmid | ⟨reading, hreading, hstart⟩
    · rcases step_started hdoes step hmid with hold | ⟨reading, hreading, hstart⟩
      · exact .inl hold
      · exact .inr ⟨reading, List.mem_append_left _ hreading, hstart⟩
    · exact .inr ⟨reading, List.mem_append_right _ hreading, hstart⟩

end Passes

/-! ## The walk of a segment -/

/-- The walk of a segment can go from a state and a node through some exchanges. -/
def Walks (e : Engine) (s : RunState τ) (start : Option String) (t : List Exchange)
    (r : Except Halt Unit) (s' : RunState τ) : Prop :=
  (e.walk (e.fuel s.stepsVisited) start s.context.locals true).Course s t r s'

/-- All readings of the clock show moments that the calendar has. -/
def OnCalendar (e : Engine) (t : List Exchange) : Prop :=
  ∀ reading : Nat, ⟨.clock, reading⟩ ∈ t → Time.Stamp.InCalendar (e.stamp reading).wall

theorem OnCalendar.left {t₁ t₂ : List Exchange} (h : e.OnCalendar (t₁ ++ t₂)) : e.OnCalendar t₁ :=
  fun reading hreading => h reading (List.mem_append_left t₂ hreading)

theorem OnCalendar.right {t₁ t₂ : List Exchange} (h : e.OnCalendar (t₁ ++ t₂)) :
    e.OnCalendar t₂ :=
  fun reading hreading => h reading (List.mem_append_right t₁ hreading)

theorem OnCalendar.tail {x : Exchange} (h : e.OnCalendar (x :: t)) : e.OnCalendar t :=
  fun reading hreading => h reading (List.mem_cons_of_mem x hreading)

/-- A world whose clock stands at a moment of the calendar answers within it. -/
theorem OnCalendar.of_world {world : (r : Request) → r.Answer} {reading : Nat}
    (hclock : world .clock = reading) (hreading : Time.Stamp.InCalendar (e.stamp reading).wall)
    (ht : ∀ x ∈ t, x.answer = world x.request) : e.OnCalendar t := by
  intro reading' hmem
  obtain rfl : reading' = reading := (ht _ hmem).trans hclock
  exact hreading

end Engine

/-- A state in which a segment begins or ends. -/
structure RunState.Settled (s : RunState τ) : Prop extends s.Storable where
  locals : s.context.locals = []
  offset : s.startedAt.offset = some 0

/-- What is restored from a settled state is settled. -/
theorem RunState.Settled.revive (hs : s.Settled) (suspended woken : Nat) :
    (s.revive suspended woken).Settled :=
  ⟨⟨hs.workflow, hs.event, hs.regular, hs.startedAt, hs.steps⟩, rfl, hs.offset⟩

namespace Engine

variable {start : Option String} {r : Except Halt Unit}

theorem stamp_storable {reading : Nat} (h : Time.Stamp.InCalendar (e.stamp reading).wall) :
    (e.stamp reading).Storable := by
  refine ⟨h, ?_⟩
  rintro o ⟨⟩
  decide

/-- The walk of a segment is one of the machine. -/
theorem walks_passes (h : e.Walks s start t r s') :
    ∃ log s'', e.Passes [.go start s.context.locals true] s log r s'' ∧ Pass.talk log = t ∧
      s' = { s'' with depth := s.depth } := by
  have hfuel : e.maxSteps ≤ s.stepsVisited + e.fuel s.stepsVisited := by
    unfold fuel
    omega
  obtain ⟨log, s'', hp, htalk, hs', -⟩ := walk_simulates hfuel h
  exact ⟨log, s'', hp, htalk, hs'⟩

namespace Passes

variable {errands : List Errand} {log : List (Pass τ)}

/-- What begins in a settled state ends in one. -/
theorem settled (h : e.Passes errands s log r s') (hs : s.Settled)
    (ht : e.OnCalendar (Pass.talk log)) : s'.Settled := by
  have hstarted := h.started
  obtain ⟨outputs, steps, visited, paused, depth, _, rfl⟩ := h.continues
  refine ⟨⟨hs.workflow, hs.event, hs.regular, hs.startedAt, fun step hstep => ?_⟩, hs.locals,
    hs.offset⟩
  rcases hstarted step hstep with hold | ⟨reading, hreading, hstart⟩
  · exact hs.steps step hold
  · rw [hstart]
    exact stamp_storable (ht reading hreading)

/-- A run is suspended by one of the passes, at a pause, to go on at the node after it and at a
moment that the calendar has. -/
theorem suspended {next : Option String} {resumeAt : Time.Stamp}
    (h : e.Passes errands s log (.error (.suspended next resumeAt)) s') :
    resumeAt.Storable ∧ ∃ id n, s.workflow.node? id = some n ∧ next = n.nextAction := by
  obtain ⟨pre, p, -, hdoes, hcontinues, hr, -⟩ := h.halted_by
  unfold Does at hdoes
  rw [hr] at hdoes
  obtain ⟨hresume, id, locals, n, d, _, hn, _, hnext⟩ := step_suspended hdoes
  rw [hcontinues.workflow] at hn
  exact ⟨hresume, id, n, hn, hnext⟩

end Passes

/-- A segment that begins in a settled state ends in one. -/
theorem walks_settled (h : e.Walks s start t r s') (hs : s.Settled) (ht : e.OnCalendar t) :
    s'.Settled := by
  obtain ⟨log, s'', hp, rfl, rfl⟩ := walks_passes h
  obtain ⟨⟨hworkflow, hevent, hregular, hstart, hsteps⟩, hlocals, hoffset⟩ := hp.settled hs ht
  exact ⟨⟨hworkflow, hevent, hregular, hstart, hsteps⟩, hlocals, hoffset⟩

theorem walks_suspended {next : Option String} {resumeAt : Time.Stamp}
    (h : e.Walks s start t (.error (.suspended next resumeAt)) s') : resumeAt.Storable := by
  obtain ⟨log, s'', hp, rfl, rfl⟩ := walks_passes h
  exact hp.suspended.1

end Engine

end Automation
