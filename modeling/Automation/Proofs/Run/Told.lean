import Automation.Proofs.Run.Check
import Automation.Proofs.Run.Suspension

/-!
# What is told of a run

A segment of a run is told as a success or a failure, and then the run is over; or it is told as
suspended, and then what is left of it goes on with the same run of the same definition
(`Engine.Pursues.tells`). A segment that starts from what can be stored has a result, and what it
leaves can be stored again (`Engine.Sound.told`).
-/

namespace Automation

variable {τ : Type} [ActiveTime τ] {e : Engine} {s s' : RunState τ} {t : List Exchange}

namespace Engine

variable {runId : String} {d : Definition} {start : Option String}
  {result : Except Escape (RunResult τ)} {dialogue : Dialogue (Except Escape (RunResult τ))}

/-! ## Suspensions -/

omit [ActiveTime τ] in
/-- Only an engine that suspends runs suspends one. -/
theorem proceed_suspends {n : Node} {c : Context} {top : Bool} {started : Nat}
    {next : Option String} {resumeAt : Time.Stamp}
    (h : e.proceed n c top started = .error (.suspended next resumeAt)) :
    e.suspendFrom.isSome = true := by
  have hafter : ∀ d : Delay, (∃ r, e.afterDelay d n.nextAction top started = r ∧
      ∀ x, r ≠ .ok x) → e.suspendFrom.isSome = true := by
    rintro d ⟨r, hr, hne⟩
    unfold afterDelay Delay.suspends at hr
    split at hr
    · rename_i hs
      simp only [Bool.and_eq_true, Option.any_eq_true] at hs
      obtain ⟨-, least, hleast, -⟩ := hs
      rw [hleast]
      rfl
    · exact absurd hr.symm (hne ())
  unfold proceed at h
  split at h
  · cases h
  · cases h
  · cases h
  · rename_i d _
    cases hdelay : e.afterDelay d n.nextAction top started with
    | ok _ =>
      rw [hdelay] at h
      cases h
    | error halt => exact hafter d ⟨_, hdelay, nofun⟩

theorem step_suspends {errand : Errand} {next : Option String} {resumeAt : Time.Stamp}
    (h : (e.step errand).Course s t (.error (.suspended next resumeAt)) s') :
    e.suspendFrom.isSome = true := by
  cases step_cases h with
  | stopped locals top hn hb => cases hb
  | halted hn hb hv =>
    obtain ⟨started, t', rfl, ⟨x, -, hr, _⟩ | ⟨o, _, _, hr, _⟩⟩ := visit_cases hv
    · cases hr
    · rcases o.verdict_cases _ with hverdict | ⟨message, hverdict⟩ <;> rw [hverdict] at hr
      · exact proceed_suspends hr.symm
      · cases hr

theorem walks_suspends {next : Option String} {resumeAt : Time.Stamp}
    (h : e.Walks s start t (.error (.suspended next resumeAt)) s') :
    e.suspendFrom.isSome = true := by
  obtain ⟨log, s'', hp, -, -⟩ := walks_passes h
  obtain ⟨pre, p, -, hdoes, -, hr, -⟩ := hp.halted_by
  unfold Does at hdoes
  rw [hr] at hdoes
  exact step_suspends hdoes

/-- A walk goes on with the same run of the same definition. -/
theorem walks_keeps {r : Except Halt Unit} (h : e.Walks s start t r s') :
    s'.runId = s.runId ∧ s'.workflow = s.workflow := by
  obtain ⟨log, s'', hp, -, rfl⟩ := walks_passes h
  obtain ⟨_, _, _, _, _, _, rfl⟩ := hp.continues
  exact ⟨rfl, rfl⟩

/-! ## Segments -/

/-- What is told of a segment of a run of a definition. -/
structure Tells (e : Engine) (runId : String) (d : Definition) (told : RunResult τ) : Prop where
  id : told.runId = runId
  /-- The run is over, or the rest of it is left. -/
  ends : ((told.status = .success ∨ told.status = .failed) ∧ told.continuation = none) ∨
    told.status = .suspended ∧ e.suspendFrom.isSome = true ∧ ∃ c, told.continuation = some c ∧
      c.runId = runId ∧ Value.object c.workflow = d.wire

theorem Goes.tells {held : Option (Held τ)} {told : RunResult τ}
    (h : e.Goes s start t (.ok told) held) : e.Tells s.runId s.workflow told := by
  cases h with
  | finished hw hc =>
    obtain ⟨hrun, -⟩ := walks_keeps hw
    obtain ⟨hid, hstatus, -, hcont⟩ := (finish_course hc).2 told rfl
    exact ⟨hid.trans hrun, .inl ⟨.inl hstatus, hcont⟩⟩
  | failed hw hne hc =>
    obtain ⟨hrun, -⟩ := walks_keeps hw
    obtain ⟨hid, hstatus, -, hcont⟩ := (finish_course hc).2 told rfl
    exact ⟨hid.trans hrun, .inl ⟨.inr hstatus, hcont⟩⟩
  | suspended held hw hc =>
    obtain ⟨hrun, hworkflow⟩ := walks_keeps hw
    obtain ⟨hid, hstatus, -, hcont⟩ := (finish_course hc).2 told rfl
    refine ⟨hid.trans hrun, .inr ⟨hstatus, walks_suspends hw, _, hcont, hrun, ?_⟩⟩
    rw [← hworkflow]
    rfl

/-- A dialogue carries out a run of a definition: from its start, or since it was suspended. -/
inductive Pursues (e : Engine) (runId : String) (d : Definition) :
    Dialogue (Except Escape (RunResult τ)) → Prop where
  | run (event : Event) : Pursues e runId d (e.run d event runId)
  | resume (c : Continuation τ) (hid : c.runId = runId)
      (hread : Definition.codec.read (Value.object c.workflow) = .ok d) :
      Pursues e runId d (e.resume c)

omit [ActiveTime τ] in
/-- A run that is never walked is told as a failure. -/
theorem finish_tells {workflowId error : Option String} {startedAt : Time.Stamp}
    {told : RunResult τ}
    (h : (e.finish runId workflowId startedAt [] .failed error none).Course t (.ok told)) :
    e.Tells runId d told := by
  obtain ⟨hid, hstatus, -, hcont⟩ := (finish_course h).2 told rfl
  exact ⟨hid, .inl ⟨.inr hstatus, hcont⟩⟩

theorem restore_workflow {c : Continuation τ} {reading : Nat} (h : restore c reading = .ok s)
    (hread : Definition.codec.read (Value.object c.workflow) = .ok d) : s.workflow = d := by
  obtain ⟨workflow, hworkflow, h⟩ := Except.bind_eq_ok.mp h
  obtain ⟨context, -, h⟩ := Except.bind_eq_ok.mp h
  obtain ⟨steps, -, h⟩ := Except.bind_eq_ok.mp h
  obtain rfl := Except.ok.inj h
  rw [hread] at hworkflow
  exact (Except.ok.inj hworkflow).symm

/-- Whatever is told of a run that is carried out. -/
theorem Pursues.tells {told : RunResult τ} (h : e.Pursues runId d dialogue)
    (hc : dialogue.Course t (.ok told)) : e.Tells runId d told := by
  cases h with
  | run event =>
    obtain ⟨reading, t', rfl, hrest⟩ := Dialogue.course_ask.mp hc
    dsimp only at hrest
    split at hrest
    · obtain ⟨-, h⟩ := Dialogue.course_done.mp hrest
      cases h
    · obtain ⟨held, hgoes⟩ := execute_course.mp hrest
      exact hgoes.tells
    · exact finish_tells hrest
  | resume c hid hread =>
    subst hid
    unfold Engine.resume at hc
    obtain ⟨reading, t₁, t₂, rfl, -, hrest⟩ := Dialogue.course_bind.mp hc
    split at hrest
    · rename_i s hrestore
      obtain ⟨held, hgoes⟩ := execute_course.mp hrest
      have htells := hgoes.tells
      rwa [restore_runId hrestore, restore_workflow hrestore hread] at htells
    · obtain ⟨-, h⟩ := Dialogue.course_done.mp hrest
      cases h
    · split at hrest
      · obtain ⟨-, h⟩ := Dialogue.course_done.mp hrest
        cases h
      · exact finish_tells hrest

/-! ## Segments that can be stored -/

/-- A run of a definition, as it is left by a segment. -/
structure Leaves (runId : String) (d : Definition) (c : Continuation τ) (held : Held τ) : Prop where
  settled : held.state.Settled
  id : held.state.runId = runId
  workflow : held.state.workflow = d
  continuation : c = held.continuation

/-- A dialogue carries out a run that can be stored: from its start, or since it was suspended. -/
inductive Sound (e : Engine) (runId : String) (d : Definition) :
    Dialogue (Except Escape (RunResult τ)) → Prop where
  | run (event : Event) (hd : d.WellFormed) (hvalid : d.Valid) (hevent : event.Storable) :
      Sound e runId d (e.run d event runId)
  | resume (c : Continuation τ) (held : Held τ) (h : Leaves runId d c held) :
      Sound e runId d (e.resume c)

/-- What is left of a run is read as it was written. -/
theorem Leaves.read {c : Continuation τ} {held : Held τ} (h : Leaves runId d c held) :
    c.runId = runId ∧ Definition.codec.read (Value.object c.workflow) = .ok d ∧
      ∃ event, Schema.Codec.read Event.codec (Value.object c.event) = .ok event := by
  obtain ⟨hsettled, rfl, rfl, rfl⟩ := h
  have hworkflow : Value.object held.continuation.workflow = held.state.workflow.wire := rfl
  have hevent : Value.object held.continuation.event
      = Event.codec.write .full held.state.context.event := rfl
  rw [hworkflow, hevent]
  exact ⟨rfl, (Definition.codec_restores hsettled.workflow).read, held.state.context.event,
    (Event.codec_restores hsettled.event).read⟩

/-- A segment that begins in a settled state has a result, and what it leaves can go on. -/
theorem Goes.leaves {held : Option (Held τ)} (h : e.Goes s start t result held) (hs : s.Settled)
    (ht : e.OnCalendar t) : ∃ told, result = .ok told ∧ ∀ c ∈ told.continuation,
      ∃ held : Held τ, Leaves s.runId s.workflow c held := by
  obtain ⟨⟨told, rfl, hcont⟩, hheld⟩ := h.told hs ht
  refine ⟨told, rfl, fun c hc => ?_⟩
  rw [hcont] at hc
  obtain ⟨held, rfl, rfl⟩ := Option.map_eq_some_iff.mp hc
  cases h with
  | suspended held hw hclose =>
    obtain ⟨hrun, hworkflow⟩ := walks_keeps hw
    exact ⟨held, (hheld held rfl).1, hrun, hworkflow, rfl⟩

/-- A segment of a run that can be stored has a result, as long as the clock shows moments that the
calendar has, and what it leaves can be stored too. -/
theorem Sound.told (h : e.Sound runId d dialogue) (hc : dialogue.Course t result)
    (ht : e.OnCalendar t) : ∃ told, result = .ok told ∧ ∀ c ∈ told.continuation,
      ∃ held : Held τ, Leaves runId d c held := by
  cases h with
  | run event hd hvalid hevent =>
    obtain ⟨entry, hentry⟩ := hvalid.sound.exists_entry
    rw [run_valid hvalid hentry] at hc
    obtain ⟨reading, t', rfl, hrest⟩ := Dialogue.course_ask.mp hc
    obtain ⟨held, hgoes⟩ := execute_course.mp hrest
    exact hgoes.leaves (opening_settled hd hevent (ht reading List.mem_cons_self)) ht.tail
  | resume c held h =>
    obtain ⟨hsettled, rfl, rfl, rfl⟩ := h
    rw [resume_continuation hsettled] at hc
    obtain ⟨reading, t', rfl, hrest⟩ := Dialogue.course_ask.mp hc
    obtain ⟨held', hgoes⟩ := execute_course.mp hrest
    exact hgoes.leaves (hsettled.revive held.suspended reading) ht.tail

end Engine

end Automation
