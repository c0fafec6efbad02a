import Automation.Proofs.Run.Suspension
import Mathlib.Data.List.Basic

/-!
# Checks for abort requests

Before each node a run that can be aborted looks for an abort request. A node starts only if the
answer is no, and after a yes the run is over: it asks nothing but the clock, and it has failed.
-/

namespace Automation

variable {τ : Type} [ActiveTime τ] {e : Engine} {s s' : RunState τ} {t : List Exchange}

/-! ## Checks of passes -/

/-- A pass starts a node: there is one more visit. -/
def Pass.Starts (p : Pass τ) : Prop := p.after.stepsVisited = p.before.stepsVisited + 1

/-- An exchange of nothing but the time. -/
def Exchange.IsClock (x : Exchange) : Prop := x.request = .clock

omit [ActiveTime τ] in
theorem Exchange.check_not_mem {x : String} {seen : Bool} (h : ∀ x ∈ t, x.IsClock) :
    ⟨.aborted x, seen⟩ ∉ t := fun hmem => by cases h _ hmem

namespace Engine

/-- What is checked before a node is whether the run itself was aborted. Nothing is asked before that,
and after a yes nothing at all. -/
theorem Boundary.check_cases {r : Except Halt Unit} (h : Boundary e s t r) :
    (∀ x ∈ t, x.IsClock) ∨ ∃ seen v, t = ⟨.aborted s.runId, seen⟩ :: v ∧ (∀ x ∈ v, x.IsClock) ∧
      (seen = true → v = [] ∧ r = .error (.aborted s.runId)) := by
  have hasked : e.asked s = [] ∨ e.asked s = [⟨.aborted s.runId, false⟩] := by
    unfold asked
    split <;> simp
  cases h with
  | aborted hw => exact .inr ⟨true, [], rfl, List.forall_mem_nil _, fun _ => ⟨rfl, rfl⟩⟩
  | stepBudget hs =>
    rcases hasked with h | h <;> rw [h]
    · exact .inl (List.forall_mem_nil _)
    · exact .inr ⟨false, [], rfl, List.forall_mem_nil _, nofun⟩
  | timeBudget reading hs ha | passed reading hs ha =>
    rcases hasked with h | h <;> rw [h]
    · exact .inl (List.forall_mem_singleton.mpr rfl)
    · exact .inr ⟨false, [⟨.clock, reading⟩], rfl, List.forall_mem_singleton.mpr rfl, nofun⟩

/-- A pass checks at most once, before all else. A yes ends it, and after a no it starts a node or
halts for want of a budget, which it finds out by the clock. -/
theorem Does.check_cases {p : Pass τ} (h : e.Does p) :
    (∀ x seen, ⟨.aborted x, seen⟩ ∉ p.exchanges) ∨
      ∃ seen v, p.exchanges = ⟨.aborted p.before.runId, seen⟩ :: v ∧
        (∀ x seen', ⟨.aborted x, seen'⟩ ∉ v) ∧
        (seen = true → v = [] ∧ p.result = .error (.aborted p.before.runId)) ∧
        (p.Starts ∨ (∀ x ∈ v, x.IsClock) ∧ ∃ halt, p.result = .error halt) := by
  obtain ⟨errand, before, exchanges, result, after⟩ := p
  change (e.step errand).Course before exchanges result after at h
  dsimp only
  cases step_cases h with
  | tooDeep | entered | left | ended | missing => exact .inl fun _ _ => List.not_mem_nil
  | @stopped _ _ _ halt locals top hn hb =>
    rcases hb.check_cases with hclocks | ⟨seen, v, rfl, hclocks, hyes⟩
    · exact .inl fun _ _ => Exchange.check_not_mem hclocks
    · refine .inr ⟨seen, v, rfl, fun _ _ => Exchange.check_not_mem hclocks, fun hseen => ?_,
        .inr ⟨hclocks, halt, rfl⟩⟩
      obtain ⟨hv, hr⟩ := hyes hseen
      exact ⟨hv, by cases hr; rfl⟩
  | @halted _ _ _ _ t₁ t₂ _ _ hn hb hv | @visited _ _ _ _ t₁ t₂ _ _ hn hb hv =>
    -- The visit after the check asks what its work asks, and that is never a check.
    have hvisit (x : String) (seen : Bool) : ⟨.aborted x, seen⟩ ∉ t₂ :=
      fun hmem => visit_asks hv _ hmem
    rcases hb.check_cases with hclocks | ⟨seen, v, rfl, hclocks, hyes⟩
    · refine .inl fun x seen hmem => ?_
      exact (List.mem_append.mp hmem).elim (Exchange.check_not_mem hclocks) (hvisit x seen)
    · refine .inr ⟨seen, v ++ t₂, rfl, fun x seen' hmem => ?_, fun hseen => ?_,
        .inl (visit_depth hv).2⟩
      · exact (List.mem_append.mp hmem).elim (Exchange.check_not_mem hclocks) (hvisit x seen')
      · cases (hyes hseen).2

theorem Does.aborted_mem {p : Pass τ} {x : String} {seen : Bool} (h : e.Does p)
    (hx : ⟨.aborted x, seen⟩ ∈ p.exchanges) :
    x = p.before.runId ∧ (seen = true →
      p.exchanges = [⟨.aborted x, true⟩] ∧ p.result = .error (.aborted x)) := by
  rcases h.check_cases with hno | ⟨seen', v, hall, hno, hyes, -⟩
  · exact absurd hx (hno x seen)
  · rw [hall] at hx
    rcases List.mem_cons.mp hx with hx | hx
    · cases hx
      refine ⟨rfl, ?_⟩
      rintro rfl
      obtain ⟨rfl, hr⟩ := hyes rfl
      exact ⟨hall, hr⟩
    · exact absurd hx (hno x seen)

/-- The check before a node that starts has been answered with no. -/
theorem Does.starts {p : Pass τ} (h : e.Does p) (hw : e.watchesAborts = true) (hp : p.Starts) :
    p.exchanges.take 1 = [⟨.aborted p.before.runId, false⟩] := by
  obtain ⟨errand, before, exchanges, result, after⟩ := p
  change (e.step errand).Course before exchanges result after at h
  change after.stepsVisited = before.stepsVisited + 1 at hp
  cases step_cases h with
  | tooDeep | entered | left | ended | missing | stopped => simp at hp
  | halted hn hb hv | visited hn hb hv =>
    cases hb with
    | passed reading hs ha => simp [asked, hw]

namespace Passes

variable {errands : List Errand} {pre post : List (Pass τ)} {p : Pass τ} {r : Except Halt Unit}

/-- The passes before another did not halt, and none comes after one that did. -/
theorem split (h : e.Passes errands s (pre ++ p :: post) r s') :
    e.Does p ∧ s.Continues p.before ∧ (∀ q ∈ pre, e.Does q ∧ ∃ more, q.result = .ok more) ∧
      ∀ halt, p.result = .error halt → post = [] ∧ r = .error halt := by
  induction pre generalizing errands s with
  | nil =>
    cases h with
    | halted rest hp hr =>
      refine ⟨hp, .refl _, List.forall_mem_nil _, fun halt hhalt => ⟨rfl, ?_⟩⟩
      rw [hr] at hhalt
      exact congrArg Except.error (Except.error.inj hhalt)
    | passed hp hr h =>
      refine ⟨hp, .refl _, List.forall_mem_nil _, fun halt hhalt => ?_⟩
      rw [hr] at hhalt
      cases hhalt
  | cons q pre ih =>
    generalize hlog : q :: pre ++ p :: post = log at h
    cases h with
    | done s => cases hlog
    | halted rest hq hr => simp at hlog
    | passed hq hr h =>
      obtain ⟨rfl, rfl⟩ := List.cons.inj hlog
      obtain ⟨hp, hcontinues, hpre, hlast⟩ := ih h
      exact ⟨hp, (step_continues hq).trans hcontinues,
        List.forall_mem_cons.mpr ⟨⟨hq, _, hr⟩, hpre⟩, hlast⟩

end Passes

end Engine

/-! ## Places of exchanges -/

section Places

variable {x : Exchange} {before after : List Exchange}

omit [ActiveTime τ] in
/-- What is not among the first exchanges comes behind them. -/
theorem Exchange.behind {first rest : List Exchange} (h : first ++ rest = before ++ x :: after)
    (hx : x ∉ first) : ∃ before', before = first ++ before' ∧ rest = before' ++ x :: after := by
  rcases List.append_eq_append_iff.mp h with ⟨between, hbefore, hrest⟩ | ⟨between, hfirst, hrest⟩
  · exact ⟨between, hbefore, hrest⟩
  · cases between with
    | nil => exact ⟨[], by simpa using hfirst.symm, hrest.symm⟩
    | cons y between =>
      obtain ⟨rfl, -⟩ := List.cons.inj hrest
      exact absurd (by simp [hfirst]) hx

omit [ActiveTime τ] in
/-- What is not among the last exchanges comes ahead of them. -/
theorem Exchange.ahead {first rest : List Exchange} (h : first ++ rest = before ++ x :: after)
    (hx : x ∉ rest) : ∃ after', first = before ++ x :: after' ∧ after = after' ++ rest := by
  rcases List.append_eq_append_iff.mp h with ⟨between, -, hrest⟩ | ⟨between, hfirst, hrest⟩
  · exact absurd (by simp [hrest]) hx
  · cases between with
    | nil =>
      obtain rfl : x :: after = rest := hrest
      exact absurd List.mem_cons_self hx
    | cons y between =>
      obtain ⟨rfl, hafter⟩ := List.cons.inj hrest
      exact ⟨between, hfirst, hafter⟩

omit [ActiveTime τ] in
/-- What some passes ask, one of them asks. -/
theorem Pass.talk_split {log : List (Pass τ)} (h : Pass.talk log = before ++ x :: after) :
    ∃ pre p post u v, log = pre ++ p :: post ∧ p.exchanges = u ++ x :: v ∧
      before = Pass.talk pre ++ u ∧ after = v ++ Pass.talk post := by
  induction log generalizing before with
  | nil => simp [talk] at h
  | cons q log ih =>
    change q.exchanges ++ Pass.talk log = _ at h
    rcases List.append_eq_append_iff.mp h with ⟨before, rfl, hrest⟩ | ⟨between, hq, hrest⟩
    · obtain ⟨pre, p, post, u, v, rfl, hp, rfl, rfl⟩ := ih hrest
      exact ⟨q :: pre, p, post, u, v, rfl, hp, (List.append_assoc ..).symm, rfl⟩
    · cases between with
      | nil =>
        -- It comes right after the exchanges of this pass, so it is the first of a later one.
        have htalk : Pass.talk log = [] ++ x :: after := hrest.symm
        obtain ⟨pre, p, post, u, v, rfl, hp, hnil, rfl⟩ := ih htalk
        refine ⟨q :: pre, p, post, u, v, rfl, hp, ?_, rfl⟩
        change before = q.exchanges ++ Pass.talk pre ++ u
        rw [List.append_assoc, ← hnil, hq, List.append_nil, List.append_nil]
      | cons y between =>
        obtain ⟨rfl, rfl⟩ := List.cons.inj hrest
        exact ⟨[], q, log, before, between, rfl, hq, rfl, rfl⟩

end Places

/-! ## Runs as dialogues -/

namespace Engine

variable {runId : String} {dialogue : Dialogue (Except Escape (RunResult τ))}
  {result : Except Escape (RunResult τ)} {opening closing : List Exchange} {log : List (Pass τ)}

/-- A dialogue that carries out a run, from its start or after a suspension. -/
inductive Carries (e : Engine) (runId : String) :
    Dialogue (Except Escape (RunResult τ)) → Prop where
  | run (d : Definition) (event : Event) : Carries e runId (e.run d event runId)
  | resume (c : Continuation τ) (hc : c.runId = runId) : Carries e runId (e.resume c)

/-- Exchanges of a run, split into those of a walk and those before and after it, which only tell
the time. The walk may be missing. -/
structure Splits (e : Engine) (runId : String) (t opening : List Exchange) (log : List (Pass τ))
    (closing : List Exchange) : Prop where
  exchanges : t = opening ++ Pass.talk log ++ closing
  opening : ∀ x ∈ opening, x.IsClock
  closing : ∀ x ∈ closing, x.IsClock
  walked : log = [] ∨ ∃ errands s r s', e.Passes errands s log r s' ∧ s.runId = runId

/-- What is told of a run and its walk. -/
structure TellsOf (runId : String) (log : List (Pass τ)) (told : RunResult τ) : Prop where
  id : told.runId = runId
  continuation : ∀ c ∈ told.continuation, c.runId = runId
  aborted : (∃ p ∈ log, p.result = .error (.aborted runId)) →
    told.status = .failed ∧ told.error = some s!"Run {runId} was aborted"

omit [ActiveTime τ] in
theorem finish_course {workflowId : Option String} {startedAt : Time.Stamp}
    {steps : List StepResult} {status : RunStatus} {error : Option String}
    {continuation : Option (Continuation τ)}
    (h : (e.finish runId workflowId startedAt steps status error continuation).Course t result) :
    (∀ x ∈ t, x.IsClock) ∧ ∀ told, result = .ok told → told.runId = runId ∧
      told.status = status ∧ told.error = error ∧ told.continuation = continuation := by
  obtain ⟨reading, t₁, t₂, rfl, hclock, hpure⟩ := Dialogue.course_bind.mp h
  obtain rfl := Dialogue.course_clock.mp hclock
  obtain ⟨rfl, rfl⟩ := Dialogue.course_pure.mp hpure
  refine ⟨List.forall_mem_singleton.mpr rfl, fun told htold => ?_⟩
  obtain ⟨durationMs, -, rfl⟩ := Except.map_eq_ok.mp htold
  exact ⟨rfl, rfl, rfl, rfl⟩

/-- The walk of a segment and what closes it split, and only the last pass halts. -/
theorem walks_splits {start : Option String} {r : Except Halt Unit} (h : e.Walks s start t r s')
    (hclosing : ∀ x ∈ closing, x.IsClock) :
    ∃ log : List (Pass τ), e.Splits s.runId (t ++ closing) [] log closing ∧ s'.runId = s.runId ∧
      ∀ p ∈ log, ∀ halt, p.result = .error halt → r = .error halt := by
  obtain ⟨log, s'', hp, rfl, rfl⟩ := walks_passes h
  obtain ⟨_, _, _, _, _, _, heq⟩ := hp.continues
  refine ⟨log, ⟨rfl, List.forall_mem_nil _, hclosing, .inr ⟨_, s, r, s'', hp, rfl⟩⟩, by rw [heq],
    fun p hmem halt hhalt => ?_⟩
  obtain ⟨pre, post, rfl⟩ := List.append_of_mem hmem
  exact (hp.split.2.2.2 halt hhalt).2

theorem execute_splits {start : Option String} (h : (e.execute s start).Course t result) :
    ∃ (log : List (Pass τ)) (closing : _), e.Splits s.runId t [] log closing ∧
      ∀ told, result = .ok told → TellsOf s.runId log told := by
  obtain ⟨held, hgoes⟩ := execute_course.mp h
  cases hgoes with
  | finished hw hc =>
    obtain ⟨hclosing, htold⟩ := finish_course hc
    obtain ⟨log, hsplits, hrun, hlast⟩ := walks_splits hw hclosing
    refine ⟨log, _, hsplits, fun told h => ?_⟩
    obtain ⟨hid, -, -, hnone⟩ := htold told h
    refine ⟨hid.trans hrun, by simp [hnone], ?_⟩
    rintro ⟨p, hp, hhalt⟩
    cases hlast p hp _ hhalt
  | failed hw hne hc =>
    obtain ⟨hclosing, htold⟩ := finish_course hc
    obtain ⟨log, hsplits, hrun, hlast⟩ := walks_splits hw hclosing
    refine ⟨log, _, hsplits, fun told h => ?_⟩
    obtain ⟨hid, hstatus, herror, hnone⟩ := htold told h
    refine ⟨hid.trans hrun, by simp [hnone], ?_⟩
    rintro ⟨p, hp, hhalt⟩
    cases hlast p hp _ hhalt
    exact ⟨hstatus, herror⟩
  | @suspended held _ t' _ hw hc =>
    obtain ⟨hrest, htold⟩ := finish_course hc
    have hclosing : ∀ x ∈ (⟨.clock, held.suspended⟩ :: t' : List Exchange), x.IsClock :=
      List.forall_mem_cons.mpr ⟨rfl, hrest⟩
    obtain ⟨log, hsplits, hrun, hlast⟩ := walks_splits hw hclosing
    refine ⟨log, _, hsplits, fun told h => ?_⟩
    obtain ⟨hid, -, -, hsome⟩ := htold told h
    refine ⟨hid.trans hrun, fun c hc => ?_, ?_⟩
    · rw [hsome] at hc
      cases hc
      exact hrun
    · rintro ⟨p, hp, hhalt⟩
      cases hlast p hp _ hhalt

theorem Splits.cons {x : Exchange} (h : e.Splits runId t opening log closing) (hx : x.IsClock) :
    e.Splits runId (x :: t) (x :: opening) log closing where
  exchanges := by rw [h.exchanges]; rfl
  opening := List.forall_mem_cons.mpr ⟨hx, h.opening⟩
  closing := h.closing
  walked := h.walked

/-- A run that is never walked only looks at the clock. -/
theorem finish_splits {workflowId : Option String} {startedAt : Time.Stamp} {error : Option String}
    (h : (e.finish runId workflowId startedAt [] .failed error none).Course t result) :
    e.Splits runId t t ([] : List (Pass τ)) [] ∧
      ∀ told, result = .ok told → TellsOf runId [] told := by
  obtain ⟨hclock, htold⟩ := finish_course h
  refine ⟨⟨?_, hclock, List.forall_mem_nil _, .inl rfl⟩, fun told h => ?_⟩
  · rw [List.append_nil]
    exact (List.append_nil t).symm
  · obtain ⟨hid, -, -, hnone⟩ := htold told h
    exact ⟨hid, by simp [hnone], by rintro ⟨p, ⟨⟩, _⟩⟩

theorem escape_splits (escape : Escape)
    (h : (pure (.error escape) : Dialogue (Except Escape (RunResult τ))).Course t result) :
    e.Splits runId t t ([] : List (Pass τ)) [] ∧
      ∀ told, result = .ok told → TellsOf runId [] told := by
  obtain ⟨rfl, rfl⟩ := Dialogue.course_pure.mp h
  refine ⟨⟨rfl, List.forall_mem_nil _, List.forall_mem_nil _, .inl rfl⟩, fun told htold => ?_⟩
  cases htold

theorem run_splits {d : Definition} {event : Event}
    (hc : (e.run d event runId).Course t result) :
    ∃ (opening : _) (log : List (Pass τ)) (closing : _), e.Splits runId t opening log closing ∧
      ∀ told, result = .ok told → TellsOf runId log told := by
  unfold run at hc
  obtain ⟨reading, t₁, t₂, rfl, hclock, hrest⟩ := Dialogue.course_bind.mp hc
  obtain rfl := Dialogue.course_clock.mp hclock
  dsimp only at hrest
  split at hrest
  · obtain ⟨hsplits, htold⟩ := escape_splits _ hrest
    exact ⟨_, [], [], hsplits.cons rfl, htold⟩
  · obtain ⟨log, closing, hsplits, htold⟩ := execute_splits hrest
    exact ⟨_, log, closing, hsplits.cons rfl, htold⟩
  · obtain ⟨hsplits, htold⟩ := finish_splits hrest
    exact ⟨_, [], [], hsplits.cons rfl, htold⟩

theorem restore_runId {c : Continuation τ} {reading : Nat}
    (h : restore c reading = .ok s) : s.runId = c.runId := by
  obtain ⟨workflow, -, h⟩ := Except.bind_eq_ok.mp h
  obtain ⟨context, -, h⟩ := Except.bind_eq_ok.mp h
  obtain ⟨steps, -, h⟩ := Except.bind_eq_ok.mp h
  obtain rfl := Except.ok.inj h
  rfl

theorem resume_splits {c : Continuation τ} (hc : (e.resume c).Course t result) :
    ∃ (opening : _) (log : List (Pass τ)) (closing : _), e.Splits c.runId t opening log closing ∧
      ∀ told, result = .ok told → TellsOf c.runId log told := by
  unfold resume at hc
  obtain ⟨reading, t₁, t₂, rfl, hclock, hrest⟩ := Dialogue.course_bind.mp hc
  obtain rfl := Dialogue.course_clock.mp hclock
  split at hrest
  · rename_i s hrestore
    obtain ⟨log, closing, hsplits, htold⟩ := execute_splits hrest
    rw [restore_runId hrestore] at hsplits htold
    exact ⟨_, log, closing, hsplits.cons rfl, htold⟩
  · obtain ⟨hsplits, htold⟩ := escape_splits _ hrest
    exact ⟨_, [], [], hsplits.cons rfl, htold⟩
  · split at hrest
    · obtain ⟨hsplits, htold⟩ := escape_splits _ hrest
      exact ⟨_, [], [], hsplits.cons rfl, htold⟩
    · obtain ⟨hsplits, htold⟩ := finish_splits hrest
      exact ⟨_, [], [], hsplits.cons rfl, htold⟩

/-- Every course of a run splits. -/
theorem Carries.splits (h : e.Carries runId dialogue) (hc : dialogue.Course t result) :
    ∃ (opening : _) (log : List (Pass τ)) (closing : _), e.Splits runId t opening log closing ∧
      ∀ told, result = .ok told → TellsOf runId log told := by
  cases h with
  | run d event => exact run_splits hc
  | resume c hid =>
    subst hid
    exact resume_splits hc

/-! ## Checks of runs -/

/-- After some exchanges a node of a run starts: the last of them is that with which the visit of
the node begins. -/
def Starts (e : Engine) (runId : String) (dialogue : Dialogue (Except Escape (RunResult τ)))
    (t : List Exchange) : Prop :=
  ∃ (rest : List Exchange) (result : _) (opening : _) (pre : List (Pass τ)) (p : _) (post : _)
    (closing : _), dialogue.Course (t ++ rest) result ∧
      e.Splits runId (t ++ rest) opening (pre ++ p :: post) closing ∧ p.Starts ∧
      t = opening ++ Pass.talk pre ++ p.exchanges.take 1

namespace Splits

variable {x : String} {seen : Bool} {before after : List Exchange}

/-- A check of a run is the first thing that one of its passes asks. -/
theorem at_check
    (h : e.Splits runId (before ++ ⟨.aborted x, seen⟩ :: after) opening log closing) :
    ∃ pre p post v, log = pre ++ p :: post ∧ e.Does p ∧ x = runId ∧
      p.exchanges = ⟨.aborted runId, seen⟩ :: v ∧ before = opening ++ Pass.talk pre ∧
      after = v ++ Pass.talk post ++ closing := by
  have hall := h.exchanges.symm
  rw [List.append_assoc] at hall
  obtain ⟨before, rfl, hrest⟩ := Exchange.behind hall (Exchange.check_not_mem h.opening)
  obtain ⟨after, htalk, rfl⟩ := Exchange.ahead hrest (Exchange.check_not_mem h.closing)
  obtain ⟨pre, p, post, u, v, rfl, hp, rfl, rfl⟩ := Pass.talk_split htalk
  obtain hnil | ⟨errands, s, r, s', hpasses, rfl⟩ := h.walked
  · simp at hnil
  · obtain ⟨hdoes, ⟨_, _, _, _, _, _, hbefore⟩, -, -⟩ := hpasses.split
    have hrun : p.before.runId = s.runId := by rw [hbefore]
    have hmem : ⟨.aborted x, seen⟩ ∈ p.exchanges := by simp [hp]
    rcases hdoes.check_cases with hno | ⟨seen', v', hfirst, hno, -⟩
    · exact absurd hmem (hno x seen)
    · -- No other exchange of the pass is a check, so this is the first one.
      cases u with
      | nil =>
        obtain ⟨hx, rfl⟩ := List.cons.inj (hfirst.symm.trans hp)
        cases hx
        refine ⟨pre, p, post, v', rfl, hdoes, hrun, hrun ▸ hfirst, ?_, rfl⟩
        rw [List.append_nil]
      | cons y u =>
        obtain ⟨-, rfl⟩ := List.cons.inj (hfirst.symm.trans hp)
        exact absurd (by simp) (hno x seen)

/-- A run looks for requests to abort itself. -/
theorem own (h : e.Splits runId t opening log closing) (hx : ⟨.aborted x, seen⟩ ∈ t) :
    x = runId := by
  obtain ⟨before, after, rfl⟩ := List.append_of_mem hx
  obtain ⟨-, -, -, -, -, -, hown, -⟩ := h.at_check
  exact hown

/-- Before a pass no check was answered with yes. -/
theorem not_aborted {pre post : List (Pass τ)} {p : Pass τ}
    (h : e.Splits runId t opening (pre ++ p :: post) closing) :
    ⟨.aborted x, true⟩ ∉ opening ++ Pass.talk pre := by
  intro hmem
  rcases List.mem_append.mp hmem with hmem | hmem
  · exact Exchange.check_not_mem h.opening hmem
  · obtain ⟨q, hq, hqmem⟩ := List.mem_flatMap.mp hmem
    obtain hnil | ⟨errands, s, r, s', hpasses, -⟩ := h.walked
    · simp at hnil
    · obtain ⟨hdoes, more, hok⟩ := hpasses.split.2.2.1 q hq
      rw [((hdoes.aborted_mem hqmem).2 rfl).2] at hok
      cases hok

/-- After a yes a run asks nothing but the clock. -/
theorem after_aborted
    (h : e.Splits runId (before ++ ⟨.aborted x, true⟩ :: after) opening log closing) :
    (∀ y ∈ after, y.IsClock) ∧ ∃ p ∈ log, p.result = .error (.aborted runId) := by
  obtain ⟨pre, p, post, v, rfl, hdoes, rfl, hp, rfl, rfl⟩ := h.at_check
  obtain ⟨hall, hr⟩ := (hdoes.aborted_mem (by rw [hp]; exact List.mem_cons_self)).2 rfl
  obtain rfl : v = [] := by simpa [hp] using hall
  obtain hnil | ⟨errands, s, r, s', hpasses, -⟩ := h.walked
  · simp at hnil
  · obtain ⟨rfl, -⟩ := hpasses.split.2.2.2 _ hr
    exact ⟨h.closing, p, by simp, hr⟩

/-- A check that is answered with no, and after which something but the time is asked, is that of a
node that starts. -/
theorem starts_at
    (h : e.Splits runId (before ++ ⟨.aborted x, false⟩ :: after) opening log closing)
    (hafter : ∃ y ∈ after, ¬y.IsClock) :
    ∃ pre p post, log = pre ++ p :: post ∧ p.Starts ∧
      before ++ [⟨.aborted x, false⟩] = opening ++ Pass.talk pre ++ p.exchanges.take 1 := by
  obtain ⟨pre, p, post, v, rfl, hdoes, rfl, hp, rfl, rfl⟩ := h.at_check
  refine ⟨pre, p, post, rfl, ?_, by simp [hp]⟩
  rcases hdoes.check_cases with hno | ⟨seen, v', hall, -, -, hstarts | ⟨hclocks, halt, hr⟩⟩
  · exact absurd (by rw [hp]; exact List.mem_cons_self) (hno x false)
  · exact hstarts
  · -- A pass that halts is the last one, so only the clock was asked after it.
    obtain ⟨y, hy, hclock⟩ := hafter
    obtain rfl : v = v' := (List.cons.inj (hp.symm.trans hall)).2
    obtain hnil | ⟨errands, s, r, s', hpasses, -⟩ := h.walked
    · simp at hnil
    · obtain ⟨rfl, -⟩ := hpasses.split.2.2.2 _ hr
      rcases List.mem_append.mp hy with hy | hy
      · exact absurd (hclocks y (by simpa [Pass.talk] using hy)) hclock
      · exact absurd (h.closing y hy) hclock

end Splits

section Reaches

variable {rest : Dialogue (Except Escape (RunResult τ))} {before after : List Exchange} {x : String}
  {seen : Bool}

/-- What a run has asked so far is part of a course. -/
theorem Carries.reaches (h : e.Carries runId dialogue) (hreach : dialogue.Reaches t rest) :
    ∃ (more opening : _) (log : List (Pass τ)) (closing : _),
      e.Splits runId (t ++ more) opening log closing := by
  have hcourse := hreach.course (Dialogue.course_answered Dialogue.still rest)
  obtain ⟨opening, log, closing, hsplits, -⟩ := h.splits hcourse
  exact ⟨_, opening, log, closing, hsplits⟩

theorem Carries.own (h : e.Carries runId dialogue) (hreach : dialogue.Reaches t rest)
    (hx : ⟨.aborted x, seen⟩ ∈ t) : x = runId := by
  obtain ⟨more, opening, log, closing, hsplits⟩ := h.reaches hreach
  exact hsplits.own (List.mem_append_left more hx)

theorem Carries.after_aborted (h : e.Carries runId dialogue)
    (hreach : dialogue.Reaches (before ++ ⟨.aborted x, true⟩ :: after) rest) :
    ∀ y ∈ after, y.IsClock := by
  obtain ⟨more, opening, log, closing, hsplits⟩ := h.reaches hreach
  rw [List.append_assoc, List.cons_append] at hsplits
  exact fun y hy => hsplits.after_aborted.1 y (List.mem_append_left more hy)

end Reaches

/-- A node starts where a check is answered with no, and something but the time is asked then. -/
theorem Carries.starts_at {x : String} {before after : List Exchange} (h : e.Carries runId dialogue)
    (hc : dialogue.Course (before ++ ⟨.aborted x, false⟩ :: after) result)
    (hafter : ∃ y ∈ after, ¬y.IsClock) :
    e.Starts runId dialogue (before ++ [⟨.aborted x, false⟩]) := by
  obtain ⟨opening, log, closing, hsplits, -⟩ := h.splits hc
  obtain ⟨pre, p, post, rfl, hstarts, ht⟩ := hsplits.starts_at hafter
  refine ⟨after, result, opening, pre, p, post, closing, ?_, ?_, hstarts, ht⟩
  · simpa using hc
  · simpa using hsplits

/-- A node of a run that looks for abort requests starts with a no, and no yes came before. -/
theorem Starts.checked (h : e.Starts runId dialogue t) (hw : e.watchesAborts = true) :
    ∃ t', t = t' ++ [⟨.aborted runId, false⟩] ∧ ∀ x, ⟨.aborted x, true⟩ ∉ t' := by
  obtain ⟨rest, result, opening, pre, p, post, closing, -, hsplits, hstarts, rfl⟩ := h
  refine ⟨opening ++ Pass.talk pre, ?_, fun x => hsplits.not_aborted⟩
  obtain hnil | ⟨errands, s, r, s', hpasses, rfl⟩ := hsplits.walked
  · simp at hnil
  · obtain ⟨hdoes, ⟨_, _, _, _, _, _, hbefore⟩, -, -⟩ := hpasses.split
    rw [hdoes.starts hw hstarts, hbefore]

end Engine

end Automation
