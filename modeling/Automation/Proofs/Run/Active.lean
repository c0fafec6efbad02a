import Mathlib.Tactic.Linarith
import Mathlib.Tactic.Ring
import Automation.Proofs.Run.ExactTime
import Automation.Proofs.Run.Executor

/-!
# Active time

Where only calls and waiting take time, the active time of a run is the time that its executors
have taken, in all segments so far. A pause is left out, at whatever depth it is waited for, and so
is the time between a suspension and the next segment.
-/

namespace Automation

variable {e : Engine} {w : World} {past t : List Exchange}

/-! ## Time in worlds -/

theorem Spends.executed_lived {τ : Type} [ActiveTime τ] {x : Execution} {paused paused' : τ}
    (h : Spends (some x) paused t paused') (ht : w.Answers past t) :
    ∃ rest, t = (x.lived w past).1 ++ rest := by
  cases h with
  | executed _ hx hclocks =>
    rw [hx.lived_eq (World.answers_append.mp ht).1]
    exact ⟨_, rfl⟩

namespace World

/-- The reading of the clock after some exchanges. -/
def now (w : World) (past : List Exchange) : Nat := w past .clock

/-- Only calls and waiting take time in a world. -/
def Prompt (w : World) : Prop :=
  ∀ past (x : Exchange), ¬x.request.Lasts → w.now (past ++ [x]) = w.now past

/-- The seconds that some exchanges take after others. -/
def spent (w : World) (past t : List Exchange) : Rat :=
  w.now (past ++ t) / 1000000 - w.now past / 1000000

/-- The seconds that the run of an executor takes, if there is one. -/
def runtime (w : World) (past : List Exchange) : Option Execution → Rat
  | none => 0
  | some x => w.spent past (x.lived w past).1

@[simp] theorem runtime_none : w.runtime past none = 0 := rfl

@[simp] theorem runtime_some (x : Execution) :
    w.runtime past (some x) = w.spent past (x.lived w past).1 := rfl

theorem Answers.clock {reading : Nat} (h : w.Answers past (⟨.clock, reading⟩ :: t)) :
    reading = w.now past := h.1

theorem Prompt.now_append (hw : w.Prompt) (ht : Exchange.Instant t) :
    w.now (past ++ t) = w.now past := by
  induction t generalizing past with
  | nil => rw [List.append_nil]
  | cons x t ih =>
    obtain ⟨hx, ht⟩ := List.forall_mem_cons.mp ht
    rw [List.append_cons, ih ht, hw past x hx]

theorem Prompt.spent_append (hw : w.Prompt) {t' : List Exchange} (ht : Exchange.Instant t) :
    w.spent past (t ++ t') = w.spent (past ++ t) t' := by
  unfold spent
  rw [← List.append_assoc, hw.now_append ht]

/-- What a visit spends is what the run of its executor takes and what is added to the pauses. -/
theorem Prompt.spends (hw : w.Prompt) {x : Option Execution} {paused paused' : Rat}
    (h : Spends x paused t paused') (ht : w.Answers past t) :
    w.spent past t = w.runtime past x + (paused' - paused) := by
  cases h with
  | idle _ hclocks =>
    rw [runtime_none, spent, hw.now_append (.of_clocks hclocks)]
    ring
  | @executed _ x t₁ t₂ outcome hx hclocks =>
    have hlived : x.lived w past = (t₁, outcome) := hx.lived_eq (answers_append.mp ht).1
    rw [runtime_some, hlived]
    unfold spent
    rw [← List.append_assoc, hw.now_append (.of_clocks hclocks)]
    ring
  | @waited _ start finish seconds t hclocks =>
    -- The pause lies between two readings of the clock, and nothing else takes time.
    obtain ⟨hstart, -, hfinish, -⟩ := ht
    change start = w.now past at hstart
    have hrest : Exchange.Instant (⟨.clock, finish⟩ :: t) :=
      .append (.clock finish) (.of_clocks hclocks)
    have hend := (hw.now_append hrest).trans hfinish.symm
    change _ = (0 : Rat) + (paused + ((finish : Rat) / 1000000 - (start : Rat) / 1000000) - paused)
    rw [spent, List.append_cons, List.append_cons, hend, hstart]
    ring

end World

/-! ## Active time of passes -/

namespace Engine

/-- The seconds that a pass of a run spends in the run of an executor, after some exchanges. -/
def worked (e : Engine) (w : World) (past : List Exchange) (p : Pass Rat) : Rat :=
  w.runtime (past ++ e.lead p) (e.execution p)

/-- The seconds that passes of a run spend in runs of executors. -/
def workload (e : Engine) (w : World) : List Exchange → List (Pass Rat) → Rat
  | _, [] => 0
  | past, p :: log => e.worked w past p + e.workload w (past ++ p.exchanges) log

variable {p : Pass Rat} {log pre post : List (Pass Rat)} {errands : List Errand}
  {s s' : RunState Rat} {r : Except Halt Unit}

theorem workload_append :
    e.workload w past (pre ++ post)
      = e.workload w past pre + e.workload w (past ++ Pass.talk pre) post := by
  induction pre generalizing past with
  | nil => simp [workload, Pass.talk]
  | cons p pre ih =>
    rw [List.cons_append, workload, workload, ih, add_assoc]
    simp [Pass.talk]

theorem active_eq (s : RunState Rat) (reading : Nat) :
    s.active reading = s.activeBefore
      + ((reading : Rat) / 1000000 - (s.segmentStart : Rat) / 1000000) - s.paused := rfl

/-- A pass adds to the active time what it spends in the run of an executor. -/
theorem Does.active (h : e.Does p) (hgo : GoesOn p.result) (hw : w.Prompt)
    (hanswers : w.Answers past p.exchanges) :
    p.after.active (w.now (past ++ p.exchanges))
      = p.before.active (w.now past) + e.worked w past p := by
  obtain ⟨t, hexchanges, hlead, hspends⟩ := h.spends hgo
  rw [hexchanges] at hanswers
  have hspent := hw.spends hspends (World.answers_append.mp hanswers).2
  rw [← hw.spent_append hlead, ← hexchanges, World.spent] at hspent
  obtain ⟨_, _, _, _, _, -, hafter⟩ := step_continues h
  have hbefore : p.after.activeBefore = p.before.activeBefore := by rw [hafter]
  have hstart : p.after.segmentStart = p.before.segmentStart := by rw [hafter]
  rw [active_eq, active_eq, hbefore, hstart, worked]
  linarith

/-- What the run of the executor asks in a world is part of what the pass asks. -/
theorem Does.executed {x : Execution} (h : e.Does p) (hgo : GoesOn p.result)
    (hanswers : w.Answers past p.exchanges) (hx : e.execution p = some x) :
    ∃ rest, p.exchanges = e.lead p ++ (x.lived w (past ++ e.lead p)).1 ++ rest := by
  obtain ⟨t, hexchanges, -, hspends⟩ := h.spends hgo
  rw [hexchanges] at hanswers ⊢
  rw [hx] at hspends
  obtain ⟨rest, hrest⟩ := hspends.executed_lived (World.answers_append.mp hanswers).2
  exact ⟨rest, by rw [List.append_assoc, ← hrest]⟩

/-- At each pass the active time has grown by what the passes before it have spent in runs of
executors. The induction is on these passes: none of them halts. -/
theorem Passes.active (h : e.Passes errands s (pre ++ p :: post) r s') (hw : w.Prompt)
    (hanswers : w.Answers past (Pass.talk pre)) :
    p.before.active (w.now (past ++ Pass.talk pre))
      = s.active (w.now past) + e.workload w past pre := by
  induction pre generalizing errands s past with
  | nil =>
    have hbefore : p.before = s := by cases h <;> rfl
    rw [hbefore, Pass.talk, List.flatMap_nil, List.append_nil, workload, add_zero]
  | cons q pre ih =>
    obtain ⟨hfirst, hrest⟩ := World.answers_append.mp hanswers
    generalize hlog : q :: pre ++ p :: post = log at h
    cases h with
    | done s => cases hlog
    | halted rest hq hr => simp at hlog
    | passed hq hr h =>
      obtain ⟨rfl, rfl⟩ := List.cons.inj hlog
      have hgo : GoesOn q.result := by
        rw [hr]
        trivial
      rw [workload, ← add_assoc, ← hq.active hgo hw hfirst, ← ih h hrest, Pass.talk,
        List.flatMap_cons, List.append_assoc]
      rfl

/-! ## Checks of the budget -/

/-- A pass compares the active time with the budget, at a reading of the clock. -/
def ChecksAt (e : Engine) (p : Pass Rat) (reading : Nat) : Prop :=
  ∃ rest, p.exchanges = e.asked p.before ++ ⟨.clock, reading⟩ :: rest

theorem ChecksAt.now {reading : Nat} (h : e.ChecksAt p reading) (hw : w.Prompt)
    (hanswers : w.Answers past p.exchanges) : reading = w.now past := by
  obtain ⟨rest, hexchanges⟩ := h
  rw [hexchanges] at hanswers
  exact (World.answers_append.mp hanswers).2.clock.trans (hw.now_append asked_instant)

/-- Before a node starts, the active time has been found within the budget. -/
theorem Does.within_budget (h : e.Does p) (hstarts : p.Starts) :
    ∃ reading, e.ChecksAt p reading ∧
      ActiveTime.exceeds (p.before.active reading) e.maxActive = false := by
  obtain ⟨errand, before, exchanges, result, after⟩ := p
  change (e.step errand).Course before exchanges result after at h
  change after.stepsVisited = before.stepsVisited + 1 at hstarts
  cases step_cases h with
  | tooDeep | entered | left | ended | missing | stopped => simp at hstarts
  | halted hn hb hv | visited hn hb hv =>
    cases hb with
    | passed reading hs ha => exact ⟨reading, ⟨_, (List.append_cons _ _ _).symm⟩, ha⟩

/-- A pass halts for want of time if it finds the active time beyond the budget. Then it starts no
node. -/
theorem Does.beyond_budget {limit : Value.Quantity} (h : e.Does p)
    (hr : p.result = .error (.timeBudget limit)) :
    limit = e.maxActive ∧ e.execution p = none ∧ ∃ reading, e.ChecksAt p reading ∧
      ActiveTime.exceeds (p.before.active reading) e.maxActive = true := by
  obtain ⟨errand, before, exchanges, result, after⟩ := p
  change (e.step errand).Course before exchanges result after at h
  change result = _ at hr
  subst hr
  cases step_cases h with
  | stopped locals top hn hb =>
    cases hb with
    | timeBudget reading hs ha =>
      have hno : ¬before.stepsVisited = before.stepsVisited + 1 := by omega
      exact ⟨rfl, execution_of_not_starts hno, reading, ⟨[], rfl⟩, ha⟩
  | halted hn hb hv => exact (visit_halt hv).elim

end Engine

/-! ## Legs -/

/-- A segment of a run, in the world in which it is done. -/
structure Leg where
  world : World
  segment : Segment Rat

/-- The reading of the clock with which a leg begins. -/
def Leg.opening (leg : Leg) : List Exchange := [⟨.clock, leg.world.now []⟩]

namespace Engine

/-- The seconds that a leg spends in runs of executors. -/
def legwork (e : Engine) (leg : Leg) : Rat :=
  e.workload leg.world leg.opening leg.segment.log

/-- The active time of a leg is accounted for: it is what runs of executors have taken, those before
the leg and those of its passes so far. While it is within the budget, the run does not fail for
want of time, and once it is beyond, no node starts. -/
structure Accounts (e : Engine) (prior : Rat) (leg : Leg) : Prop where
  answers : leg.world.Answers leg.opening (Pass.talk leg.segment.log)
  /-- The run of the executor that is counted for a pass is what the pass asks. -/
  executed : ∀ pre p post x, leg.segment.log = pre ++ p :: post → GoesOn p.result →
    e.execution p = some x → ∃ rest, p.exchanges = e.lead p ++
      (x.lived leg.world (leg.opening ++ Pass.talk pre ++ e.lead p)).1 ++ rest
  active : ∀ pre p post reading, leg.segment.log = pre ++ p :: post → e.ChecksAt p reading →
    p.before.active reading = prior + e.workload leg.world leg.opening pre
  starts : ∀ pre p post, leg.segment.log = pre ++ p :: post → p.Starts →
    ActiveTime.exceeds (prior + e.workload leg.world leg.opening pre) e.maxActive = false
  exhausted : ∀ limit, leg.segment.result = .error (.timeBudget limit) →
    limit = e.maxActive ∧ ActiveTime.exceeds (prior + e.legwork leg) e.maxActive = true

/-- All legs are accounted for, each with what was active before the first of them and with the legs
before it. -/
def AccountsAll (e : Engine) (prior : Rat) (legs : List Leg) : Prop :=
  ∀ pre leg post, legs = pre ++ leg :: post → e.Accounts (prior + (pre.map e.legwork).sum) leg

section Legs

variable {leg : Leg}

theorem Accounts.all {prior : Rat} {legs : List Leg} (hleg : e.Accounts prior leg)
    (hlegs : e.AccountsAll (prior + e.legwork leg) legs) : e.AccountsAll prior (leg :: legs) := by
  intro pre leg' post hsplit
  cases pre with
  | nil =>
    obtain ⟨rfl, -⟩ := List.cons.inj hsplit
    rw [List.map_nil, List.sum_nil, add_zero]
    exact hleg
  | cons first pre =>
    obtain ⟨rfl, hrest⟩ := List.cons.inj hsplit
    rw [List.map_cons, List.sum_cons, ← add_assoc]
    exact hlegs pre leg' post hrest

theorem accountsAll_nil (prior : Rat) : e.AccountsAll prior [] := by
  intro pre leg post hsplit
  simp at hsplit

theorem DoesSegment.active (h : e.DoesSegment leg.segment) (hw : leg.world.Prompt)
    (hanswers : leg.world.Answers leg.opening (Pass.talk leg.segment.log))
    {pre post : List (Pass Rat)} {p : Pass Rat} {reading : Nat}
    (hlog : leg.segment.log = pre ++ p :: post) (hchecks : e.ChecksAt p reading) :
    p.before.active reading = leg.segment.before.active (leg.world.now leg.opening)
      + e.workload leg.world leg.opening pre := by
  have hpasses := h.passes
  rw [hlog] at hpasses
  rw [hlog, Pass.talk, List.flatMap_append] at hanswers
  obtain ⟨hpre, hrest⟩ := World.answers_append.mp hanswers
  rw [hchecks.now hw (World.answers_append.mp hrest).1]
  exact hpasses.active hw hpre

theorem DoesSegment.accounts (h : e.DoesSegment leg.segment) (hw : leg.world.Prompt)
    (hanswers : leg.world.Answers leg.opening (Pass.talk leg.segment.log)) :
    e.Accounts (leg.segment.before.active (leg.world.now leg.opening)) leg where
  answers := hanswers
  executed pre p post x hlog hgo hx := by
    have hp : p ∈ leg.segment.log := hlog ▸ List.mem_append_cons_self
    rw [hlog, Pass.talk, List.flatMap_append] at hanswers
    have hlast := (World.answers_append.mp (World.answers_append.mp hanswers).2).1
    exact (h.passes.mem hp).1.executed hgo hlast hx
  active pre p post reading hlog hchecks := h.active hw hanswers hlog hchecks
  starts pre p post hlog hstarts := by
    have hp : p ∈ leg.segment.log := hlog ▸ List.mem_append_cons_self
    obtain ⟨reading, hchecks, hwithin⟩ := (h.passes.mem hp).1.within_budget hstarts
    rw [← h.active hw hanswers hlog hchecks]
    exact hwithin
  exhausted limit hr := by
    have hpasses := h.passes
    rw [hr] at hpasses
    obtain ⟨pre, p, hlog, hp, -, hhalt, -⟩ := hpasses.halted_by
    obtain ⟨hlimit, hexecution, reading, hchecks, hbeyond⟩ := hp.beyond_budget hhalt
    refine ⟨hlimit, ?_⟩
    rw [h.active hw hanswers hlog hchecks] at hbeyond
    rw [legwork, hlog, workload_append, workload, workload, worked, hexecution, World.runtime_none,
      add_zero, add_zero]
    exact hbeyond

/-- The active time at the end of a leg that is suspended. -/
theorem DoesSegment.active_suspended {next : Option String} {resumeAt : Time.Stamp}
    (h : e.DoesSegment leg.segment) (hw : leg.world.Prompt)
    (hanswers : leg.world.Answers leg.opening (Pass.talk leg.segment.log))
    (hr : leg.segment.result = .error (.suspended next resumeAt)) :
    leg.segment.after.active (leg.world.now (leg.opening ++ Pass.talk leg.segment.log))
      = leg.segment.before.active (leg.world.now leg.opening) + e.legwork leg := by
  have hpasses := h.passes
  rw [hr] at hpasses
  obtain ⟨pre, p, hlog, hp, -, hhalt, hafter⟩ := hpasses.halted_by
  rw [hlog] at hpasses
  have htalk : Pass.talk leg.segment.log = Pass.talk pre ++ p.exchanges := by
    rw [hlog, Pass.talk, List.flatMap_append, List.flatMap_singleton]
    rfl
  rw [htalk] at hanswers ⊢
  obtain ⟨hpre, hlast⟩ := World.answers_append.mp hanswers
  have hgo : GoesOn p.result := by
    rw [hhalt]
    trivial
  rw [← hafter, ← List.append_assoc, hp.active hgo hw hlast, hpasses.active hw hpre, legwork, hlog,
    workload_append, workload, workload, add_zero, add_assoc]

end Legs

/-! ## Runs -/

/-- A run can go on through some exchanges to the results of its segments, if it is put into the
store at each suspension and each segment is done in a world of its own: when it is resumed, and at
which reading of which clock, is left open. -/
inductive StoredIn (e : Engine) : List World → Dialogue (Except Escape (RunResult Rat)) →
    List Exchange → List (Except Escape (RunResult Rat)) → Prop where
  | last {w : World} {segment : Dialogue (Except Escape (RunResult Rat))} {t : List Exchange}
      {result : Except Escape (RunResult Rat)} (h : segment.Course t result) (hw : w.Answers [] t) :
      StoredIn e [w] segment t [result]
  | resumed {w : World} {ws : List World} {segment : Dialogue (Except Escape (RunResult Rat))}
      {t t' : List Exchange} {told : RunResult Rat} {results : List (Except Escape (RunResult Rat))}
      {c c' : Continuation Rat} (h : segment.Course t (.ok told)) (hw : w.Answers [] t)
      (hc : told.continuation = some c) (hreload : c.reload = .ok c')
      (hrest : StoredIn e ws (e.resume c') t' results) :
      StoredIn e (w :: ws) segment (t ++ t') (.ok told :: results)

section Runs

variable {ws : List World} {segment : Dialogue (Except Escape (RunResult Rat))}
  {result : Except Escape (RunResult Rat)} {results : List (Except Escape (RunResult Rat))}
  {s : RunState Rat} {start : Option String} {held : Option (Held Rat)} {prior : Rat}

/-- Every stored run is done in some worlds. -/
theorem stored_iff_storedIn :
    e.Stored segment t results ↔ ∃ ws, e.StoredIn ws segment t results := by
  constructor
  · intro h
    induction h with
    | @last segment t result h =>
      obtain ⟨w, hw⟩ := World.exists_answers [] t
      exact ⟨[w], .last h hw⟩
    | @resumed segment t t' told results c c' h hc hreload hrest ih =>
      obtain ⟨w, hw⟩ := World.exists_answers [] t
      obtain ⟨ws, hws⟩ := ih
      exact ⟨w :: ws, .resumed h hw hc hreload hws⟩
  · rintro ⟨ws, h⟩
    induction h with
    | last h hw => exact .last h
    | resumed h hw hc hreload hrest ih => exact .resumed h hc hreload ih

/-- A segment that begins with the time gets it from its world. -/
theorem course_in_world {f : Nat → Dialogue (Except Escape (RunResult Rat))}
    (h : (Dialogue.clock >>= f).Course t result) (hw : w.Answers [] t) :
    ∃ t', t = ⟨.clock, w.now []⟩ :: t' ∧ (f (w.now [])).Course t' result ∧
      w.Answers [⟨.clock, w.now []⟩] t' := by
  obtain ⟨reading, t', rfl, hcourse⟩ := Dialogue.course_ask.mp h
  obtain ⟨hreading, hanswers⟩ := hw
  change reading = w.now [] at hreading
  subst hreading
  exact ⟨t', rfl, hcourse, hanswers⟩

/-- A segment that begins in a world is a leg, and what it holds at its end has the active time of
the legs so far. -/
theorem Goes.leg (h : e.Goes s start t result held) (hs : s.Settled) (ht : e.OnCalendar t)
    (hw : w.Prompt) (hanswers : w.Answers [⟨.clock, w.now []⟩] t)
    (hprior : s.active (w.now []) = prior) :
    ∃ leg : Leg, leg.world = w ∧ e.DoesSegment leg.segment ∧ leg.segment.start = start ∧
      leg.segment.before = s ∧ leg.segment.Tells result ∧
      Exchange.deeds t = Exchange.deeds (Pass.talk leg.segment.log) ∧ e.Accounts prior leg ∧
      ∀ left ∈ held, leg.segment.result = .error (.suspended left.next left.resumeAt) ∧
        left.state = { leg.segment.after with depth := s.depth } ∧
        left.state.active left.suspended = prior + e.legwork leg := by
  obtain ⟨g, closing, hg, rfl, rfl, htells, rfl, hdeeds, hheld⟩ := h.segment hs ht
  obtain ⟨leg, rfl, rfl⟩ : ∃ leg : Leg, leg.world = w ∧ leg.segment = g := ⟨⟨w, g⟩, rfl, rfl⟩
  obtain ⟨htalk, hclosing⟩ := World.answers_append.mp hanswers
  have hopening : leg.world.now leg.opening = leg.world.now [] := hw [] _ id
  have haccounts := hg.accounts hw htalk
  rw [hopening, hprior] at haccounts
  have hsame : Exchange.deeds (Pass.talk leg.segment.log ++ closing)
      = Exchange.deeds (Pass.talk leg.segment.log) := by
    rw [Exchange.deeds_append, hdeeds, List.append_nil]
  refine ⟨leg, rfl, hg, rfl, rfl, htells, hsame, haccounts, fun left hleft => ?_⟩
  obtain ⟨hr, hstate, rest, rfl⟩ := hheld left hleft
  have hactive := hg.active_suspended hw htalk hr
  rw [hopening, hprior] at hactive
  have hsuspended : left.suspended = leg.world.now (leg.opening ++ Pass.talk leg.segment.log) :=
    hclosing.clock
  refine ⟨hr, hstate, ?_⟩
  rw [hstate, hsuspended]
  exact hactive

/-- What is restored of a suspended run has the active time that was left. -/
theorem active_revive (s : RunState Rat) (suspended woken : Nat) :
    (s.revive suspended woken).active woken = s.active suspended := by
  rw [RunState.revive_eq_wake, active_eq]
  change s.active suspended + ((woken : Rat) / 1000000 - (woken : Rat) / 1000000) - 0 = _
  ring

/-- The legs of a run that is stored at its suspensions. The induction is on the results, one for
each leg: a leg begins with the active time of the legs before it. -/
theorem storedIn_legs {begin : Nat → RunState Rat}
    (hbegin : ∀ reading, Time.Stamp.InCalendar (e.stamp reading).wall → (begin reading).Settled)
    (hprior : ∀ reading, (begin reading).active reading = prior) (hws : ∀ w ∈ ws, w.Prompt)
    (ht : e.OnCalendar t)
    (h : e.StoredIn ws (Dialogue.clock >>= fun reading => e.execute (begin reading) start) t
      results) :
    ∃ (legs : List Leg) (reading : Nat), Time.Stamp.InCalendar (e.stamp reading).wall ∧
      legs.map (·.world) = ws ∧ e.Chain (begin reading) start (legs.map (·.segment)) ∧
      List.Forall₂ Segment.Tells (legs.map (·.segment)) results ∧
      Exchange.deeds t = Segment.deeds (legs.map (·.segment)) ∧ e.AccountsAll prior legs := by
  induction results generalizing ws t begin start prior with
  | nil => cases h
  | cons result results ih =>
    cases h with
    | last h hw =>
      obtain ⟨t', rfl, hexecute, hanswers⟩ := course_in_world h hw
      have hcalendar := ht _ List.mem_cons_self
      obtain ⟨held, hgoes⟩ := execute_course.mp hexecute
      obtain ⟨leg, rfl, hdoes, rfl, hbefore, htells, hdeeds, haccounts, -⟩ :=
        hgoes.leg (hbegin _ hcalendar) ht.tail (hws _ List.mem_cons_self) hanswers (hprior _)
      refine ⟨[leg], _, hcalendar, rfl, hbefore ▸ .last hdoes, .cons htells .nil, ?_,
        haccounts.all (accountsAll_nil _)⟩
      rw [Exchange.deeds_clock, hdeeds]
      exact (List.append_nil _).symm
    | resumed h hw hc hreload hrest =>
      obtain ⟨t', rfl, hexecute, hanswers⟩ := course_in_world h hw
      have hcalendar := ht _ List.mem_cons_self
      obtain ⟨held, hgoes, hsettled, hresume, heq⟩ :=
        held_of_stored (hbegin _ hcalendar) ht.left.tail hexecute hc hreload
      obtain ⟨leg, rfl, hdoes, rfl, hbefore, htells, hdeeds, haccounts, hleft⟩ :=
        hgoes.leg (hbegin _ hcalendar) ht.left.tail (hws _ List.mem_cons_self) hanswers (hprior _)
      obtain ⟨hr, hstate, hactive⟩ := hleft held rfl
      rw [heq] at hrest
      obtain ⟨legs, woken, -, hworlds, hchain, htold, hrestdeeds, hrestaccounts⟩ :=
        ih (fun woken _ => hsettled.revive held.suspended woken)
          (fun woken => (active_revive held.state held.suspended woken).trans hactive)
          (fun w hw => hws w (List.mem_cons_of_mem _ hw)) ht.right hrest
      refine ⟨leg :: legs, _, hcalendar, by rw [List.map_cons, hworlds], ?_, .cons htells htold, ?_,
        haccounts.all hrestaccounts⟩
      · rw [← hbefore]
        exact .of_held hdoes hr hstate hsettled hresume hchain
      · rw [Exchange.deeds_append, Exchange.deeds_clock, hdeeds, hrestdeeds]
        rfl

end Runs

/-- Active time leaves out every pause. Where only calls and waiting take time, it is at each check
what the runs of executors have taken, in all segments so far: no more is counted of a segment, and
nothing of the time between two of them. So no node starts once this is beyond the budget, and no
run fails for want of time while it is within. -/
theorem active_leaves_out_pauses {σ : Type} [Schema.Source σ] {x y : σ} {d : Definition}
    {event : Event} {runId : String} {ws : List World}
    {results : List (Except Escape (RunResult Rat))} (hd : Definition.codec.read x = .ok d)
    (hvalid : d.Valid) (hevent : Event.codec.read y = .ok event) (hws : ∀ w ∈ ws, w.Prompt)
    (ht : e.OnCalendar t) (h : e.StoredIn ws (e.run d event runId) t results) :
    ∃ legs : List Leg, legs.map (·.world) = ws ∧ e.Story d event runId (legs.map (·.segment)) ∧
      List.Forall₂ Segment.Tells (legs.map (·.segment)) results ∧
      Exchange.deeds t = Segment.deeds (legs.map (·.segment)) ∧
      ∀ pre leg post, legs = pre ++ leg :: post → e.Accounts (pre.map e.legwork).sum leg := by
  have hwell := Definition.codec_ensures.of_read x d hd
  have hstorable := Event.codec_ensures.of_read y event hevent
  obtain ⟨entry, hentry⟩ := hvalid.sound.exists_entry
  rw [run_valid hvalid hentry] at h
  have hopening (reading : Nat) :
      (e.opening d event runId reading : RunState Rat).active reading = 0 := by
    rw [active_eq]
    change (0 : Rat) + ((reading : Rat) / 1000000 - (reading : Rat) / 1000000) - 0 = 0
    ring
  obtain ⟨legs, reading, hreading, hworlds, hchain, htells, hdeeds, haccounts⟩ :=
    storedIn_legs (fun reading => opening_settled hwell hstorable) hopening hws ht h
  refine ⟨legs, hworlds, ⟨entry, reading, hentry, hreading, hchain⟩, htells, hdeeds,
    fun pre leg post hsplit => ?_⟩
  have hleg := haccounts pre leg post hsplit
  rw [zero_add] at hleg
  exact hleg

end Engine

/-! ## Notes with pauses between them -/

/-- A definition of three notes, with a short pause and a long one after the first. -/
def Definition.notesApart : Definition where
  name := "Notes"
  trigger := { kind := .manual }
  actions :=
    [{ id := "first", nextAction := some "short",
       work := .action (.addNote { targetId := "lead-1", text := "hello" }) },
     { id := "short", nextAction := some "long",
       work := .delay { duration := 1, unit := .minutes } },
     { id := "long", nextAction := some "second",
       work := .delay { duration := 10, unit := .minutes } },
     { id := "second", nextAction := some "third",
       work := .action (.addNote { targetId := "lead-1", text := "again" }) },
     { id := "third", work := .action (.addNote { targetId := "lead-1", text := "bye" }) }]

theorem Definition.notesApart_wellFormed : Definition.notesApart.WellFormed where
  name_ne := by decide
  name_le := by decide
  trigger := by rintro _ ⟨⟩
  nodes := by
    have hshort : (Work.delay { duration := 1, unit := .minutes }).WellFormed := by
      change (!((1 : Float) < 0)) = true
      decide
    have hlong : (Work.delay { duration := 10, unit := .minutes }).WellFormed := by
      change (!((10 : Float) < 0)) = true
      decide
    exact List.forall_mem_cons.mpr ⟨⟨by decide, trivial⟩, List.forall_mem_cons.mpr
      ⟨⟨by decide, hshort⟩, List.forall_mem_cons.mpr ⟨⟨by decide, hlong⟩, List.forall_mem_cons.mpr
        ⟨⟨by decide, trivial⟩, List.forall_mem_singleton.mpr ⟨by decide, trivial⟩⟩⟩⟩⟩

instance : DecidablePred Request.Lasts
  | .clock | .aborted _ => .isFalse id
  | .sleep _ | .call _ _ => .isTrue trivial

/-- A world in which each call and each wait takes a second, and no call is answered. -/
def World.ticking : World
  | past, .clock => 1000000 * past.countP fun x => decide x.request.Lasts
  | _, .aborted _ => false
  | _, .sleep _ => .ok ()
  | _, .call _ _ => none

theorem World.ticking_prompt : World.ticking.Prompt := by
  intro past x hx
  have hcount : [x].countP (fun x => decide x.request.Lasts) = 0 := by simp [hx]
  change 1000000 * (past ++ [x]).countP _ = 1000000 * past.countP _
  rw [List.countP_append, hcount, Nat.add_zero]

namespace Engine

theorem OnCalendar.of_all
    (h : t.all (fun
      | ⟨.clock, reading⟩ => decide (Time.Stamp.InCalendar (e.stamp reading).wall)
      | _ => true) = true) : e.OnCalendar t :=
  fun _ hmem => of_decide_eq_true (List.all_eq_true.mp h _ hmem)

/-- An engine that suspends a run at pauses of five minutes, and has it active for seven seconds. -/
def hasty : Engine := { patient with suspendFrom := some 300, maxActive := .float 7 }

/-- What a segment comes to in the ticking world. -/
def tickingTold (segment : Dialogue (Except Escape (RunResult Rat))) : RunResult Rat :=
  (segment.lived .ticking []).2.toOption.getD default

/-- Each note is tried three times, with two pauses between the attempts: five seconds. After the
second one the run is beyond its budget, and the pauses have not been counted. -/
theorem notesApart_active :
    let d := Definition.notesApart
    Definition.codec.read (Definition.codec.write .wire d) = .ok d ∧ d.Valid ∧
      Event.codec.read (Event.codec.write .wire .manual) = .ok .manual ∧
      (∀ w ∈ [World.ticking, .ticking], w.Prompt) ∧
      ∃ (t : List Exchange) (first second : RunResult Rat) (legs : List Leg), hasty.OnCalendar t ∧
        hasty.StoredIn [.ticking, .ticking] (hasty.run d .manual "run-1") t
          [.ok first, .ok second] ∧
        first.status = .suspended ∧
        second.stepResults.map (·.nodeId) = ["first", "short", "long", "second"] ∧
        second.error = some "Run exceeded its duration budget (7.0)" ∧
        legs.map (·.world) = [.ticking, .ticking] ∧
        hasty.Story d .manual "run-1" (legs.map (·.segment)) ∧
        ∀ pre leg post, legs = pre ++ leg :: post →
          hasty.Accounts (pre.map hasty.legwork).sum leg := by
  intro d
  have hread : Definition.codec.read (Definition.codec.write .wire d) = .ok d :=
    (Definition.codec_restores Definition.notesApart_wellFormed).read
  have hvalid : d.Valid := by decide +kernel
  have hevent : Event.codec.read (Event.codec.write .wire .manual) = .ok .manual :=
    (Event.codec_restores (by rintro _ ⟨⟩)).read
  have hprompt : ∀ w ∈ [World.ticking, .ticking], w.Prompt := by
    intro w hw
    obtain rfl : w = .ticking := by simpa using hw
    exact World.ticking_prompt
  let run : Dialogue (Except Escape (RunResult Rat)) := hasty.run d .manual "run-1"
  let left : Continuation Rat := (tickingTold run).continuation.getD default
  let rest : Dialogue (Except Escape (RunResult Rat)) := hasty.resume left
  have htold : (run.lived .ticking []).2 = .ok (tickingTold run) := by decide +kernel
  have hrest : (rest.lived .ticking []).2 = .ok (tickingTold rest) := by decide +kernel
  have hleft : (tickingTold run).continuation = some left := by decide +kernel
  have hreload : left.reload = .ok left :=
    (Continuation.codec_restores (by decide +kernel) (by decide +kernel)).read
  have hlast : hasty.StoredIn [.ticking] rest (rest.lived .ticking []).1 [.ok (tickingTold rest)] :=
    .last (hrest ▸ Dialogue.lived_course .ticking [] rest) (Dialogue.lived_answers .ticking [] rest)
  have hstored : hasty.StoredIn [.ticking, .ticking] run _
      [.ok (tickingTold run), .ok (tickingTold rest)] :=
    .resumed (htold ▸ Dialogue.lived_course .ticking [] run)
      (Dialogue.lived_answers .ticking [] run) hleft hreload hlast
  have hcalendar :
      hasty.OnCalendar ((run.lived .ticking []).1 ++ (rest.lived .ticking []).1) :=
    .of_all (by decide +kernel)
  obtain ⟨legs, hworlds, hstory, -, -, haccounts⟩ :=
    active_leaves_out_pauses hread hvalid hevent hprompt hcalendar hstored
  exact ⟨hread, hvalid, hevent, hprompt, _, _, _, legs, hcalendar, hstored, by decide +kernel,
    by decide +kernel, by decide +kernel, hworlds, hstory, haccounts⟩

end Engine

end Automation
