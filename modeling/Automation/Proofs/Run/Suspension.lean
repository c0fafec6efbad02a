import Automation.Proofs.Definition.Valid
import Automation.Proofs.Run.ExactTime
import Automation.Proofs.Run.Segment

/-!
# Suspension

A run that is suspended is put into the store and goes on later, from what is read there. In memory
it would go on from the state in which it was suspended. The two are told apart by nothing that
anyone can see: the requests of the run, in order, and the results of its segments are the same,
through as many suspensions as there are.
-/

namespace Automation

variable {τ : Type} [ActiveTime τ] {e : Engine} {s s' : RunState τ} {t : List Exchange}

/-! ## Ends of segments -/

/-- A suspended run as it stands in memory. -/
structure Held (τ : Type) where
  state : RunState τ
  /-- The node at which it goes on. -/
  next : Option String
  resumeAt : Time.Stamp
  /-- The reading of the clock at the suspension. -/
  suspended : Nat

/-- What is stored of a suspended run. -/
def Held.continuation (h : Held τ) : Continuation τ :=
  Engine.continuationOf h.state h.next h.resumeAt h.suspended

/-- The state in which a suspended run goes on in memory at a reading of the clock. -/
def Held.wake (h : Held τ) (woken : Nat) : RunState τ := h.state.wake h.suspended woken

/-- The state that is restored when a suspended run goes on at a reading of the clock. -/
def Held.revive (h : Held τ) (woken : Nat) : RunState τ := h.state.revive h.suspended woken

theorem Held.revive_eq_wake [ActiveTime.Exact τ] (h : Held τ) (woken : Nat) :
    h.revive woken = h.wake woken :=
  RunState.revive_eq_wake h.state h.suspended woken

namespace Engine

variable {start : Option String} {result : Except Escape (RunResult τ)} {held : Option (Held τ)}

/-- A segment that ended in a state is told. -/
def close (e : Engine) (s : RunState τ) (status : RunStatus) (error : Option String)
    (continuation : Option (Continuation τ)) : Dialogue (Except Escape (RunResult τ)) :=
  e.finish s.runId s.workflow.id s.startedAt s.stepResults status error continuation

/-- A segment can go from a state and a node through some exchanges to a result, and leave a
suspended run. -/
inductive Goes (e : Engine) (s : RunState τ) (start : Option String) :
    List Exchange → Except Escape (RunResult τ) → Option (Held τ) → Prop where
  | finished {s' : RunState τ} {t t' : List Exchange} {result : Except Escape (RunResult τ)}
      (hw : e.Walks s start t (.ok ()) s') (hc : (e.close s' .success none none).Course t' result) :
      Goes e s start (t ++ t') result none
  | failed {s' : RunState τ} {t t' : List Exchange} {result : Except Escape (RunResult τ)}
      {halt : Halt} (hw : e.Walks s start t (.error halt) s')
      (hne : ∀ next resumeAt, halt ≠ .suspended next resumeAt)
      (hc : (e.close s' .failed (some halt.message) none).Course t' result) :
      Goes e s start (t ++ t') result none
  | suspended (h : Held τ) {t t' : List Exchange} {result : Except Escape (RunResult τ)}
      (hw : e.Walks s start t (.error (.suspended h.next h.resumeAt)) h.state)
      (hc : (e.close h.state .suspended none (some h.continuation)).Course t' result) :
      Goes e s start (t ++ ⟨.clock, h.suspended⟩ :: t') result (some h)

/-- The courses of a segment. -/
theorem execute_course :
    (e.execute s start).Course t result ↔ ∃ held, e.Goes s start t result held := by
  unfold execute
  constructor
  · intro h
    obtain ⟨⟨r, s'⟩, t₁, t₂, rfl, hw, hclose⟩ := Dialogue.course_bind.mp h
    cases r with
    | ok _ => exact ⟨none, .finished hw hclose⟩
    | error halt =>
      cases halt with
      | suspended next resumeAt =>
        obtain ⟨reading, t₃, t₄, rfl, hclock, hc⟩ := Dialogue.course_bind.mp hclose
        obtain rfl := Dialogue.course_clock.mp hclock
        exact ⟨_, .suspended ⟨s', next, resumeAt, reading⟩ hw hc⟩
      | _ => exact ⟨none, .failed hw nofun hclose⟩
  · rintro ⟨held, h⟩
    cases h with
    | finished hw hc => exact Dialogue.course_bind.mpr ⟨_, _, _, rfl, hw, hc⟩
    | @failed s' _ _ _ halt hw hne hc =>
      refine Dialogue.course_bind.mpr ⟨_, _, _, rfl, hw, ?_⟩
      cases halt with
      | suspended next resumeAt => exact absurd rfl (hne next resumeAt)
      | _ => exact hc
    | suspended h hw hc =>
      refine Dialogue.course_bind.mpr ⟨_, _, _, rfl, hw, ?_⟩
      exact Dialogue.course_bind.mpr
        ⟨_, [_], _, rfl, Dialogue.course_clock.mpr rfl, hc⟩

omit [ActiveTime τ] in
/-- The length of a run whose start has an offset can be told. -/
theorem close_result {status : RunStatus} {error : Option String}
    {continuation : Option (Continuation τ)} (hs : s.startedAt.offset = some 0)
    (h : (e.close s status error continuation).Course t result) :
    ∃ (reading : Nat) (told : RunResult τ), t = [⟨.clock, reading⟩] ∧ result = .ok told ∧
      told.continuation = continuation ∧ told.status = status ∧ told.error = error ∧
      told.stepResults = s.stepResults := by
  obtain ⟨reading, t₁, t₂, rfl, hclock, hpure⟩ := Dialogue.course_bind.mp h
  obtain rfl := Dialogue.course_clock.mp hclock
  obtain ⟨rfl, rfl⟩ := Dialogue.course_pure.mp hpure
  unfold elapsedMs
  rw [hs]
  exact ⟨reading, _, rfl, rfl, rfl, rfl, rfl, rfl⟩

/-- A segment that begins in a settled state has a result, and what it leaves is settled and in the
result. -/
theorem Goes.told (h : e.Goes s start t result held) (hs : s.Settled) (ht : e.OnCalendar t) :
    (∃ told, result = .ok told ∧ told.continuation = held.map Held.continuation) ∧
      ∀ h ∈ held, h.state.Settled ∧ h.resumeAt.Storable := by
  cases h with
  | finished hw hc =>
    obtain ⟨_, told, rfl, hresult, hcont, _⟩ :=
      close_result (walks_settled hw hs ht.left).offset hc
    exact ⟨⟨told, hresult, hcont⟩, by rintro _ ⟨⟩⟩
  | failed hw hne hc =>
    obtain ⟨_, told, rfl, hresult, hcont, _⟩ :=
      close_result (walks_settled hw hs ht.left).offset hc
    exact ⟨⟨told, hresult, hcont⟩, by rintro _ ⟨⟩⟩
  | suspended h hw hc =>
    have hsettled := walks_settled hw hs ht.left
    obtain ⟨_, told, rfl, hresult, hcont, _⟩ := close_result hsettled.offset hc
    refine ⟨⟨told, hresult, hcont⟩, ?_⟩
    rintro _ ⟨⟩
    exact ⟨hsettled, walks_suspended hw⟩

/-! ## In the store and in memory -/

/-- A run can go on through some exchanges to the results of its segments, if it is put into the
store at each suspension. The last of the results may be that of a suspension too. -/
inductive Stored (e : Engine) : Dialogue (Except Escape (RunResult τ)) → List Exchange →
    List (Except Escape (RunResult τ)) → Prop where
  | last {segment : Dialogue (Except Escape (RunResult τ))} {t : List Exchange}
      {result : Except Escape (RunResult τ)} (h : segment.Course t result) :
      Stored e segment t [result]
  | resumed {segment : Dialogue (Except Escape (RunResult τ))} {t t' : List Exchange}
      {told : RunResult τ} {results : List (Except Escape (RunResult τ))}
      {c c' : Continuation τ} (h : segment.Course t (.ok told)) (hc : told.continuation = some c)
      (hreload : c.reload = .ok c') (hrest : Stored e (e.resume c') t' results) :
      Stored e segment (t ++ t') (.ok told :: results)

/-- A run can go on through some exchanges to the results of its segments, if it stays in memory
at each suspension. -/
inductive Kept (e : Engine) : RunState τ → Option String → List Exchange →
    List (Except Escape (RunResult τ)) → Prop where
  | last {s : RunState τ} {start : Option String} {t : List Exchange}
      {result : Except Escape (RunResult τ)} {held : Option (Held τ)}
      (h : e.Goes s start t result held) : Kept e s start t [result]
  | woken {s : RunState τ} {start : Option String} {t t' : List Exchange}
      {result : Except Escape (RunResult τ)} {results : List (Except Escape (RunResult τ))}
      {held : Held τ} (woken : Nat) (h : e.Goes s start t result (some held))
      (hrest : Kept e (held.wake woken) held.next t' results) :
      Kept e s start (t ++ ⟨.clock, woken⟩ :: t') (result :: results)

/-- What is read from the store goes on in the restored state. -/
theorem resume_continuation {h : Held τ} (hs : h.state.Settled) :
    e.resume h.continuation
      = Dialogue.clock >>= fun woken => e.execute (h.revive woken) h.next := by
  unfold resume Held.continuation
  simp only [restore_continuationOf hs.toStorable hs.locals]
  rfl

theorem stored_clock {f : Nat → Dialogue (Except Escape (RunResult τ))}
    {results : List (Except Escape (RunResult τ))} :
    e.Stored (Dialogue.clock >>= f) t results ↔
      ∃ (reading : Nat) (t' : _), t = ⟨.clock, reading⟩ :: t' ∧ e.Stored (f reading) t' results := by
  have hclock : ∀ {t result}, (Dialogue.clock >>= f).Course t result ↔
      ∃ (reading : Nat) (t' : _), t = ⟨.clock, reading⟩ :: t' ∧ (f reading).Course t' result :=
    Dialogue.course_ask
  constructor
  · intro h
    cases h with
    | last h =>
      obtain ⟨reading, t', rfl, hf⟩ := hclock.mp h
      exact ⟨reading, t', rfl, .last hf⟩
    | resumed h hc hreload hrest =>
      obtain ⟨reading, t', rfl, hf⟩ := hclock.mp h
      exact ⟨reading, _, rfl, .resumed hf hc hreload hrest⟩
  · rintro ⟨reading, t', rfl, h⟩
    cases h with
    | last hf => exact .last (hclock.mpr ⟨reading, t', rfl, hf⟩)
    | resumed hf hc hreload hrest =>
      exact .resumed (hclock.mpr ⟨reading, _, rfl, hf⟩) hc hreload hrest

/-- What is read from the store where a segment was suspended is what the segment left, and a run
goes on with it in the state that is restored from what was held. -/
theorem held_of_stored [ActiveTime.Storable τ] {told : RunResult τ} {c c' : Continuation τ}
    (hs : s.Settled) (ht : e.OnCalendar t) (h : (e.execute s start).Course t (.ok told))
    (hc : told.continuation = some c) (hreload : c.reload = .ok c') :
    ∃ held : Held τ, e.Goes s start t (.ok told) (some held) ∧ held.state.Settled ∧
      held.resumeAt.Storable ∧
      e.resume c' = Dialogue.clock >>= fun woken => e.execute (held.revive woken) held.next := by
  obtain ⟨held, hgoes⟩ := execute_course.mp h
  obtain ⟨⟨told', htold, hcont⟩, hheld⟩ := hgoes.told hs ht
  cases htold
  cases held with
  | none => simp [hc] at hcont
  | some held =>
    obtain ⟨hsettled, hresume⟩ := hheld held rfl
    obtain rfl : c = held.continuation := Option.some.inj (hc.symm.trans hcont)
    have hsame : held.continuation.reload = .ok held.continuation :=
      reload_continuationOf hsettled.startedAt hresume
    obtain rfl : c' = held.continuation := Schema.Checked.ok.inj (hreload.symm.trans hsame)
    exact ⟨held, hgoes, hsettled, hresume, resume_continuation hsettled⟩

/-- A run that goes on from what was stored goes on from what was held: the continuation that is read
is the one that was left, and the state that is restored from it is settled again. -/
theorem stored_resumed [ActiveTime.Storable τ] {t' : List Exchange} {told : RunResult τ}
    {results : List (Except Escape (RunResult τ))} {c c' : Continuation τ} (hs : s.Settled)
    (ht : e.OnCalendar (t ++ t')) (h : (e.execute s start).Course t (.ok told))
    (hc : told.continuation = some c) (hreload : c.reload = .ok c')
    (hrest : e.Stored (e.resume c') t' results) :
    ∃ (held : Held τ) (woken : Nat) (t'' : List Exchange), e.Goes s start t (.ok told) (some held) ∧
      held.state.Settled ∧ held.resumeAt.Storable ∧ t' = ⟨.clock, woken⟩ :: t'' ∧
      e.OnCalendar t'' ∧ e.Stored (e.execute (held.revive woken) held.next) t'' results := by
  obtain ⟨held, hgoes, hsettled, hresume, heq⟩ := held_of_stored hs ht.left h hc hreload
  rw [heq, stored_clock] at hrest
  obtain ⟨woken, t'', rfl, hrest⟩ := hrest
  exact ⟨held, woken, t'', hgoes, hsettled, hresume, rfl, (OnCalendar.right ht).tail, hrest⟩

/-- The induction is on the results: one segment after the other is the same. -/
theorem stored_iff_kept [ActiveTime.Exact τ] {results : List (Except Escape (RunResult τ))}
    (hs : s.Settled) (ht : e.OnCalendar t) :
    e.Stored (e.execute s start) t results ↔ e.Kept s start t results := by
  induction results generalizing s start t with
  | nil => exact ⟨nofun, nofun⟩
  | cons result results ih =>
    constructor
    · intro h
      cases h with
      | last h =>
        obtain ⟨held, hgoes⟩ := execute_course.mp h
        exact .last hgoes
      | resumed h hc hreload hrest =>
        obtain ⟨held, woken, t'', hgoes, hsettled, -, rfl, htail, hrest⟩ :=
          stored_resumed hs ht h hc hreload hrest
        have hrevived : (held.revive woken).Settled := hsettled.revive held.suspended woken
        have hkept := (ih hrevived htail).mp hrest
        -- The stored active time is the one in memory, as its arithmetic is exact.
        rw [Held.revive_eq_wake] at hkept
        exact .woken woken hgoes hkept
    · intro h
      cases h with
      | last h => exact .last (execute_course.mpr ⟨_, h⟩)
      | @woken _ _ t t' _ _ held woken hgoes hrest =>
        obtain ⟨⟨told, rfl, hcont⟩, hheld⟩ := hgoes.told hs ht.left
        obtain ⟨hsettled, hresume⟩ := hheld held rfl
        have htail := (OnCalendar.right ht).tail
        refine .resumed (execute_course.mpr ⟨_, hgoes⟩) hcont
          (reload_continuationOf hsettled.startedAt hresume) ?_
        change e.Stored (e.resume held.continuation) _ _
        rw [resume_continuation hsettled, stored_clock]
        have hrevived : (held.revive woken).Settled := hsettled.revive held.suspended woken
        refine ⟨woken, t', rfl, (ih hrevived htail).mpr ?_⟩
        rw [Held.revive_eq_wake]
        exact hrest

/-! ## From the start -/

/-- The state in which a run begins at a reading of the clock. -/
def opening (e : Engine) (d : Definition) (event : Event) (runId : String) (reading : Nat) :
    RunState τ :=
  { runId, workflow := d
    context := .create runId event d.id d.tenantId (d.vars.mapValues Value.text) (e.stamp reading)
    startedAt := e.stamp reading, activeBefore := ActiveTime.zero, segmentStart := reading
    paused := ActiveTime.zero }

/-- A definition without problems is walked from its entry. -/
theorem run_valid {d : Definition} {event : Event} {runId : String} {entry : Node}
    (hvalid : d.Valid) (hentry : d.entry? = some entry) :
    (e.run d event runId : Dialogue (Except Escape (RunResult τ)))
      = Dialogue.clock >>= fun reading =>
        e.execute (e.opening d event runId reading) (some entry.id) := by
  unfold run
  simp only [show d.problems = .ok [] from hvalid, hentry]
  rfl

/-- A run of a definition can go through some exchanges to the results of its segments, if it stays
in memory at each suspension. -/
def KeptRun (e : Engine) (d : Definition) (event : Event) (runId : String) (t : List Exchange)
    (results : List (Except Escape (RunResult τ))) : Prop :=
  ∃ (entry : Node) (reading : Nat) (t' : List Exchange), d.entry? = some entry ∧
    t = ⟨.clock, reading⟩ :: t' ∧
    e.Kept (e.opening d event runId reading) (some entry.id) t' results

theorem opening_settled {d : Definition} {event : Event} {runId : String} {reading : Nat}
    (hd : d.WellFormed) (hevent : event.Storable)
    (ht : Time.Stamp.InCalendar (e.stamp reading).wall) :
    (e.opening d event runId reading : RunState τ).Settled :=
  ⟨⟨hd, hevent, rfl, stamp_storable ht, fun _ h => absurd h List.not_mem_nil⟩, rfl, rfl⟩

/-- Suspension changes nothing: what a run asks and what it comes to is the same, be it stored at
each suspension and read again, or kept in memory. -/
theorem suspension_transparent [ActiveTime.Exact τ] {σ : Type} [Schema.Source σ] {x y : σ}
    {d : Definition} {event : Event} {runId : String}
    {results : List (Except Escape (RunResult τ))} (hd : Definition.codec.read x = .ok d)
    (hvalid : d.Valid) (hevent : Event.codec.read y = .ok event) (ht : e.OnCalendar t) :
    e.Stored (e.run d event runId) t results ↔ e.KeptRun d event runId t results := by
  obtain ⟨entry, hentry⟩ := hvalid.sound.exists_entry
  have hwell := Definition.codec_ensures.of_read x d hd
  have hstorable := Event.codec_ensures.of_read y event hevent
  rw [run_valid hvalid hentry, stored_clock]
  constructor
  · rintro ⟨reading, t', rfl, h⟩
    have hs : (e.opening d event runId reading : RunState τ).Settled :=
      opening_settled hwell hstorable (ht reading List.mem_cons_self)
    exact ⟨entry, reading, t', hentry, rfl, (stored_iff_kept hs ht.tail).mp h⟩
  · rintro ⟨entry', reading, t', hentry', rfl, h⟩
    obtain rfl : entry' = entry := Option.some.inj (hentry'.symm.trans hentry)
    have hs : (e.opening d event runId reading : RunState τ).Settled :=
      opening_settled hwell hstorable (ht reading List.mem_cons_self)
    exact ⟨reading, t', rfl, (stored_iff_kept hs ht.tail).mpr h⟩

end Engine

/-! ## Two pauses that suspend a run -/

/-- A definition of two pauses of no length. -/
def Definition.pauses : Definition where
  name := "Pauses"
  trigger := { kind := .callCompleted }
  actions :=
    [{ id := "first", nextAction := some "second",
       work := .delay { duration := 0, unit := .minutes } },
     { id := "second", work := .delay { duration := 0, unit := .minutes } }]

theorem Definition.pauses_wellFormed : Definition.pauses.WellFormed where
  name_ne := by decide
  name_le := by decide
  trigger := by rintro _ ⟨⟩
  nodes := by
    have hwork : (Work.delay { duration := 0, unit := .minutes }).WellFormed := by
      change (!((0 : Float) < 0)) = true
      decide
    exact List.forall_mem_cons.mpr
      ⟨⟨by decide, hwork⟩, List.forall_mem_singleton.mpr ⟨by decide, hwork⟩⟩

namespace Engine

/-- An engine whose clock starts with the year 1970, and that suspends a run at every pause. -/
def patient : Engine :=
  { origin := 0, places := ⟨""⟩, watchesAborts := false, suspendFrom := some 0 }

/-- What a segment comes to where no time passes. -/
def stillResult (segment : Dialogue (Except Escape (RunResult Rat))) : RunResult Rat :=
  (segment.answered Dialogue.still).2.toOption.getD default

/-- What a segment leaves where no time passes. -/
def stillLeft (segment : Dialogue (Except Escape (RunResult Rat))) : Continuation Rat :=
  (stillResult segment).continuation.getD default

theorem stored_still {segment : Dialogue (Except Escape (RunResult Rat))} {t : List Exchange}
    {results : List (Except Escape (RunResult Rat))}
    (htold : (segment.answered Dialogue.still).2 = .ok (stillResult segment))
    (hleft : (stillResult segment).continuation = some (stillLeft segment))
    (hresume : (stillLeft segment).resumeAt.Storable)
    (hstart : (stillLeft segment).startedAt.Storable)
    (hrest : patient.Stored (patient.resume (stillLeft segment)) t results) :
    patient.Stored segment ((segment.answered Dialogue.still).1 ++ t)
      (.ok (stillResult segment) :: results) := by
  have hcourse := Dialogue.course_answered Dialogue.still segment
  rw [htold] at hcourse
  exact .resumed hcourse hleft (Continuation.codec_restores hresume hstart).read hrest

theorem pauses_transparent :
    let d := Definition.pauses
    Definition.codec.read (Definition.codec.write .wire d) = .ok d ∧ d.Valid ∧
      Event.codec.read (Event.codec.write .wire .manual) = .ok .manual ∧
      ∃ (t : List Exchange) (first second third : RunResult Rat), patient.OnCalendar t ∧
        [first.status, second.status, third.status] = [.suspended, .suspended, .success] ∧
        patient.Stored (patient.run d .manual "run-1") t [.ok first, .ok second, .ok third] ∧
        patient.KeptRun d .manual "run-1" t [.ok first, .ok second, .ok third] := by
  intro d
  have hread : Definition.codec.read (Definition.codec.write .wire d) = .ok d :=
    (Definition.codec_restores Definition.pauses_wellFormed).read
  have hvalid : d.Valid := by decide +kernel
  have hevent : Event.codec.read (Event.codec.write .wire .manual) = .ok .manual :=
    (Event.codec_restores (by rintro _ ⟨⟩)).read
  let run : Dialogue (Except Escape (RunResult Rat)) := patient.run d .manual "run-1"
  let again := patient.resume (stillLeft run)
  let last := patient.resume (stillLeft again)
  have hlast : patient.Stored last (last.answered Dialogue.still).1 [.ok (stillResult last)] := by
    have hcourse := Dialogue.course_answered Dialogue.still last
    rw [show (last.answered Dialogue.still).2 = .ok (stillResult last) by decide +kernel] at hcourse
    exact .last hcourse
  have hagain : patient.Stored again _ [.ok (stillResult again), .ok (stillResult last)] :=
    stored_still (by decide +kernel) (by decide +kernel)
    (by decide +kernel) (by decide +kernel) hlast
  have hstored : patient.Stored run _
      [.ok (stillResult run), .ok (stillResult again), .ok (stillResult last)] :=
    stored_still (by decide +kernel) (by decide +kernel)
    (by decide +kernel) (by decide +kernel) hagain
  have hcalendar : patient.OnCalendar ((run.answered Dialogue.still).1 ++
      ((again.answered Dialogue.still).1 ++ (last.answered Dialogue.still).1)) := by
    refine .of_world (show Dialogue.still .clock = (0 : Nat) from rfl) (by decide) fun x hx => ?_
    rcases List.mem_append.mp hx with hx | hx
    · exact Dialogue.answered_mem hx
    · rcases List.mem_append.mp hx with hx | hx <;> exact Dialogue.answered_mem hx
  have hkept := (suspension_transparent hread hvalid hevent hcalendar).mp hstored
  exact ⟨hread, hvalid, hevent, _, _, _, _, hcalendar, by decide +kernel, hstored, hkept⟩

end Engine

end Automation
