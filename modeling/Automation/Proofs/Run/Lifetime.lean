import Automation.Proofs.Run.Check
import Automation.Proofs.Run.Story
import Automation.Proofs.Run.World

/-!
# The lifetime of a run

What a run asks and comes to in a world that answers it, from its start through every resume. The
segments are those that the machine does, each with what is told of it at its end.
-/

namespace Automation

variable {τ : Type} [ActiveTime τ] {e : Engine} {s s' : RunState τ} {t : List Exchange}

namespace Exchange

theorem deeds_clocks (h : ∀ x ∈ t, x.IsClock) : deeds t = [] := by
  refine List.filter_eq_nil_iff.mpr fun x hx => ?_
  rw [h x hx]
  simp

end Exchange

namespace Engine

/-! ## Segments and resumes -/

/-- The continuation that a segment has left in the store, if it has left any. -/
def leftIn (result : Except Escape (RunResult τ)) : Option (Continuation τ) :=
  match result.toOption.bind (·.continuation) with
  | none => none
  | some c => c.reload.toOption

/-- The exchanges of a run and the results of its segments in a world, from a segment on and after
some exchanges. The run is resumed so often at most. -/
def lives (e : Engine) (w : World) : Nat → List Exchange →
    Dialogue (Except Escape (RunResult τ)) →
    List Exchange × List (Except Escape (RunResult τ))
  | 0, past, segment => ((segment.lived w past).1, [(segment.lived w past).2])
  | resumes + 1, past, segment =>
    let (t, result) := segment.lived w past
    match leftIn result with
    | none => (t, [result])
    | some c =>
      let (t', results) := e.lives w resumes (past ++ t) (e.resume c)
      (t ++ t', result :: results)

/-- All that a run asks and comes to in a world, if it is resumed so often at most. -/
def lifetime (e : Engine) (w : World) (resumes : Nat) (d : Definition) (event : Event)
    (runId : String) : List Exchange × List (Except Escape (RunResult τ)) :=
  e.lives w resumes [] (e.run d event runId)

/-- The steps of a run: its last result has them all. -/
def lastSteps (results : List (Except Escape (RunResult τ))) : List StepResult :=
  match results.getLast? with
  | some (.ok told) => told.stepResults
  | _ => []

/-- A world whose clock stands at a moment of the calendar answers within it. -/
theorem OnCalendar.of_answers {w : World} {past : List Exchange} (reading : Nat)
    (hclock : ∀ past, w past .clock = reading)
    (hreading : Time.Stamp.InCalendar (e.stamp reading).wall) (h : w.Answers past t) :
    e.OnCalendar t := by
  intro reading' hmem
  obtain ⟨pre, post, rfl⟩ := List.append_of_mem hmem
  obtain ⟨-, hanswer, -⟩ := World.answers_append.mp h
  obtain rfl : reading' = reading := hanswer.trans (hclock _)
  exact hreading

section Lives

variable {w : World} {past : List Exchange} {resumes : Nat}
  {segment : Dialogue (Except Escape (RunResult τ))}

theorem lives_stored (w : World) (resumes : Nat) (past : List Exchange)
    (segment : Dialogue (Except Escape (RunResult τ))) :
    e.Stored segment (e.lives w resumes past segment).1 (e.lives w resumes past segment).2 := by
  induction resumes generalizing past segment with
  | zero => exact .last (Dialogue.lived_course w past segment)
  | succ resumes ih =>
    have hcourse := Dialogue.lived_course w past segment
    unfold lives
    generalize segment.lived w past = course at hcourse
    obtain ⟨t, result⟩ := course
    dsimp only
    split
    · exact .last hcourse
    · rename_i c hleft
      unfold leftIn at hleft
      split at hleft
      · cases hleft
      · rename_i c' hc
        obtain ⟨told, htold, hcont⟩ := Option.bind_eq_some_iff.mp hc
        rw [Except.toOption_eq_some.mp htold] at hcourse ⊢
        refine .resumed hcourse hcont ?_ (ih _ _)
        cases hreload : c'.reload with
        | ok c'' =>
          rw [hreload] at hleft
          cases hleft
          rfl
        | bad issues =>
          rw [hreload] at hleft
          cases hleft

theorem lives_answers (w : World) (resumes : Nat) (past : List Exchange)
    (segment : Dialogue (Except Escape (RunResult τ))) :
    w.Answers past (e.lives w resumes past segment).1 := by
  induction resumes generalizing past segment with
  | zero => exact Dialogue.lived_answers w past segment
  | succ resumes ih =>
    have hanswers := Dialogue.lived_answers w past segment
    rw [lives]
    dsimp only
    split
    · exact hanswers
    · exact World.answers_append.mpr ⟨hanswers, ih _ _⟩

/-- What is asked in the first segment is asked first. -/
theorem lives_prefix : (segment.lived w past).1 <+: (e.lives w resumes past segment).1 := by
  cases resumes with
  | zero => exact List.prefix_rfl
  | succ resumes =>
    rw [lives]
    dsimp only
    split
    · exact List.prefix_rfl
    · exact List.prefix_append _ _

theorem lives_clock {f : Nat → Dialogue (Except Escape (RunResult τ))} :
    e.lives w resumes past (Dialogue.clock >>= f) =
      (⟨.clock, w past .clock⟩ ::
          (e.lives w resumes (past ++ [⟨.clock, w past .clock⟩]) (f (w past .clock))).1,
        (e.lives w resumes (past ++ [⟨.clock, w past .clock⟩]) (f (w past .clock))).2) := by
  have hlived : (Dialogue.clock >>= f).lived w past =
      (⟨.clock, w past .clock⟩ ::
          ((f (w past .clock)).lived w (past ++ [⟨.clock, w past .clock⟩])).1,
        ((f (w past .clock)).lived w (past ++ [⟨.clock, w past .clock⟩])).2) := rfl
  cases resumes with
  | zero =>
    unfold lives
    rw [hlived]
  | succ resumes =>
    unfold lives
    rw [hlived]
    generalize (f (w past .clock)).lived w (past ++ [⟨.clock, w past .clock⟩]) = course
    obtain ⟨t, result⟩ := course
    dsimp only
    split
    · rfl
    · rw [List.append_assoc]
      rfl

end Lives

/-! ### Segments in worlds -/

/-- A segment that ended with a result in a state is told. -/
def conclude (e : Engine) (r : Except Halt Unit) (s : RunState τ) :
    Dialogue (Except Escape (RunResult τ)) :=
  match r with
  | .ok () => e.close s .success none none
  | .error (.suspended next resumeAt) =>
    Dialogue.clock >>= fun reading =>
      e.close s .suspended none (some (continuationOf s next resumeAt reading))
  | .error halt => e.close s .failed (some halt.message) none

theorem execute_conclude (start : Option String) :
    e.execute s start = ((e.walk (e.fuel s.stepsVisited) start s.context.locals true).run s :
      Dialogue (Except Halt Unit × RunState τ)) >>= fun ended => e.conclude ended.1 ended.2 := by
  unfold execute conclude
  refine congrArg (_ >>= ·) (funext fun ended => ?_)
  obtain ⟨r, s'⟩ := ended
  rfl

theorem conclude_only (r : Except Halt Unit) (s : RunState τ) :
    (e.conclude r s).Only (· = .clock) := by
  have hclose : ∀ status error continuation,
      (e.close s status error continuation).Only (· = .clock) := fun _ _ _ =>
    (Dialogue.only_request (P := (· = .clock)) rfl).bind fun _ => Dialogue.only_pure _
  unfold conclude
  split
  · exact hclose _ _ _
  · exact (Dialogue.only_request (P := (· = .clock)) rfl).bind fun _ => hclose _ _ _
  · exact hclose _ _ _

/-- What is told of a segment that the machine has done, and what it leaves in the store. -/
theorem conclude_told [ActiveTime.Storable τ] {g : Segment τ} {depth : Nat}
    {result : Except Escape (RunResult τ)} (hg : e.DoesSegment g) (hs : g.after.Settled)
    (h : (e.conclude g.result { g.after with depth }).Course t result) :
    g.Tells result ∧
      ((∃ next resumeAt reading, g.result = .error (.suspended next resumeAt) ∧
          leftIn result = some (continuationOf g.after next resumeAt reading)) ∨
        ((∀ next resumeAt, g.result ≠ .error (.suspended next resumeAt)) ∧
          leftIn result = none)) := by
  have hpasses := hg.passes
  unfold conclude at h
  unfold Segment.Tells Segment.verdict
  split at h <;> rename_i hr <;> rw [hr]
  · obtain ⟨reading, told, -, rfl, hcont, hstatus, herror, hsteps⟩ := close_result hs.offset h
    refine ⟨⟨told, rfl, hsteps, by rw [hstatus, herror]⟩, .inr ⟨nofun, ?_⟩⟩
    simp [leftIn, Except.toOption, hcont]
  · rename_i next resumeAt
    obtain ⟨reading, t₁, t₂, -, -, hclose⟩ := Dialogue.course_bind.mp h
    obtain ⟨_, told, -, rfl, hcont, hstatus, herror, hsteps⟩ := close_result hs.offset hclose
    refine ⟨⟨told, rfl, hsteps, by rw [hstatus, herror]⟩, .inl ⟨next, resumeAt, reading, rfl, ?_⟩⟩
    rw [hr] at hpasses
    have hreload : (continuationOf g.after next resumeAt reading).reload
        = .ok (continuationOf g.after next resumeAt reading) :=
      reload_continuationOf hs.startedAt hpasses.suspended.1
    have hsame : told.continuation = some (continuationOf g.after next resumeAt reading) := hcont
    simp [leftIn, Except.toOption, hsame, hreload, Schema.Checked.toOption]
  · rename_i halt hne
    obtain ⟨reading, told, -, rfl, hcont, hstatus, herror, hsteps⟩ := close_result hs.offset h
    have hnot : ∀ next resumeAt, halt ≠ .suspended next resumeAt := fun next resumeAt heq =>
      hne next resumeAt (heq ▸ rfl)
    refine ⟨⟨told, rfl, hsteps, ?_⟩, .inr ⟨fun next resumeAt heq => ?_, ?_⟩⟩
    · rw [hstatus, herror]
      cases halt with
      | suspended next resumeAt => exact absurd rfl (hnot next resumeAt)
      | _ => rfl
    · exact hnot next resumeAt (Except.error.inj heq)
    · simp [leftIn, Except.toOption, hcont]

/-- A segment of a run in a world, as the machine does it: its exchanges, and those with which it is
told. -/
structure Lived (e : Engine) (w : World) (past : List Exchange) (s : RunState τ)
    (start : Option String) (g : Segment τ) (closing : List Exchange)
    (result : Except Escape (RunResult τ)) : Prop where
  start : g.start = start
  before : g.before = s
  does : e.DoesSegment g
  answers : w.Answers past (Pass.talk g.log)
  concluded : (e.conclude g.result { g.after with depth := s.depth }).lived w
    (past ++ Pass.talk g.log) = (closing, result)

/-- A segment in a world is its walk, which the machine does, and then what is told of it. -/
theorem execute_lived {w : World} {past : List Exchange} {start : Option String}
    (ht : e.OnCalendar ((e.execute s start).lived w past).1) :
    ∃ g closing result, e.Lived w past s start g closing result ∧
      (e.execute s start).lived w past = (Pass.talk g.log ++ closing, result) := by
  rw [execute_conclude, Dialogue.lived_bind] at ht ⊢
  have hwalk := Dialogue.lived_course w past
    ((e.walk (e.fuel s.stepsVisited) start s.context.locals true).run s)
  have hanswers := Dialogue.lived_answers w past
    ((e.walk (e.fuel s.stepsVisited) start s.context.locals true).run s)
  generalize ((e.walk (e.fuel s.stepsVisited) start s.context.locals true).run s :
    Dialogue (Except Halt Unit × RunState τ)).lived w past = walked at ht hwalk hanswers ⊢
  obtain ⟨t, r, s'⟩ := walked
  obtain ⟨log, s'', hp, rfl, rfl⟩ := walks_passes hwalk
  exact ⟨⟨start, s, log, r, s''⟩, _, _, ⟨rfl, rfl, ⟨hp, ht.left⟩, hanswers, rfl⟩, rfl⟩

section Lived

variable {w : World} {past closing : List Exchange} {start : Option String} {g : Segment τ}
  {result : Except Escape (RunResult τ)}

theorem Lived.clocks (h : e.Lived w past s start g closing result) : ∀ x ∈ closing, x.IsClock := by
  have hcourse := Dialogue.lived_course w (past ++ Pass.talk g.log)
    (e.conclude g.result { g.after with depth := s.depth })
  rw [h.concluded] at hcourse
  exact (conclude_only _ _).mem hcourse

theorem Lived.settled (h : e.Lived w past s start g closing result) (hs : s.Settled) :
    g.before.Settled ∧ g.after.Settled := by
  have hbefore : g.before.Settled := by
    rw [h.before]
    exact hs
  exact ⟨hbefore, h.does.passes.settled hbefore h.does.onCalendar⟩

theorem Lived.told [ActiveTime.Storable τ] (h : e.Lived w past s start g closing result)
    (hs : s.Settled) :
    g.Tells result ∧
      ((∃ next resumeAt reading, g.result = .error (.suspended next resumeAt) ∧
          leftIn result = some (continuationOf g.after next resumeAt reading)) ∨
        ((∀ next resumeAt, g.result ≠ .error (.suspended next resumeAt)) ∧
          leftIn result = none)) := by
  have hcourse := Dialogue.lived_course w (past ++ Pass.talk g.log)
    (e.conclude g.result { g.after with depth := s.depth })
  rw [h.concluded] at hcourse
  exact conclude_told h.does (h.settled hs).2 hcourse

/-- What is read from the store goes on in the restored state. -/
theorem resume_continuationOf {next : Option String} {resumeAt : Time.Stamp} {reading : Nat}
    (hs : s.Settled) :
    e.resume (continuationOf s next resumeAt reading)
      = Dialogue.clock >>= fun woken => e.execute (s.revive reading woken) next :=
  resume_continuation (h := ⟨s, next, resumeAt, reading⟩) hs

/-- A run that ends with a segment has a story of this one. -/
theorem Lived.story [ActiveTime.Storable τ] (h : e.Lived w past s start g closing result)
    (hs : s.Settled) :
    e.Chain s start [g] ∧ List.Forall₂ Segment.Tells [g] [result] ∧
      Exchange.deeds (Pass.talk g.log ++ closing) = Segment.deeds [g] := by
  refine ⟨?_, .cons (h.told hs).1 .nil, ?_⟩
  · rw [← h.before, ← h.start]
    exact .last h.does
  · rw [Exchange.deeds_append, Exchange.deeds_clocks h.clocks]
    rfl

theorem lives_ended {resumes : Nat}
    (h : (e.execute s start).lived w past = (Pass.talk g.log ++ closing, result))
    (hleft : resumes = 0 ∨ leftIn result = none) :
    e.lives w resumes past (e.execute s start) = (Pass.talk g.log ++ closing, [result]) := by
  cases resumes with
  | zero =>
    unfold lives
    rw [h]
  | succ resumes =>
    unfold lives
    rw [h]
    dsimp only
    rw [hleft.resolve_left (Nat.succ_ne_zero resumes)]

theorem lives_resumed (resumes : Nat) {reading : Nat} {next : Option String} {resumeAt : Time.Stamp}
    (h : (e.execute s start).lived w past = (Pass.talk g.log ++ closing, result))
    (hs : g.after.Settled)
    (hleft : leftIn result = some (continuationOf g.after next resumeAt reading)) :
    ∃ woken past', past' = past ++ (Pass.talk g.log ++ closing) ∧ woken = w past' .clock ∧
      e.lives w (resumes + 1) past (e.execute s start) =
        (Pass.talk g.log ++ closing ++ ⟨.clock, woken⟩ ::
            (e.lives w resumes (past' ++ [⟨.clock, woken⟩])
              (e.execute (g.after.revive reading woken) next)).1,
          result :: (e.lives w resumes (past' ++ [⟨.clock, woken⟩])
            (e.execute (g.after.revive reading woken) next)).2) := by
  refine ⟨_, _, rfl, rfl, ?_⟩
  rw [lives, h]
  dsimp only
  rw [hleft]
  dsimp only
  rw [resume_continuationOf hs, lives_clock]

end Lived

theorem lives_ne_nil {w : World} {past : List Exchange} {resumes : Nat}
    {segment : Dialogue (Except Escape (RunResult τ))} :
    (e.lives w resumes past segment).2 ≠ [] := by
  cases resumes with
  | zero => exact List.cons_ne_nil _ _
  | succ resumes =>
    rw [lives]
    dsimp only
    split <;> exact List.cons_ne_nil _ _

omit [ActiveTime τ] in
theorem lastSteps_cons {result : Except Escape (RunResult τ)}
    {results : List (Except Escape (RunResult τ))} (h : results ≠ []) :
    lastSteps (result :: results) = lastSteps results := by
  unfold lastSteps
  rw [List.getLast?_cons_of_ne_nil h]

theorem lived_of_lives {w : World} {past : List Exchange} {resumes : Nat} {start : Option String}
    (ht : e.OnCalendar (e.lives w resumes past (e.execute s start)).1) :
    ∃ g closing result, e.Lived w past s start g closing result ∧
      (e.execute s start).lived w past = (Pass.talk g.log ++ closing, result) := by
  obtain ⟨more, hmore⟩ : ((e.execute s start).lived w past).1 <+:
      (e.lives w resumes past (e.execute s start)).1 := lives_prefix
  rw [← hmore] at ht
  exact execute_lived ht.left

/-- What a segment asks and the steps that it leaves come first in the run that goes on from it. The
induction is on the resumes. -/
theorem lives_extends [ActiveTime.Storable τ] {w : World} {past closing : List Exchange}
    {resumes : Nat} {start : Option String} {g : Segment τ} {result : Except Escape (RunResult τ)}
    (hs : s.Settled) (hg : e.Lived w past s start g closing result)
    (hlived : (e.execute s start).lived w past = (Pass.talk g.log ++ closing, result))
    (ht : e.OnCalendar (e.lives w resumes past (e.execute s start)).1) :
    Pass.talk g.log <+: (e.lives w resumes past (e.execute s start)).1 ∧
      g.after.stepResults <+: lastSteps (e.lives w resumes past (e.execute s start)).2 := by
  induction resumes generalizing s past start g closing result with
  | zero =>
    obtain ⟨⟨told, rfl, hsteps, -⟩, -⟩ := hg.told hs
    rw [lives_ended hlived (.inl rfl)]
    exact ⟨List.prefix_append _ _, hsteps ▸ List.prefix_rfl⟩
  | succ resumes ih =>
    obtain ⟨⟨told, rfl, hsteps, -⟩, ⟨next, resumeAt, reading, hr, hleft⟩ | ⟨-, hleft⟩⟩ := hg.told hs
    · have hafter := (hg.settled hs).2
      obtain ⟨woken, past', -, -, hlives⟩ := lives_resumed resumes hlived hafter hleft
      rw [hlives] at ht ⊢
      have hrevived : (g.after.revive reading woken).Settled := hafter.revive reading woken
      have htail := ht.right.tail
      obtain ⟨g', closing', result', hg', hlived'⟩ := lived_of_lives htail
      refine ⟨by rw [List.append_assoc]; exact List.prefix_append _ _, ?_⟩
      rw [lastSteps_cons lives_ne_nil]
      -- The next segment begins with the steps that were restored, and adds its own behind them.
      refine List.IsPrefix.trans ?_ (ih hrevived hg' hlived' htail).2
      have hcontinues := hg'.does.passes.continues.steps
      rw [hg'.before] at hcontinues
      exact hcontinues
    · rw [lives_ended hlived (.inr hleft)]
      exact ⟨List.prefix_append _ _, hsteps ▸ List.prefix_rfl⟩

end Engine

end Automation
