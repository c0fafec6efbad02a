import Automation.Proofs.Run.Budget
import Automation.Proofs.Run.Key
import Automation.Proofs.Run.Lifetime

/-!
# Two runs side by side

A run is followed beside one that has fewer steps or is answered differently. As long as nothing stops
the second run, both do the same, segment by segment; and when it is stopped, what it has done comes
first in what the other one does.
-/

namespace Automation

variable {τ : Type} [ActiveTime τ] {e : Engine} {s s' : RunState τ} {t : List Exchange}

/-- The calls among some exchanges. -/
def Exchange.calls (t : List Exchange) : List Call := t.filterMap Exchange.call?

namespace Exchange

@[simp] theorem calls_append (t₁ t₂ : List Exchange) : calls (t₁ ++ t₂) = calls t₁ ++ calls t₂ :=
  List.filterMap_append

theorem calls_clocks (h : ∀ x ∈ t, x.IsClock) : calls t = [] := by
  refine List.filterMap_eq_nil_iff.mpr fun x hx => ?_
  unfold call?
  rw [h x hx]

end Exchange

/-- An engine like another one, with so many steps. -/
def Engine.limited (e : Engine) (limit : Int) : Engine := { e with maxSteps := limit }

/-! ## Side by side -/

/-- A pass is stopped by a halt, at a node that would be one more than so many. -/
structure Pass.Stopped (p : Pass τ) (halt : Halt) (n : Nat) : Prop where
  result : p.result = .error halt
  after : p.after = p.before
  visited : p.before.stepsVisited = n
  silent : Exchange.calls p.exchanges = []

namespace Engine

/-- A run in a world and one with a limit of steps in another go side by side, up to where a halt
stops the second. What holds of what was asked and of the state of both is carried along. -/
structure Lockstep (e : Engine) (limit : Int) (w w' : World) (halt : Halt) (n : Nat)
    (I : List Exchange → RunState τ → Prop) : Prop where
  clock : ∀ past, w' past .clock = w past .clock
  step : ∀ past (p p' : Pass τ), I past p.before → e.Does p → (e.limited limit).Does p' →
    p'.errand = p.errand → p'.before = p.before →
    w.Answers past p.exchanges → w'.Answers past p'.exchanges →
    (p' = p ∧ (GoesOn p.result → I (past ++ p.exchanges) p.after)) ∨ p'.Stopped halt n
  never : ∀ past (p : Pass τ), e.Does p → w.Answers past p.exchanges → p.result ≠ .error halt
  ends : ∀ next resumeAt, halt ≠ .suspended next resumeAt
  resumed : ∀ past (s : RunState τ) clocks suspended woken, I past s → (∀ x ∈ clocks, x.IsClock) →
    I (past ++ clocks) (s.revive suspended woken)

namespace Lockstep

variable {limit : Int} {w w' : World} {halt : Halt} {n : Nat}
  {I : List Exchange → RunState τ → Prop} {past : List Exchange}

/-- A segment of the second run is that of the first, or it stops early. -/
theorem segment (h : e.Lockstep limit w w' halt n I) {g g' : Segment τ} (hg : e.DoesSegment g)
    (hg' : (e.limited limit).DoesSegment g') (hstart : g'.start = g.start)
    (hbefore : g'.before = g.before) (hi : I past g.before) (hw : w.Answers past (Pass.talk g.log))
    (hw' : w'.Answers past (Pass.talk g'.log)) :
    (g' = g ∧ g.result ≠ .error halt ∧
        (GoesOn g.result → I (past ++ Pass.talk g.log) g.after)) ∨
      (g'.result = .error halt ∧ g'.after.stepsVisited = n ∧
        Exchange.calls (Pass.talk g'.log) <+: Exchange.calls (Pass.talk g.log) ∧
        g'.after.stepResults <+: g.after.stepResults) := by
  obtain ⟨start, before, log, r, after⟩ := g
  obtain ⟨start', before', log', r', after'⟩ := g'
  obtain rfl : start' = start := hstart
  obtain rfl : before' = before := hbefore
  have hpasses : e.Passes [.go start' before'.context.locals true] before' log r after := hg.passes
  have hpasses' : (e.limited limit).Passes [.go start' before'.context.locals true] before' log' r'
    after' := hg'.passes
  rcases hpasses.lockstep (C := fun _ p => p.Stopped halt n)
    (fun past p p' hp hdoes hdoes' herrand hbefore hx hx' =>
      (h.step past p p' hp hdoes hdoes' herrand hbefore hx hx').imp_right
        fun hstopped => ⟨hstopped, halt, hstopped.result⟩)
    hpasses' hi hw hw' with
    ⟨rfl, rfl, rfl, hend⟩ | ⟨pre, p, post, rfl, rfl, hstopped, hcontinues, rfl, hhalt⟩
  · refine .inl ⟨rfl, ?_, hend⟩
    -- In its own world the first run never comes to the halt, and here both have gone through the same.
    rintro rfl
    obtain ⟨pre, p, rfl, hp, -, hr, -⟩ := hpasses.halted_by
    have hanswers : w.Answers (past ++ Pass.talk pre) p.exchanges := by
      have hsplit : Pass.talk (pre ++ [p]) = Pass.talk pre ++ p.exchanges := by simp [Pass.talk]
      rw [hsplit] at hw
      exact (World.answers_append.mp hw).2
    exact h.never _ p hp hanswers hr
  · refine .inr ⟨hhalt halt hstopped.result, ?_, ?_, ?_⟩
    · change p.after.stepsVisited = n
      rw [hstopped.after, hstopped.visited]
    · have hcut : Pass.talk (pre ++ [p]) = Pass.talk pre ++ p.exchanges := by simp [Pass.talk]
      have hfull : Pass.talk (pre ++ post) = Pass.talk pre ++ Pass.talk post := by simp [Pass.talk]
      rw [hcut, hfull, Exchange.calls_append, Exchange.calls_append, hstopped.silent,
        List.append_nil]
      exact List.prefix_append _ _
    · change p.after.stepResults <+: after.stepResults
      rw [hstopped.after]
      exact hcontinues.steps

end Lockstep

/-- A run, as it was cut short by a halt after so many visits or not at all, beside the full run. -/
structure Shortened (halt : Halt) (n : Nat) (story : List (Segment τ))
    (full cut : List Exchange × List (Except Escape (RunResult τ))) : Prop where
  calls : Exchange.calls cut.1 <+: Exchange.calls full.1
  steps : lastSteps cut.2 <+: lastSteps full.2
  outcome : (cut = full ∧ ∀ g ∈ story, g.result ≠ .error halt) ∨
    ∃ (pre : List (Segment τ)) (g : Segment τ),
      story = pre ++ [g] ∧ g.result = .error halt ∧ g.after.stepsVisited = n

/-- The second of two runs from a state on has a story, in which it is the first one or is cut
short. -/
def Beside (e : Engine) (limit : Int) (w w' : World) (halt : Halt) (n resumes : Nat)
    (past : List Exchange) (s : RunState τ) (start : Option String) : Prop :=
  let cut := (e.limited limit).lives w' resumes past ((e.limited limit).execute s start)
  ∃ story, (e.limited limit).Chain s start story ∧ List.Forall₂ Segment.Tells story cut.2 ∧
    Exchange.deeds cut.1 = Segment.deeds story ∧
    Shortened halt n story (e.lives w resumes past (e.execute s start)) cut

omit [ActiveTime τ] in
theorem Shortened.same {halt : Halt} {n : Nat} {story : List (Segment τ)}
    {full cut : List Exchange × List (Except Escape (RunResult τ))} (hsame : cut = full)
    (hnever : ∀ g ∈ story, g.result ≠ .error halt) : Shortened halt n story full cut := by
  subst hsame
  exact ⟨List.prefix_rfl, List.prefix_rfl, .inl ⟨rfl, hnever⟩⟩

omit [ActiveTime τ] in
/-- What comes before both runs alike makes no difference. -/
theorem Shortened.cons {halt : Halt} {n : Nat} {story : List (Segment τ)} {g : Segment τ}
    {result : Except Escape (RunResult τ)}
    {full cut : List Exchange × List (Except Escape (RunResult τ))}
    (h : Shortened halt n story full cut) (t : List Exchange) (hnever : g.result ≠ .error halt)
    (hfull : full.2 ≠ []) (hcut : cut.2 ≠ []) :
    Shortened halt n (g :: story) (t ++ full.1, result :: full.2) (t ++ cut.1, result :: cut.2) := by
  obtain ⟨hcalls, hsteps, hout⟩ := h
  refine ⟨?_, ?_, ?_⟩
  · rw [Exchange.calls_append, Exchange.calls_append]
    exact (List.prefix_append_right_inj _).mpr hcalls
  · rw [lastSteps_cons hfull, lastSteps_cons hcut]
    exact hsteps
  · rcases hout with ⟨rfl, hnone⟩ | ⟨pre, last, rfl, hr, hvisited⟩
    · exact .inl ⟨rfl, List.forall_mem_cons.mpr ⟨hnever, hnone⟩⟩
    · exact .inr ⟨g :: pre, last, rfl, hr, hvisited⟩

namespace Lockstep

variable {limit : Int} {w w' : World} {halt : Halt} {n : Nat}
  {I : List Exchange → RunState τ → Prop} {past : List Exchange}

variable {start : Option String} {g g' : Segment τ} {closing closing' : List Exchange}
  {result result' : Except Escape (RunResult τ)} {resumes : Nat}

/-- What is told of one segment in both worlds is the same. -/
theorem concluded (h : e.Lockstep limit w w' halt n I) (hg : e.Lived w past s start g closing result)
    (hg' : (e.limited limit).Lived w' past s start g closing' result') :
    closing' = closing ∧ result' = result := by
  have hsame : (e.conclude g.result { g.after with depth := s.depth }).lived w'
      (past ++ Pass.talk g.log) = (closing', result') := hg'.concluded
  rw [(conclude_only _ _).lived_eq h.clock, hg.concluded] at hsame
  exact ⟨(Prod.mk.inj hsame).1.symm, (Prod.mk.inj hsame).2.symm⟩

/-- A run that is stopped in a segment. -/
theorem stopped [ActiveTime.Storable τ] (h : e.Lockstep limit w w' halt n I) (hs : s.Settled)
    (hg : e.Lived w past s start g closing result)
    (hlived : (e.execute s start).lived w past = (Pass.talk g.log ++ closing, result))
    (hg' : (e.limited limit).Lived w' past s start g' closing' result')
    (hlived' : ((e.limited limit).execute s start).lived w' past
      = (Pass.talk g'.log ++ closing', result'))
    (ht : e.OnCalendar (e.lives w resumes past (e.execute s start)).1)
    (hr : g'.result = .error halt) (hvisited : g'.after.stepsVisited = n)
    (hcalls : Exchange.calls (Pass.talk g'.log) <+: Exchange.calls (Pass.talk g.log))
    (hsteps : g'.after.stepResults <+: g.after.stepResults) :
    e.Beside limit w w' halt n resumes past s start := by
  obtain ⟨hchain, htells, hdeeds⟩ := hg'.story hs
  obtain ⟨⟨told, rfl, htold, -⟩, ⟨next, resumeAt, -, hsuspended, -⟩ | ⟨-, hleft⟩⟩ := hg'.told hs
  · rw [hr] at hsuspended
    exact absurd (Except.error.inj hsuspended) (h.ends next resumeAt)
  · obtain ⟨htalk, hlast⟩ := lives_extends hs hg hlived ht
    unfold Beside
    rw [lives_ended hlived' (.inr hleft)]
    refine ⟨[g'], hchain, htells, hdeeds, ?_, ?_, .inr ⟨[], g', rfl, hr, hvisited⟩⟩
    · -- Beside its walk a segment only reads the clock, so the calls are those of the passes.
      change Exchange.calls (Pass.talk g'.log ++ closing') <+: _
      rw [Exchange.calls_append, Exchange.calls_clocks hg'.clocks, List.append_nil]
      exact hcalls.trans (htalk.filterMap _)
    · change told.stepResults <+: _
      rw [htold]
      exact hsteps.trans hlast

/-- A run that ends with a segment that is the same in both worlds. -/
theorem ended [ActiveTime.Storable τ] (hs : s.Settled)
    (hlived : (e.execute s start).lived w past = (Pass.talk g.log ++ closing, result))
    (hg' : (e.limited limit).Lived w' past s start g closing result)
    (hlived' : ((e.limited limit).execute s start).lived w' past
      = (Pass.talk g.log ++ closing, result))
    (hnever : g.result ≠ .error halt) (hleft : resumes = 0 ∨ leftIn result = none) :
    e.Beside limit w w' halt n resumes past s start := by
  obtain ⟨hchain, htells, hdeeds⟩ := hg'.story hs
  unfold Beside
  rw [lives_ended hlived hleft, lives_ended hlived' hleft]
  exact ⟨[g], hchain, htells, hdeeds, .same rfl (List.forall_mem_singleton.mpr hnever)⟩

/-- A run that is suspended after a segment that is the same in both worlds goes on as it does from
what is restored. -/
theorem woken [ActiveTime.Storable τ] {more reading : Nat} {next : Option String}
    {resumeAt : Time.Stamp} (h : e.Lockstep limit w w' halt n I) (hs : s.Settled)
    (hlived : (e.execute s start).lived w past = (Pass.talk g.log ++ closing, result))
    (hg' : (e.limited limit).Lived w' past s start g closing result)
    (hlived' : ((e.limited limit).execute s start).lived w' past
      = (Pass.talk g.log ++ closing, result))
    (hr : g.result = .error (.suspended next resumeAt)) (hnever : g.result ≠ .error halt)
    (hleft : leftIn result = some (continuationOf g.after next resumeAt reading))
    (ht : e.OnCalendar (e.lives w (more + 1) past (e.execute s start)).1)
    (ht' : e.OnCalendar
      ((e.limited limit).lives w' (more + 1) past ((e.limited limit).execute s start)).1)
    (hrest : ∀ woken clocks, (∀ x ∈ clocks, x.IsClock) → (g.after.revive reading woken).Settled →
      e.OnCalendar (e.lives w more (past ++ Pass.talk g.log ++ clocks)
        (e.execute (g.after.revive reading woken) next)).1 →
      e.OnCalendar ((e.limited limit).lives w' more (past ++ Pass.talk g.log ++ clocks)
        ((e.limited limit).execute (g.after.revive reading woken) next)).1 →
      e.Beside limit w w' halt n more (past ++ Pass.talk g.log ++ clocks)
        (g.after.revive reading woken) next) :
    e.Beside limit w w' halt n (more + 1) past s start := by
  have hafter := (hg'.settled hs).2
  obtain ⟨woken, past', rfl, hwoken, hlives⟩ := lives_resumed more hlived hafter hleft
  obtain ⟨_, _, rfl, rfl, hlives'⟩ :=
    lives_resumed (e := e.limited limit) more hlived' hafter hleft
  -- Both worlds have the same clock, so both runs go on at the same reading.
  rw [h.clock, ← hwoken] at hlives'
  rw [hlives] at ht
  rw [hlives'] at ht'
  have hclocks : ∀ x ∈ closing ++ [⟨.clock, woken⟩], x.IsClock := by
    intro x hx
    rcases List.mem_append.mp hx with hx | hx
    · exact hg'.clocks x hx
    · obtain rfl := List.mem_singleton.mp hx
      rfl
  have hpast : past ++ (Pass.talk g.log ++ closing) ++ [⟨.clock, woken⟩]
      = past ++ Pass.talk g.log ++ (closing ++ [⟨.clock, woken⟩]) := by simp
  rw [hpast] at hlives hlives' ht ht'
  have hrevived : (g.after.revive reading woken).Settled := hafter.revive reading woken
  obtain ⟨story, hchain, htells, hdeeds, hshort⟩ :=
    hrest woken _ hclocks hrevived ht.right.tail ht'.right.tail
  have hpasses := hg'.does.passes
  rw [hr] at hpasses
  let c := continuationOf g.after next resumeAt reading
  have hreload : c.reload = .ok c := reload_continuationOf hafter.startedAt hpasses.suspended.1
  have hrestore : restore c woken = .ok (g.after.revive reading woken) :=
    restore_continuationOf hafter.toStorable hafter.locals
  have hsplit (rest : List Exchange) : Pass.talk g.log ++ closing ++ ⟨.clock, woken⟩ :: rest
      = Pass.talk g.log ++ (closing ++ [⟨.clock, woken⟩]) ++ rest := by simp
  unfold Beside
  rw [hlives, hlives', hsplit, hsplit]
  refine ⟨g :: story, ?_, .cons (hg'.told hs).1 htells, ?_, hshort.cons _ hnever lives_ne_nil
    lives_ne_nil⟩
  · rw [← hg'.before, ← hg'.start]
    exact .resumed hg'.does hr hreload hrestore hchain
  · dsimp only
    rw [Exchange.deeds_append, hdeeds, Exchange.deeds_append, Exchange.deeds_clocks hclocks,
      List.append_nil]
    rfl

/-- The induction is on the resumes: as long as the segments of both runs are the same, so is what is
left in the store. -/
theorem beside [ActiveTime.Storable τ] (h : e.Lockstep limit w w' halt n I) (hs : s.Settled)
    (hi : I past s) (ht : e.OnCalendar (e.lives w resumes past (e.execute s start)).1)
    (ht' : e.OnCalendar
      ((e.limited limit).lives w' resumes past ((e.limited limit).execute s start)).1) :
    e.Beside limit w w' halt n resumes past s start := by
  induction resumes using Nat.strongRecOn generalizing s past start with
  | ind resumes ih =>
  obtain ⟨g, closing, result, hg, hlived⟩ := lived_of_lives ht
  obtain ⟨g', closing', result', hg', hlived'⟩ := lived_of_lives (e := e.limited limit) ht'
  rcases h.segment hg.does hg'.does (hg'.start.trans hg.start.symm)
    (hg'.before.trans hg.before.symm) (by rw [hg.before]; exact hi) hg.answers hg'.answers with
    ⟨rfl, hnever, hend⟩ | ⟨hr, hvisited, hcalls, hsteps⟩
  · obtain ⟨rfl, rfl⟩ := h.concluded hg hg'
    obtain ⟨-, ⟨next, resumeAt, reading, hr, hleft⟩ | ⟨-, hleft⟩⟩ := hg.told hs
    · cases resumes with
      | zero => exact ended hs hlived hg' hlived' hnever (.inl rfl)
      | succ more =>
        have hafter : I (past ++ Pass.talk g'.log) g'.after := hend (by rw [hr]; trivial)
        exact h.woken hs hlived hg' hlived' hr hnever hleft ht ht'
          fun woken clocks hclocks hrevived htail htail' =>
            ih more (Nat.lt_succ_self more) hrevived
              (h.resumed _ _ clocks reading woken hafter hclocks) htail htail'
    · exact ended hs hlived hg' hlived' hnever (.inr hleft)
  · exact h.stopped hs hg hlived hg' hlived' ht hr hvisited hcalls hsteps

end Lockstep

/-! ## Whole runs -/

/-- A run of a definition is another one, cut short by a halt. If the halt stops it, so many nodes
are visited. If it does not, both runs are the same. -/
structure CutsShort (e : Engine) (d : Definition) (event : Event) (runId : String) (halt : Halt)
    (n : Nat) (full cut : List Exchange × List (Except Escape (RunResult τ))) : Prop where
  calls : Exchange.calls cut.1 <+: Exchange.calls full.1
  steps : lastSteps cut.2 <+: lastSteps full.2
  story : ∃ story : List (Segment τ), e.Story d event runId story ∧
    List.Forall₂ Segment.Tells story cut.2 ∧ Exchange.deeds cut.1 = Segment.deeds story ∧
    ((∃ g ∈ story, g.result = .error halt) → (Segment.visits story).length = n) ∧
    ((∀ g ∈ story, g.result ≠ .error halt) → cut = full)

theorem Lockstep.cutsShort [ActiveTime.Storable τ] {limit : Int} {n : Nat} {w w' : World} {halt : Halt}
    {I : List Exchange → RunState τ → Prop} {resumes : Nat} {d : Definition} {event : Event}
    {runId : String} (h : e.Lockstep limit w w' halt n I) (hwell : d.WellFormed) (hvalid : d.Valid)
    (hevent : event.Storable)
    (hopening : ∀ reading : Nat, I [⟨.clock, reading⟩] (e.opening d event runId reading))
    (ht : e.OnCalendar (e.lifetime w resumes d event runId : _ × List (Except _ (RunResult τ))).1)
    (ht' : e.OnCalendar
      ((e.limited limit).lifetime w' resumes d event runId : _ × List (Except _ (RunResult τ))).1) :
    (e.limited limit).CutsShort d event runId halt n
      (e.lifetime w resumes d event runId : _ × List (Except _ (RunResult τ)))
      ((e.limited limit).lifetime w' resumes d event runId) := by
  obtain ⟨entry, hentry⟩ := hvalid.sound.exists_entry
  unfold lifetime at ht ht' ⊢
  rw [run_valid hvalid hentry, lives_clock] at ht ht' ⊢
  rw [run_valid hvalid hentry, lives_clock]
  rw [h.clock] at ht' ⊢
  have hreading := ht (w [] .clock) List.mem_cons_self
  have hsettled : (e.opening d event runId (w [] .clock) : RunState τ).Settled :=
    opening_settled hwell hevent hreading
  obtain ⟨story, hchain, htells, hdeeds, hcalls, hsteps, hout⟩ :=
    h.beside hsettled (hopening _) ht.tail ht'.tail
  refine ⟨hcalls, hsteps, story, ⟨entry, _, hentry, hreading, hchain⟩, htells, hdeeds, ?_, ?_⟩
  · rintro ⟨g, hg, hr⟩
    rcases hout with ⟨-, hnone⟩ | ⟨pre, last, rfl, -, hvisited⟩
    · exact absurd hr (hnone g hg)
    · -- The stopped segment is the last one, and its count is that of the visits of all segments.
      have hcount := hchain.counted hsettled rfl
      have hzero : (e.opening d event runId (w [] .clock) : RunState τ).stepsVisited = 0 := rfl
      omega
  · intro hnone
    rcases hout with ⟨hsame, -⟩ | ⟨pre, last, rfl, hr, -⟩
    · exact Prod.ext (congrArg (⟨.clock, w [] .clock⟩ :: ·.1) hsame) (congrArg (·.2) hsame)
    · exact absurd hr (hnone last (by simp))

end Engine

end Automation
