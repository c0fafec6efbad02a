import Automation.Proofs.Server.Live
import Mathlib.Data.List.Nodup

/-!
# Traces of servers

A server goes from step to step: a run begins or is resumed, a task has its turn, a request to abort
a run is accepted, time passes. Tasks have their turns in any order. `Trace.kept` is the invariant of
all traces: no run is under way twice, and the flag of a run that is not over stands for the
requests to abort it.
-/

namespace Automation

variable {τ : Type}

/-! ## Deeds -/

/-- What happens on a server, as far as requests to abort runs go. -/
inductive Deed where
  /-- A run has its turn, at a reading of the clock. -/
  | talked (runId : String) (reading : Nat) (inReach : Bool) (talk : List Exchange)
  /-- A request to abort a run is accepted. -/
  | accepted (runId : String) (reading : Nat)

/-- A request to abort a run was accepted, and less than a span ago. -/
def Requested (deeds : List Deed) (runId : String) (span : Int) (reading : Nat) : Prop :=
  ∃ since : Nat, .accepted runId since ∈ deeds ∧ (reading : Int) < since + span

section Requested

variable {deeds : List Deed} {runId other : String} {span : Int} {reading : Nat}

@[simp] theorem requested_nil : ¬ Requested [] runId span reading := by simp [Requested]

@[simp] theorem requested_talked {r : Nat} {inReach : Bool} {talk : List Exchange} :
    Requested (deeds ++ [.talked other r inReach talk]) runId span reading ↔
      Requested deeds runId span reading := by
  simp [Requested]

theorem requested_other {r : Nat} (h : runId ≠ other) :
    Requested (deeds ++ [.accepted other r]) runId span reading ↔
      Requested deeds runId span reading := by
  simp [Requested, h]

/-- The last request is kept longest. -/
theorem requested_last {r : Nat} (h : ∀ since, .accepted runId since ∈ deeds → since ≤ r) :
    Requested (deeds ++ [.accepted runId r]) runId span reading ↔ (reading : Int) < r + span := by
  constructor
  · rintro ⟨since, hmem, hreading⟩
    rcases List.mem_append.mp hmem with hmem | hmem
    · have := h since hmem
      omega
    · cases List.mem_singleton.mp hmem
      exact hreading
  · exact fun hreading => ⟨r, by simp, hreading⟩

end Requested

/-! ## Steps -/

namespace Server

/-- What time alone makes of a server: flags come in and out of reach, queued runs are given up, ids
are given. -/
structure Calm (s s' : Server τ) : Prop where
  elapsed : s.elapsed ≤ s'.elapsed
  given : s.store.given ≤ s'.store.given
  flags : s'.flags = { s.flags with reachable := s'.flags.reachable }
  tasks : s'.tasks = s.tasks
  jobs : s'.scheduler.resumptions.Sublist s.scheduler.resumptions

/-- A run comes among those that are under way. -/
structure Admits (s : Server τ) (t : Task τ) (s' : Server τ) : Prop where
  elapsed : s.elapsed ≤ s'.elapsed
  given : s.store.given ≤ s'.store.given
  flags : s'.flags = s.flags
  tasks : s'.tasks.Perm (t :: s.tasks)

section Steps

variable [ActiveTime τ] [RunningMean τ]

/-- A step of a server, and what is done in it. -/
inductive Step : Server τ → List Deed → Server τ → Prop where
  | calm {s s' : Server τ} (h : s.Calm s') : Step s [] s'
  /-- A request to abort a run is accepted. -/
  | abort {s s' : Server τ} (d : Dispatcher) (runId tenant : String)
      (h : (Service.abortRun d runId tenant).run s = (.ok true, s')) :
      Step s [.accepted runId s.elapsed] s'
  /-- A task has its turn, which need not be the next one. -/
  | turn {s : Server τ} (before : List (Task τ)) (t : Task τ) (behind : List (Task τ))
      (h : s.tasks = before ++ t :: behind) :
      Step s [.talked t.runId (max s.elapsed t.wakesAt) s.flags.reachable (s.talkOf t)]
        (s.turn before t behind).2
  /-- A run begins, with an id that was never given before. -/
  | begins {s s' : Server τ} (t : Task τ) (e : Engine) (d : Definition) (event : Event)
      (count : Nat) (h : s.Admits t s') (hscheduler : s'.scheduler = s.scheduler)
      (hnew : s.store.given < count) (hgiven : count ≤ s'.store.given)
      (hrun : t.runId = idOf count) (hwatches : e.watchesAborts = true)
      (hrest : t.rest = e.run d event t.runId) : Step s [] s'
  /-- A queued run is resumed. -/
  | resumes {s s' : Server τ} (t : Task τ) (e : Engine) (id : String) (c : Continuation τ)
      (h : s.Admits t s') (hjob : (id, c) ∈ s.scheduler.resumptions)
      (hscheduler : s'.scheduler = s.scheduler.remove id) (hrun : t.runId = c.runId)
      (hwatches : e.watchesAborts = true) (hrest : t.rest = e.resume c) : Step s [] s'

/-- A server can come from one state to another, and what is done on the way. -/
inductive Trace (s₀ : Server τ) : List Deed → Server τ → Prop where
  | start : Trace s₀ [] s₀
  | step {deeds more : List Deed} {s s' : Server τ} (h : Trace s₀ deeds s) (hs : Step s more s') :
      Trace s₀ (deeds ++ more) s'

theorem Trace.trans {s₀ s s' : Server τ} {deeds more : List Deed} (h : s₀.Trace deeds s)
    (h' : s.Trace more s') : s₀.Trace (deeds ++ more) s' := by
  induction h' with
  | start => exact (List.append_nil deeds).symm ▸ h
  | step _ hs ih => exact List.append_assoc .. ▸ ih.step hs

end Steps

/-- A server on which no run is under way or queued, and no flag is set. -/
structure Fresh (s : Server τ) : Prop where
  tasks : s.tasks = []
  jobs : s.scheduler.resumptions = []
  flags : s.flags.expiries = []

/-! ## Requests to abort a run -/

/-- A request to abort a run is accepted: its flag is set. -/
structure Accepts (s : Server τ) (runId : String) (s' : Server τ) : Prop where
  inReach : s.flags.reachable = true
  elapsed : s'.elapsed = s.elapsed
  given : s.store.given ≤ s'.store.given
  flags : s'.flags = (s.flags.request runId s.elapsed).2
  tasks : s'.tasks = s.tasks
  jobs : s'.scheduler.resumptions = s.scheduler.resumptions

theorem owned_grows (runId tenant : String) : (Runs.owned runId tenant : Operation τ RunRow).Grows := by
  refine Operation.Grows.bind (Operation.query_grows _) fun row? => ?_
  refine (Operation.found_grows _ _).bind fun row => ?_
  split
  · exact Operation.grows_pure row
  · exact Operation.grows_throw _

/-- A request to abort a run is accepted, or it does nothing. -/
theorem abortRun_cases [ActiveTime τ] (d : Dispatcher) (runId tenant : String) (s : Server τ) :
    ∃ result s', (Service.abortRun d runId tenant).run s = (result, s') ∧
      ((result = .ok true ∧ s.Accepts runId s') ∨ (result ≠ .ok true ∧ s.Calm s')) := by
  unfold Service.abortRun
  rw [Service.store_bind_run]
  have hgrows := owned_grows runId tenant s.store
  rcases hop : (Runs.owned runId tenant).run s.store with ⟨failure | row, store⟩ <;>
    rw [hop] at hgrows <;> dsimp only
  · exact ⟨_, _, rfl, .inr ⟨nofun, ⟨Nat.le_refl _, hgrows, rfl, rfl, .refl _⟩⟩⟩
  · split
    · exact ⟨_, _, rfl, .inr ⟨by simp, ⟨Nat.le_refl _, hgrows, rfl, rfl, .refl _⟩⟩⟩
    · rw [Service.get_bind_run]
      dsimp only
      by_cases hreach : s.flags.reachable = true
      · have hrequest : s.flags.request runId s.elapsed
            = (true, (s.flags.request runId s.elapsed).2) := by simp [AbortFlags.request, hreach]
        rw [hrequest]
        dsimp only
        rw [Service.set_bind_run]
        split
        · exact ⟨_, _, rfl, .inl ⟨rfl, hreach, rfl, hgrows, rfl, rfl,
            s.scheduler.resumptions_expedite _ _⟩⟩
        · exact ⟨_, _, rfl, .inl ⟨rfl, hreach, rfl, hgrows, rfl, rfl, rfl⟩⟩
      · have hrequest : s.flags.request runId s.elapsed = (false, s.flags) := by
          simp [AbortFlags.request, hreach]
        rw [hrequest]
        exact ⟨_, _, rfl, .inr ⟨nofun, ⟨Nat.le_refl _, hgrows, rfl, rfl, .refl _⟩⟩⟩

theorem accepts_of_abortRun [ActiveTime τ] {d : Dispatcher} {runId tenant : String}
    {s s' : Server τ} (h : (Service.abortRun d runId tenant).run s = (.ok true, s')) :
    s.Accepts runId s' := by
  obtain ⟨result, s'', hrun, ⟨-, haccepts⟩ | ⟨hne, -⟩⟩ := abortRun_cases d runId tenant s <;>
    cases h.symm.trans hrun
  · exact haccepts
  · exact absurd rfl hne

/-! ## The invariant -/

section Kept

variable [ActiveTime τ] {s s' : Server τ} {deeds : List Deed}

/-- What holds on a server after some deeds. -/
structure Kept (deeds : List Deed) (s : Server τ) : Prop where
  tasks : ∀ t ∈ s.tasks, t.UnderWay
  jobs : ∀ p ∈ s.scheduler.resumptions, p.1 = resumeJobId p.2.runId
  /-- No run is under way twice, or both under way and queued. -/
  nodup : s.live.Nodup
  given : ∀ id ∈ s.live, s.store.Gave id
  clock : ∀ id since, .accepted id since ∈ deeds → since ≤ s.elapsed
  /-- As long as a run is not over, its flag stands for the requests to abort it. -/
  flags : ∀ id, id ∈ s.live ∨ ¬ s.store.Gave id → ∀ reading,
    s.flags.Holds id reading ↔ Requested deeds id s.flags.span reading
  /-- A run that has seen that it was aborted is over. -/
  finished : ∀ id reading inReach talk x, .talked id reading inReach talk ∈ deeds →
    ⟨.aborted x, true⟩ ∈ talk → s.store.Gave id ∧ id ∉ s.live

theorem Fresh.kept (h : s.Fresh) : s.Kept [] := by
  have hlive : s.live = [] := by
    unfold live
    rw [h.tasks, h.jobs]
    rfl
  refine ⟨?_, ?_, ?_, ?_, fun _ _ h => absurd h List.not_mem_nil, fun id _ reading => ?_,
    fun _ _ _ _ _ h => absurd h List.not_mem_nil⟩
  · rw [h.tasks]
    exact List.forall_mem_nil _
  · rw [h.jobs]
    exact List.forall_mem_nil _
  · rw [hlive]
    exact List.nodup_nil
  · rw [hlive]
    exact List.forall_mem_nil _
  · unfold AbortFlags.Holds
    rw [h.flags]
    simp

/-- The invariant is kept where no run comes to those that are not over, and their flags stay. -/
theorem Kept.mono (h : s.Kept deeds) (htasks : ∀ t ∈ s'.tasks, t.UnderWay)
    (hjobs : ∀ p ∈ s'.scheduler.resumptions, p.1 = resumeJobId p.2.runId)
    (hnodup : s'.live.Nodup) (hlive : s'.live ⊆ s.live) (helapsed : s.elapsed ≤ s'.elapsed)
    (hgiven : s.store.given ≤ s'.store.given) (hspan : s'.flags.span = s.flags.span)
    (hflags : ∀ id, id ∈ s'.live ∨ ¬ s'.store.Gave id → ∀ reading,
      s'.flags.Holds id reading ↔ s.flags.Holds id reading) : s'.Kept deeds where
  tasks := htasks
  jobs := hjobs
  nodup := hnodup
  given := fun id hid => (h.given id (hlive hid)).mono hgiven
  clock := fun id since hmem => Nat.le_trans (h.clock id since hmem) helapsed
  flags := by
    intro id hid reading
    rw [hflags id hid, hspan]
    refine h.flags id ?_ reading
    exact hid.imp (fun h => hlive h) fun hnew hgave => hnew (hgave.mono hgiven)
  finished := by
    intro id reading inReach talk x hmem hx
    obtain ⟨hgave, hfinished⟩ := h.finished id reading inReach talk x hmem hx
    exact ⟨hgave.mono hgiven, fun hid => hfinished (hlive hid)⟩

theorem Kept.calm (h : s.Kept deeds) (hcalm : s.Calm s') : s'.Kept deeds := by
  have hlive : s'.live.Sublist s.live := by
    unfold live
    rw [hcalm.tasks]
    exact .append_left (.map _ hcalm.jobs) _
  refine h.mono ?_ (fun p hp => h.jobs p (hcalm.jobs.subset hp)) (hlive.nodup h.nodup) hlive.subset
    hcalm.elapsed hcalm.given ?_ fun id _ reading => ?_
  · rw [hcalm.tasks]
    exact h.tasks
  · rw [hcalm.flags]
    rfl
  · rw [hcalm.flags]
    rfl

theorem Kept.accepts {runId : String} (h : s.Kept deeds) (hs : s.Accepts runId s') :
    s'.Kept (deeds ++ [.accepted runId s.elapsed]) := by
  have hlive : s'.live = s.live := by
    unfold live
    rw [hs.tasks, hs.jobs]
  have hflags : s'.flags = { s.flags with
      expiries := s.flags.expiries.set (s.flags.key runId) (s.elapsed + s.flags.span) } := by
    rw [hs.flags, AbortFlags.request, if_pos hs.inReach]
    rfl
  refine ⟨?_, ?_, ?_, ?_, ?_, ?_, ?_⟩
  · rw [hs.tasks]
    exact h.tasks
  · rw [hs.jobs]
    exact h.jobs
  · rw [hlive]
    exact h.nodup
  · rw [hlive]
    exact fun id hid => (h.given id hid).mono hs.given
  · intro id since hmem
    rw [hs.elapsed]
    rcases List.mem_append.mp hmem with hmem | hmem
    · exact h.clock id since hmem
    · cases List.mem_singleton.mp hmem
      exact Nat.le_refl _
  · intro id hid reading
    have hholds : s'.flags.Holds id reading ↔ (Entries.get? (s.flags.key id)
        (s.flags.expiries.set (s.flags.key runId) (s.elapsed + s.flags.span))).any
          ((reading : Int) < ·) = true := by
      rw [hflags]
      rfl
    have hspan : s'.flags.span = s.flags.span := by
      rw [hflags]
      rfl
    rw [hholds, hspan, Entries.get?_set]
    by_cases hrun : id = runId
    · -- Time does not go back, so the new flag outlasts those of all earlier requests.
      subst hrun
      rw [if_pos rfl, requested_last (h.clock id)]
      simp
    · have hkey : s.flags.key runId ≠ s.flags.key id := fun heq =>
        hrun (AbortFlags.key_inj.mp heq).symm
      rw [if_neg hkey, requested_other hrun]
      rw [hlive] at hid
      exact h.flags id (hid.imp_right fun hnew hgave => hnew (hgave.mono hs.given)) reading
  · intro id reading inReach talk x hmem hx
    rcases List.mem_append.mp hmem with hmem | hmem
    · obtain ⟨hgave, hfinished⟩ := h.finished id reading inReach talk x hmem hx
      exact ⟨hgave.mono hs.given, hlive ▸ hfinished⟩
    · cases List.mem_singleton.mp hmem

/-- A run that begins was never heard of, but there may be requests to abort it. -/
theorem Kept.begins {t : Task τ} {e : Engine} {d : Definition} {event : Event} {count : Nat}
    (h : s.Kept deeds) (hs : s.Admits t s') (hscheduler : s'.scheduler = s.scheduler)
    (hnew : s.store.given < count) (hgiven : count ≤ s'.store.given) (hrun : t.runId = idOf count)
    (hwatches : e.watchesAborts = true) (hrest : t.rest = e.run d event t.runId) :
    s'.Kept deeds := by
  have hnot : ¬ s.store.Gave t.runId := hrun ▸ Store.not_gave hnew
  have hlive : s'.live.Perm (t.runId :: s.live) := by
    unfold live
    rw [hscheduler]
    exact .append_right _ (hs.tasks.map Task.runId)
  refine ⟨fun u hu => ?_, ?_, ?_, fun id hid => ?_,
    fun id since hmem => Nat.le_trans (h.clock id since hmem) hs.elapsed, fun id hid reading => ?_,
    fun id reading inReach talk x hmem hx => ?_⟩
  · rcases List.mem_cons.mp (hs.tasks.subset hu) with rfl | hu
    · exact ⟨e, _, [], hwatches, hrest ▸ .run d event, .here _⟩
    · exact h.tasks u hu
  · rw [hscheduler]
    exact h.jobs
  · exact hlive.nodup_iff.mpr
      (List.nodup_cons.mpr ⟨fun hmem => hnot (h.given _ hmem), h.nodup⟩)
  · rcases List.mem_cons.mp (hlive.subset hid) with rfl | hid
    · exact ⟨count, hgiven, hrun⟩
    · exact (h.given id hid).mono hs.given
  · rw [hs.flags]
    refine h.flags id ?_ reading
    rcases hid with hid | hid
    · rcases List.mem_cons.mp (hlive.subset hid) with rfl | hid
      · -- The invariant speaks of ids that are still to be given, and this was one of them.
        exact .inr hnot
      · exact .inl hid
    · exact .inr fun hgave => hid (hgave.mono hs.given)
  · obtain ⟨hgave, hfinished⟩ := h.finished id reading inReach talk x hmem hx
    refine ⟨hgave.mono hs.given, fun hid => ?_⟩
    rcases List.mem_cons.mp (hlive.subset hid) with rfl | hid
    · exact hnot hgave
    · exact hfinished hid

theorem Kept.resumes {t : Task τ} {e : Engine} {id : String} {c : Continuation τ}
    (h : s.Kept deeds) (hs : s.Admits t s') (hjob : (id, c) ∈ s.scheduler.resumptions)
    (hscheduler : s'.scheduler = s.scheduler.remove id) (hrun : t.runId = c.runId)
    (hwatches : e.watchesAborts = true) (hrest : t.rest = e.resume c) : s'.Kept deeds := by
  -- The job of the run is taken off the list, so the run is under way in place of being queued.
  obtain ⟨before, behind, hsplit⟩ := List.append_of_mem hjob
  have hid : id = resumeJobId c.runId := h.jobs _ hjob
  have hsub : s'.scheduler.resumptions.Sublist (before ++ behind) := by
    rw [hscheduler, Scheduler.resumptions_remove, hsplit, List.filter_append,
      List.filter_cons_of_neg (by simp)]
    exact .append List.filter_sublist List.filter_sublist
  have hjobs : ∀ p ∈ s'.scheduler.resumptions, p ∈ s.scheduler.resumptions := by
    rw [hscheduler, Scheduler.resumptions_remove]
    exact fun p hp => List.mem_of_mem_filter hp
  have hold : s.live.Perm
      (c.runId :: (s.tasks.map (·.runId) ++ (before ++ behind).map (·.2.runId))) := by
    unfold live
    rw [hsplit, List.map_append, List.map_cons, List.map_append, ← List.append_assoc,
      ← List.append_assoc]
    exact List.perm_middle
  have hlive : s'.live.Perm
      (c.runId :: (s.tasks.map (·.runId) ++ s'.scheduler.resumptions.map (·.2.runId))) := by
    unfold live
    rw [← hrun]
    exact .append_right _ (hs.tasks.map Task.runId)
  have hsublive : (c.runId :: (s.tasks.map (·.runId) ++
      s'.scheduler.resumptions.map (·.2.runId))).Sublist
        (c.runId :: (s.tasks.map (·.runId) ++ (before ++ behind).map (·.2.runId))) :=
    .cons_cons _ (.append_left (.map _ hsub) _)
  refine h.mono (fun u hu => ?_) (fun p hp => h.jobs p (hjobs p hp)) ?_ ?_ hs.elapsed hs.given
    (by rw [hs.flags]) fun id _ reading => by rw [hs.flags]
  · rcases List.mem_cons.mp (hs.tasks.subset hu) with rfl | hu
    · exact ⟨e, _, [], hwatches, hrest ▸ .resume c hrun.symm, .here _⟩
    · exact h.tasks u hu
  · exact hlive.nodup_iff.mpr (hsublive.nodup (hold.nodup_iff.mp h.nodup))
  · exact fun run hmem => hold.symm.subset (hsublive.subset (hlive.subset hmem))

theorem Kept.talked {runId : String} {reading : Nat} {inReach : Bool} {talk : List Exchange}
    (h : s.Kept deeds) (hfinished : ∀ x, ⟨.aborted x, true⟩ ∈ talk → s.store.Gave runId ∧ runId ∉ s.live) :
    s.Kept (deeds ++ [.talked runId reading inReach talk]) where
  tasks := h.tasks
  jobs := h.jobs
  nodup := h.nodup
  given := h.given
  clock := fun id since hmem => h.clock id since (by simpa using hmem)
  flags := fun id hid reading => by
    rw [requested_talked]
    exact h.flags id hid reading
  finished := by
    intro id r inReach' talk' x hmem hx
    rcases List.mem_append.mp hmem with hmem | hmem
    · exact h.finished id r inReach' talk' x hmem hx
    · cases List.mem_singleton.mp hmem
      exact hfinished x hx

/-- A turn keeps the invariant, as it does its work on the run of its task alone. -/
theorem Kept.turn [RunningMean τ] {before behind : List (Task τ)} {t : Task τ} (h : s.Kept deeds)
    (htasks : s.tasks = before ++ t :: behind) (reading : Nat) (inReach : Bool) :
    (s.turn before t behind).2.Kept
      (deeds ++ [.talked t.runId reading inReach (s.talkOf t)]) := by
  obtain ⟨hframe, hafter, -⟩ := s.turn_cases before t behind
  have hturned := hafter.turned (h.tasks t (by rw [htasks]; simp))
  generalize (s.turn before t behind).2 = s' at *
  have hperm := live_perm htasks
  obtain ⟨hnot, hnodup⟩ := List.nodup_cons.mp (hperm.nodup_iff.mp h.nodup)
  have hmem : t.runId ∈ s.live := hperm.symm.subset List.mem_cons_self
  have hgave : s'.store.Gave t.runId := (h.given _ hmem).mono hframe.given
  have htask : ∀ u ∈ s'.tasks, u.UnderWay := by
    intro u hu
    rcases hturned.tasks u hu with hu | hu
    · refine h.tasks u ?_
      rw [htasks]
      rcases List.mem_append.mp hu with hu | hu
      · exact List.mem_append_left _ hu
      · exact List.mem_append_right _ (List.mem_cons_of_mem t hu)
    · exact hu
  have hjobs : ∀ p ∈ s'.scheduler.resumptions, p.1 = resumeJobId p.2.runId :=
    fun p hp => (hturned.jobs p hp).elim (h.jobs p) id
  rcases hturned.runs with ⟨hflags, hno, rest, hrest, hlive⟩ | hlive
  · -- The run goes on. It has seen no flag, and all flags stay.
    have hsub : (t.runId :: rest).Sublist (t.runId :: s.others before behind) := .cons_cons _ hrest
    refine Kept.talked (h.mono htask hjobs ?_ ?_ hframe.elapsed hframe.given hturned.span ?_)
      fun x hx => absurd hx (hno x)
    · exact hlive.nodup_iff.mpr (hsub.nodup (hperm.nodup_iff.mp h.nodup))
    · exact fun id hid => hperm.symm.subset (hsub.subset (hlive.subset hid))
    · exact fun id _ reading => by rw [hflags]
  · -- The run is over, and no other run under way has its id. Its flag may be gone.
    have hgone : t.runId ∉ s'.live := hlive ▸ hnot
    refine Kept.talked (h.mono htask hjobs ?_ ?_ hframe.elapsed hframe.given hturned.span ?_)
      fun x _ => ⟨hgave, hgone⟩
    · exact hlive ▸ hnodup
    · exact fun id hid => hperm.symm.subset (List.mem_cons_of_mem _ (hlive ▸ hid))
    · intro id hid reading
      refine hturned.flags id ?_ reading
      rintro rfl
      exact hid.elim hgone fun hnew => hnew hgave

/-- Every step keeps the invariant. -/
theorem Step.kept [RunningMean τ] {more : List Deed} (hs : s.Step more s') (h : s.Kept deeds) :
    s'.Kept (deeds ++ more) := by
  cases hs with
  | calm hcalm => exact (List.append_nil deeds).symm ▸ h.calm hcalm
  | abort d runId tenant hrun => exact h.accepts (accepts_of_abortRun hrun)
  | turn before t behind htasks => exact h.turn htasks _ _
  | begins t e d event count hs hscheduler hnew hgiven hrun hwatches hrest =>
    exact (List.append_nil deeds).symm ▸ h.begins hs hscheduler hnew hgiven hrun hwatches hrest
  | resumes t e id c hs hjob hscheduler hrun hwatches hrest =>
    exact (List.append_nil deeds).symm ▸ h.resumes hs hjob hscheduler hrun hwatches hrest

/-- Every trace of a fresh server keeps the invariant. -/
theorem Trace.kept [RunningMean τ] {s₀ : Server τ} (h : s₀.Trace deeds s) (h₀ : s₀.Fresh) :
    s.Kept deeds := by
  induction h with
  | start => exact h₀.kept
  | step _ hs ih => exact hs.kept ih

/-- How long a flag is kept never changes. -/
theorem Step.span [RunningMean τ] {more : List Deed} (hs : s.Step more s') (h : s.Kept deeds) :
    s'.flags.span = s.flags.span := by
  cases hs with
  | calm hcalm =>
    rw [hcalm.flags]
    rfl
  | abort d runId tenant hrun =>
    have hs := accepts_of_abortRun hrun
    rw [hs.flags, AbortFlags.request, if_pos hs.inReach]
    rfl
  | turn before t behind htasks =>
    exact ((s.turn_cases before t behind).2.1.turned (h.tasks t (by rw [htasks]; simp))).span
  | begins t e d event count hs => rw [hs.flags]
  | resumes t e id c hs => rw [hs.flags]

theorem Trace.span [RunningMean τ] {s₀ : Server τ} (h : s₀.Trace deeds s) (h₀ : s₀.Fresh) :
    s.flags.span = s₀.flags.span := by
  induction h with
  | start => rfl
  | step h hs ih => exact (hs.span (h.kept h₀)).trans ih

/-! ### Checks -/

variable [RunningMean τ] {before behind : List (Task τ)} {t : Task τ}

/-- A task sees that its run was aborted if a request was accepted less than a span ago, and only
if the flags are in reach. -/
theorem Kept.checked {x : String} {seen : Bool} (h : s.Kept deeds)
    (htasks : s.tasks = before ++ t :: behind) (hx : ⟨.aborted x, seen⟩ ∈ s.talkOf t) :
    x = t.runId ∧ (seen = true ↔ s.flags.reachable = true ∧
      Requested deeds t.runId s.flags.span (max s.elapsed t.wakesAt)) := by
  have hlive : t.runId ∈ s.live := (live_perm htasks).symm.subset List.mem_cons_self
  obtain rfl := (s.turn_cases before t behind).2.1.own (h.tasks t (by rw [htasks]; simp)) hx
  refine ⟨rfl, ?_⟩
  rw [talkOf_aborted hx, AbortFlags.isAborted_iff, h.flags _ (.inl hlive)]

/-- So it was in every turn. -/
theorem Trace.checked {s₀ : Server τ} {pre post : List Deed} {runId x : String} {reading : Nat}
    {inReach seen : Bool} {talk : List Exchange} (h : s₀.Trace deeds s) (h₀ : s₀.Fresh)
    (hdeeds : deeds = pre ++ .talked runId reading inReach talk :: post)
    (hx : ⟨.aborted x, seen⟩ ∈ talk) :
    x = runId ∧ (seen = true ↔ inReach = true ∧ Requested pre runId s₀.flags.span reading) := by
  induction h generalizing post with
  | start => simp at hdeeds
  | @step deeds more s s' h hs ih =>
    -- A step adds one deed or none: either the turn is the last deed, or it was there before.
    rcases List.eq_nil_or_concat post with rfl | ⟨post, last, rfl⟩
    · cases hs with
      | calm | begins | resumes =>
        rw [List.append_nil] at hdeeds
        exact ih hdeeds
      | abort d id tenant hrun =>
        obtain ⟨-, hlast⟩ := List.append_inj' hdeeds rfl
        cases hlast
      | turn before t behind htasks =>
        obtain ⟨rfl, hlast⟩ := List.append_inj' hdeeds rfl
        cases hlast
        rw [← h.span h₀]
        exact (h.kept h₀).checked htasks hx
    · cases hs with
      | calm | begins | resumes =>
        rw [List.append_nil] at hdeeds
        exact ih hdeeds
      | abort | turn =>
        rw [List.concat_eq_append, ← List.cons_append, ← List.append_assoc] at hdeeds
        exact ih (List.append_inj' hdeeds rfl).1

end Kept

end Server

end Automation
