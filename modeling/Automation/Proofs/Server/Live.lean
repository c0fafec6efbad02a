import Automation.Proofs.Run.Check
import Automation.Proofs.Server.Turn
import Mathlib.Data.List.Perm.Subperm

/-!
# Runs of a server

The runs of a server are those of its tasks and those that are queued to be resumed. A turn does its
work on the run of its task alone: the run goes on, if it has not seen that it was aborted, or it is
over.
-/

namespace Automation

variable {τ : Type}

/-! ## Ids -/

/-- The id that a store gives at a count. -/
def idOf (count : Nat) : String := s!"id-{count}"

theorem idOf_injective : Function.Injective idOf := by
  intro n m h
  have hrepr : n.repr = m.repr := (String.append_right_inj _).mp h
  have hdigits := congrArg String.toList hrepr
  rw [Nat.toList_repr, Nat.toList_repr] at hdigits
  rw [← Nat.ofDigitChars_toDigits (by decide : 1 < 10) (by decide) (n := n), hdigits,
    Nat.ofDigitChars_toDigits (by decide) (by decide)]

/-- A store gave an id. -/
def Store.Gave (s : Store τ) (id : String) : Prop := ∃ count ≤ s.given, id = idOf count

theorem Store.Gave.mono {s s' : Store τ} {id : String} (h : s.Gave id) (hle : s.given ≤ s'.given) :
    s'.Gave id := by
  obtain ⟨count, hcount, rfl⟩ := h
  exact ⟨count, Nat.le_trans hcount hle, rfl⟩

theorem Store.not_gave {s : Store τ} {count : Nat} (h : s.given < count) : ¬ s.Gave (idOf count) := by
  rintro ⟨count', hle, heq⟩
  have := idOf_injective heq
  omega

/-! ## Flags -/

/-- The microseconds that a flag is kept. -/
def AbortFlags.span (flags : AbortFlags) : Int := flags.lifetime * Time.second

/-- A name that was erased has no value; every other name reads as before. -/
theorem Entries.get?_erase {α : Type} (name other : String) (entries : Entries α) :
    (entries.erase name).get? other = if name = other then none else entries.get? other := by
  induction entries with
  | nil => simp [erase]
  | cons entry rest ih =>
    obtain ⟨key, value⟩ := entry
    unfold erase at ih ⊢
    by_cases hkey : key = name
    · subst hkey
      rw [List.filter_cons_of_neg (by simp), ih]
      by_cases h : key = other <;> simp [h]
    · rw [List.filter_cons_of_pos (by simpa using hkey), get?_cons, get?_cons, ih]
      by_cases h : key = other
      · have hname : name ≠ other := fun heq => hkey (h.trans heq.symm)
        simp [h, hname]
      · simp [h]

namespace AbortFlags

variable {flags : AbortFlags} {runId other : String} {reading : Nat}

/-- The flag of a run is set and will still be there at a reading. -/
def Holds (flags : AbortFlags) (runId : String) (reading : Nat) : Prop :=
  (flags.expiries.get? (flags.key runId)).any ((reading : Int) < ·) = true

theorem key_inj : flags.key runId = flags.key other ↔ runId = other :=
  String.append_right_inj _

theorem isAborted_iff :
    flags.isAborted runId reading = true ↔ flags.reachable = true ∧ flags.Holds runId reading := by
  rw [isAborted, Bool.and_eq_true, Holds]

theorem clear_holds (h : runId ≠ other) :
    (flags.clear other).Holds runId reading ↔ flags.Holds runId reading := by
  unfold clear
  split
  · have hkey : flags.key runId ≠ flags.key other := fun heq => h (key_inj.mp heq)
    change ((Entries.erase (flags.key other) flags.expiries).get? (flags.key runId)).any _ = true ↔ _
    rw [Entries.get?_erase, if_neg (Ne.symm hkey)]
    rfl
  · rfl

end AbortFlags

/-! ## Runs of a server -/

/-- The resumption for which a job is queued, with the id of the job. -/
def Job.resumption (j : Job τ) : Option (String × Continuation τ) :=
  match j.work with
  | .tick => none
  | .resume c => some (j.id, c)

namespace Scheduler

/-- The queued resumptions. -/
def resumptions (s : Scheduler τ) : List (String × Continuation τ) := s.jobs.filterMap Job.resumption

variable (s : Scheduler τ)

theorem resumptions_remove (id : String) :
    (s.remove id).resumptions = s.resumptions.filter (·.1 ≠ id) := by
  unfold resumptions remove
  induction s.jobs with
  | nil => rfl
  | cons j jobs ih =>
    by_cases hid : j.id = id <;> cases hwork : j.work <;> simp_all [Job.resumption]

theorem resumptions_add (j : Job τ) :
    (s.add j).resumptions = s.resumptions.filter (·.1 ≠ j.id) ++ j.resumption.toList := by
  have hjobs : (s.add j).jobs = (s.remove j.id).jobs ++ [j] := rfl
  rw [← resumptions_remove]
  unfold resumptions
  rw [hjobs, List.filterMap_append]
  cases hj : j.resumption <;> simp [hj]

/-- A job that is moved to another time goes on with the same run. -/
theorem resumptions_expedite (runId : String) (now : Time.Stamp) :
    (s.expediteResume runId now).2.resumptions = s.resumptions := by
  unfold expediteResume
  dsimp only
  split
  · unfold resumptions
    rw [List.filterMap_map]
    refine List.filterMap_congr fun j _ => ?_
    rw [Function.comp_apply]
    split <;> rfl
  · rfl

end Scheduler

/-- A task carries out its run, which looks for requests to abort it. From its start, or since it
was resumed, the run has come through some exchanges. -/
def Task.CarriedOut [ActiveTime τ] (t : Task τ) (e : Engine)
    (origin : Dialogue (Except Escape (RunResult τ))) (history : List Exchange) : Prop :=
  e.watchesAborts = true ∧ e.Carries t.runId origin ∧ origin.Reaches history t.rest

/-- A task carries out its run. -/
def Task.UnderWay [ActiveTime τ] (t : Task τ) : Prop :=
  ∃ (e : Engine) (origin : Dialogue (Except Escape (RunResult τ))) (history : List Exchange),
    t.CarriedOut e origin history

namespace Server

/-- The runs that are under way or queued. -/
def live (s : Server τ) : List String :=
  s.tasks.map (·.runId) ++ s.scheduler.resumptions.map (·.2.runId)

/-- The runs that are under way or queued beside that of a task. -/
def others (s : Server τ) (before behind : List (Task τ)) : List String :=
  (before ++ behind).map (·.runId) ++ s.scheduler.resumptions.map (·.2.runId)

theorem live_perm {s : Server τ} {before behind : List (Task τ)} {t : Task τ}
    (h : s.tasks = before ++ t :: behind) : s.live.Perm (t.runId :: s.others before behind) := by
  unfold live others
  rw [h]
  exact .append_right _ (.map Task.runId List.perm_middle)

/-! ## What a turn makes of the runs -/

section Turned

variable [ActiveTime τ] {s s' : Server τ} {before behind : List (Task τ)} {t : Task τ}

/-- What a turn makes of the runs of a server. Either the run of the task goes on, and it has not
seen that it was aborted; or it is over. -/
structure Turned (s : Server τ) (before : List (Task τ)) (t : Task τ) (behind : List (Task τ))
    (s' : Server τ) : Prop where
  tasks : ∀ u ∈ s'.tasks, u ∈ before ++ behind ∨ u.UnderWay
  jobs : ∀ p ∈ s'.scheduler.resumptions,
    p ∈ s.scheduler.resumptions ∨ p.1 = resumeJobId p.2.runId
  span : s'.flags.span = s.flags.span
  flags : ∀ id, id ≠ t.runId → ∀ reading, s'.flags.Holds id reading ↔ s.flags.Holds id reading
  runs : (s'.flags = s.flags ∧ (∀ x, ⟨.aborted x, true⟩ ∉ s.talkOf t) ∧
      ∃ rest, rest.Sublist (s.others before behind) ∧ s'.live.Perm (t.runId :: rest)) ∨
    s'.live = s.others before behind

/-- A run whose task ends leaves the others as they are. -/
theorem Turned.over (htasks : s'.tasks = before ++ behind) (hjobs : s'.scheduler = s.scheduler)
    (hflags : s'.flags = s.flags ∨ s'.flags = s.flags.clear t.runId) :
    s.Turned before t behind s' where
  tasks := by
    rw [htasks]
    exact fun u hu => .inl hu
  jobs := by
    rw [hjobs]
    exact fun p hp => .inl hp
  span := by
    obtain h | h := hflags <;> rw [h]
    unfold AbortFlags.clear
    split <;> rfl
  flags := by
    intro id hid reading
    obtain h | h := hflags <;> rw [h]
    exact AbortFlags.clear_holds hid
  runs := by
    refine .inr ?_
    unfold live others
    rw [htasks, hjobs]

/-- A run whose task waits is under way as before. -/
theorem Turned.waiting {u : Task τ} (hrun : u.runId = t.runId) (hu : u.UnderWay)
    (htasks : s'.tasks = before ++ u :: behind) (hflags : s'.flags = s.flags)
    (hjobs : s'.scheduler = s.scheduler) (hunseen : ∀ x, ⟨.aborted x, true⟩ ∉ s.talkOf t) :
    s.Turned before t behind s' where
  tasks := by
    intro v hv
    rw [htasks] at hv
    rcases List.mem_append.mp hv with hv | hv
    · exact .inl (List.mem_append_left _ hv)
    · rcases List.mem_cons.mp hv with rfl | hv
      · exact .inr hu
      · exact .inl (List.mem_append_right _ hv)
  jobs := by
    rw [hjobs]
    exact fun p hp => .inl hp
  span := by rw [hflags]
  flags := by
    rw [hflags]
    exact fun _ _ _ => Iff.rfl
  runs := by
    refine .inl ⟨hflags, hunseen, s.others before behind, .refl _, ?_⟩
    have hperm := live_perm htasks
    unfold others at hperm ⊢
    rwa [hjobs, hrun] at hperm

/-- A run that is suspended leaves the tasks, and its rest takes the place in the queue of any rest
of it that was there. -/
theorem Turned.queued {c : Continuation τ} (hrun : c.runId = t.runId)
    (htasks : s'.tasks = before ++ behind) (hflags : s'.flags = s.flags)
    (hjobs : s'.scheduler = s.scheduler.scheduleResume c)
    (hunseen : ∀ x, ⟨.aborted x, true⟩ ∉ s.talkOf t) : s.Turned before t behind s' := by
  have hqueue : s'.scheduler.resumptions
      = s.scheduler.resumptions.filter (·.1 ≠ resumeJobId c.runId) ++
        [(resumeJobId c.runId, c)] := by
    rw [hjobs]
    exact s.scheduler.resumptions_add (.resume c)
  refine ⟨?_, ?_, by rw [hflags], fun id _ reading => by rw [hflags],
    .inl ⟨hflags, hunseen, (before ++ behind).map (·.runId) ++
      (s.scheduler.resumptions.filter (·.1 ≠ resumeJobId c.runId)).map (·.2.runId), ?_, ?_⟩⟩
  · intro u hu
    exact .inl (htasks ▸ hu)
  · intro p hp
    rw [hqueue] at hp
    rcases List.mem_append.mp hp with hp | hp
    · exact .inl (List.mem_of_mem_filter hp)
    · cases List.mem_singleton.mp hp
      exact .inr rfl
  · exact .append_left (.map _ List.filter_sublist) _
  · have hids : s'.scheduler.resumptions.map (·.2.runId)
        = (s.scheduler.resumptions.filter (·.1 ≠ resumeJobId c.runId)).map (·.2.runId)
          ++ [t.runId] := by
      rw [hqueue, List.map_append, ← hrun]
      rfl
    unfold live
    rw [htasks, hids, ← List.append_assoc]
    exact List.perm_append_singleton _ _

/-- A run that waits behind a request that takes time has not seen that it was aborted. -/
theorem unaborted {e : Engine} {runId x : String} {history talk : List Exchange} {y : Exchange}
    {origin rest : Dialogue (Except Escape (RunResult τ))} (hcarries : e.Carries runId origin)
    (hreach : origin.Reaches (history ++ (talk ++ [y])) rest) (hy : ¬ y.request.IsQuick) :
    ⟨.aborted x, true⟩ ∉ talk ++ [y] := by
  intro hx
  rcases List.mem_append.mp hx with hx | hx
  · obtain ⟨pre, post, rfl⟩ := List.append_of_mem hx
    have hsplit : history ++ (pre ++ ⟨.aborted x, true⟩ :: post ++ [y])
        = (history ++ pre) ++ ⟨.aborted x, true⟩ :: (post ++ [y]) := by simp
    rw [hsplit] at hreach
    have hclock : y.IsClock := hcarries.after_aborted hreach y (by simp)
    rw [show y.request = .clock from hclock] at hy
    exact hy trivial
  · cases List.mem_singleton.mp hx
    exact hy trivial

/-- A turn does its work on the run of its task alone. -/
theorem AfterTurn.turned (h : s.AfterTurn before t behind s') (ht : t.UnderWay) :
    s.Turned before t behind s' := by
  obtain ⟨e, origin, history, hwatches, hcarries, hreach⟩ := ht
  -- What is told of a run at its end is told by its whole course.
  have htold : ∀ told, t.rest.Course (s.talkOf t) (.ok told) → ∃ log : List (Pass τ),
      Engine.TellsOf t.runId log told ∧ ((∃ x, ⟨.aborted x, true⟩ ∈ s.talkOf t) →
        ∃ p ∈ log, p.result = .error (.aborted t.runId)) := by
    intro told hcourse
    obtain ⟨opening, log, closing, hsplits, htold⟩ := hcarries.splits (hreach.course hcourse)
    refine ⟨log, htold told rfl, ?_⟩
    rintro ⟨x, hx⟩
    obtain ⟨pre, post, hsplit⟩ := List.append_of_mem hx
    rw [hsplit, ← List.append_assoc] at hsplits
    exact hsplits.after_aborted.2
  cases h with
  | waits u talk x hnumber hrun hdispatcher hrest htalk hx htasks hflags hjobs =>
    have hon : origin.Reaches (history ++ s.talkOf t) u.rest := hreach.trans hrest
    have hu : u.UnderWay := ⟨e, origin, _, hwatches, hrun ▸ hcarries, hon⟩
    refine .waiting hrun hu htasks hflags hjobs fun y => ?_
    rw [htalk] at hon ⊢
    exact unaborted hcarries hon hx
  | broke htalk htasks hflags hjobs => exact .over htasks hjobs (.inl hflags)
  | ended outcome hcourse htasks hflags hjobs => exact .over htasks hjobs (.inl hflags)
  | cleared told hcourse htasks hflags hjobs =>
    obtain ⟨log, htells, -⟩ := htold told hcourse
    exact .over htasks hjobs (.inr (htells.id ▸ hflags))
  | queued told c hcourse hstatus hc htasks hflags hjobs =>
    obtain ⟨log, htells, hyes⟩ := htold told hcourse
    refine .queued (htells.continuation c hc) htasks hflags hjobs fun y hy => ?_
    -- A run that has seen that it was aborted has failed, so it is not queued.
    obtain ⟨hfailed, -⟩ := htells.aborted (hyes ⟨y, hy⟩)
    rw [hfailed] at hstatus
    cases hstatus

omit [ActiveTime τ] in
/-- What a task says in its turn is part of what its run can say. -/
theorem AfterTurn.course (h : s.AfterTurn before t behind s') :
    ∃ more result, t.rest.Course (s.talkOf t ++ more) result := by
  cases h with
  | waits u talk x hnumber hrun hdispatcher hrest =>
    exact ⟨_, _, hrest.course (Dialogue.course_answered Dialogue.still u.rest)⟩
  | broke htalk =>
    rw [htalk]
    exact ⟨_, _, Dialogue.course_answered Dialogue.still t.rest⟩
  | ended outcome hcourse => exact ⟨[], _, (List.append_nil (s.talkOf t)).symm ▸ hcourse⟩
  | cleared told hcourse => exact ⟨[], _, (List.append_nil (s.talkOf t)).symm ▸ hcourse⟩
  | queued told c hcourse => exact ⟨[], _, (List.append_nil (s.talkOf t)).symm ▸ hcourse⟩

/-- In its turn a task looks for requests to abort its own run. -/
theorem AfterTurn.own {x : String} {seen : Bool} (h : s.AfterTurn before t behind s')
    (ht : t.UnderWay) (hx : ⟨.aborted x, seen⟩ ∈ s.talkOf t) : x = t.runId := by
  obtain ⟨e, origin, history, hwatches, hcarries, hreach⟩ := ht
  obtain ⟨more, result, hcourse⟩ := h.course
  obtain ⟨opening, log, closing, hsplits, -⟩ := hcarries.splits (hreach.course hcourse)
  exact hsplits.own (List.mem_append_right _ (List.mem_append_left _ hx))

end Turned

end Server

end Automation
