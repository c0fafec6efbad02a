import Automation.Proofs.Run.World
import Automation.Proofs.Server.Abort
import Automation.Proofs.Server.Moves

/-!
# Runs side by side

The tasks of a server share its clock, its flags and all that they call, and have their turns in any
order. A run is followed through all this (`Server.Follows`): what it does in its own turns, while
anything else may happen in between. If it is answered out of its own past, it does what it does
alone (`Server.goes_as_alone`), in a world whose clock moves only while the run itself waits.

That a task goes on as soon as it can is asked for here (`Server.Fits`), and it is so wherever the
tasks have their turns in the order in which they wake (`Server.Punctual.nextTurn`).
-/

namespace Automation

variable {α τ : Type}

/-! ## Surroundings -/

/-- What a run is answered by those it calls, and how soon, and whether it was asked to end, all out
of its own past. -/
structure Surroundings where
  /-- The answer to a call, and the microseconds until it is there. -/
  reply : List Exchange → Call → Float → Option Answer × Nat
  asked : List Exchange → Bool

namespace Surroundings

variable {σ : Surroundings} {past t t' : List Exchange}

/-- How long a request takes, in microseconds. -/
def span (σ : Surroundings) (past : List Exchange) : Request → Nat
  | .clock | .aborted _ => 0
  | .sleep seconds => pauseMicros seconds
  | .call c timeout => (σ.reply past c timeout).2

/-- How long some exchanges take. -/
def elapsed (σ : Surroundings) : List Exchange → List Exchange → Nat
  | _, [] => 0
  | past, x :: t => σ.span past x.request + σ.elapsed (past ++ [x]) t

@[simp] theorem elapsed_nil : σ.elapsed past [] = 0 := rfl

@[simp] theorem elapsed_cons {x : Exchange} :
    σ.elapsed past (x :: t) = σ.span past x.request + σ.elapsed (past ++ [x]) t := rfl

theorem elapsed_append :
    σ.elapsed past (t ++ t') = σ.elapsed past t + σ.elapsed (past ++ t) t' := by
  induction t generalizing past with
  | nil => simp
  | cons x t ih => simp [ih, Nat.add_assoc]

/-- The time after one more request. -/
theorem elapsed_snoc {x : Exchange} :
    σ.elapsed [] (past ++ [x]) = σ.elapsed [] past + σ.span past x.request := by
  simp [elapsed_append]

/-- The world of a run that is alone from some reading of the clock on. -/
def world (σ : Surroundings) (start : Nat) : World
  | past, .clock => start + σ.elapsed [] past
  | past, .aborted _ => σ.asked past
  | _, .sleep _ => .ok ()
  | past, .call c timeout => (σ.reply past c timeout).1

/-- In a talk, calls are answered by a script as in the surroundings, and as soon. -/
def Replies (σ : Surroundings) (past talk : List Exchange) (script : Script) : Prop :=
  ∀ pre c timeout answer, talk = pre ++ [⟨.call c timeout, answer⟩] →
    σ.reply (past ++ pre) c timeout
      = ((script.reply c timeout).1, (script.reply c timeout).2.1)

/-- In a talk, the run was asked to end in the surroundings if it really was. -/
def Asks (σ : Surroundings) (past talk : List Exchange) (asked : Prop) : Prop :=
  ∀ pre x seen post, talk = pre ++ ⟨.aborted x, seen⟩ :: post →
    (σ.asked (past ++ pre) = true ↔ asked)

theorem Replies.tail {x : Exchange} {script : Script} (h : σ.Replies past (x :: t) script) :
    σ.Replies (past ++ [x]) t script := by
  intro pre c timeout answer hpre
  simpa using h (x :: pre) c timeout answer (by simp [hpre])

theorem Asks.tail {x : Exchange} {asked : Prop} (h : σ.Asks past (x :: t) asked) :
    σ.Asks (past ++ [x]) t asked := by
  intro pre y seen post hpre
  simpa using h (x :: pre) y seen post (by simp [hpre])

end Surroundings

/-! ## Talks -/

namespace Server

section Talks

variable {σ : Surroundings} {s : Server τ} {d : Dialogue α} {past : List Exchange} {start : Nat}
  {asked : Prop}

/-- A talk on a server goes as in the world of the run, if the server answers as the surroundings
do. When the run then waits, it waits as long as in that world. -/
theorem talk_in_world (hclock : s.elapsed = start + σ.elapsed [] past)
    (hreplies : σ.Replies past (s.talk d) s.script) (hasks : σ.Asks past (s.talk d) asked)
    (hseen : ∀ x seen, ⟨.aborted x, seen⟩ ∈ s.talk d → (seen = true ↔ asked)) :
    (σ.world start).Answers past (s.talk d) ∧
      ∀ wakesAt rest s', s.converse d = (.waiting wakesAt rest, s') →
        wakesAt = start + σ.elapsed [] (past ++ s.talk d) := by
  induction d generalizing past with
  | done a =>
    refine ⟨trivial, fun wakesAt rest s' h => ?_⟩
    have hover : Stop.over a = .waiting wakesAt rest := congrArg Prod.fst h
    cases hover
  | ask r next ih =>
    -- A request that takes no time leaves the clock as it is, so the rest of the talk goes on in
    -- the same world.
    have hquick {answer : r.Answer} (htalk : s.talk (.ask r next) = ⟨r, answer⟩ :: s.talk (next answer))
        (hspan : σ.span past r = 0) (hanswer : answer = σ.world start past r)
        (hconverse : s.converse (.ask r next) = s.converse (next answer)) :
        (σ.world start).Answers past (s.talk (.ask r next)) ∧
          ∀ wakesAt rest s', s.converse (.ask r next) = (.waiting wakesAt rest, s') →
            wakesAt = start + σ.elapsed [] (past ++ s.talk (.ask r next)) := by
      rw [htalk] at hreplies hasks hseen ⊢
      have hclock' : s.elapsed = start + σ.elapsed [] (past ++ [⟨r, answer⟩]) := by
        rw [Surroundings.elapsed_snoc, hspan]
        exact hclock
      obtain ⟨hanswers, hwakes⟩ := ih answer hclock' hreplies.tail hasks.tail
        fun x seen hx => hseen x seen (List.mem_cons_of_mem _ hx)
      refine ⟨⟨hanswer, hanswers⟩, ?_⟩
      rw [hconverse, List.append_cons]
      exact hwakes
    -- A request that takes time ends the talk.
    have hslow {answer : r.Answer} (htalk : s.talk (.ask r next) = [⟨r, answer⟩])
        (hanswer : answer = σ.world start past r)
        (hwakes : ∀ wakesAt rest s', s.converse (.ask r next) = (.waiting wakesAt rest, s') →
          wakesAt = s.elapsed + σ.span past r) :
        (σ.world start).Answers past (s.talk (.ask r next)) ∧
          ∀ wakesAt rest s', s.converse (.ask r next) = (.waiting wakesAt rest, s') →
            wakesAt = start + σ.elapsed [] (past ++ s.talk (.ask r next)) := by
      rw [htalk]
      refine ⟨⟨hanswer, trivial⟩, fun wakesAt rest s' h => ?_⟩
      rw [hwakes wakesAt rest s' h, hclock, Surroundings.elapsed_snoc, Nat.add_assoc]
    cases r with
    | clock => exact hquick rfl rfl hclock rfl
    | aborted runId =>
      refine hquick rfl rfl ?_ rfl
      have hasked := hasks [] runId _ _ rfl
      rw [List.append_nil] at hasked
      exact Bool.eq_iff_iff.mpr ((hseen runId _ List.mem_cons_self).trans hasked.symm)
    | sleep seconds =>
      refine hslow rfl rfl fun wakesAt rest s' h => ?_
      obtain ⟨rfl, -⟩ := Stop.waiting.inj (congrArg Prod.fst h)
      rfl
    | call c timeout =>
      have hreply := hreplies [] c timeout _ rfl
      rw [List.append_nil] at hreply
      refine hslow rfl (congrArg Prod.fst hreply).symm fun wakesAt rest s' h => ?_
      obtain ⟨rfl, -⟩ := Stop.waiting.inj (congrArg Prod.fst h)
      exact congrArg (fun replied => s.elapsed + replied.2) hreply.symm

end Talks

/-! ## Turns -/

variable [ActiveTime τ] [RunningMean τ]

/-- How a task ends whose run has come out: as the run did, unless that cannot be stored. -/
def Ends (ending : Ending τ) (outcome : Except Escape (RunResult τ)) : Prop :=
  ending = outcome.mapError .escape ∨
    ∃ told failure, outcome = .ok told ∧ ending = .error failure

theorem conclude_ends (s : Server τ) (t : Task τ) (outcome : Except Escape (RunResult τ)) :
    Ends ((Service.conclude t outcome).run s).1 outcome := by
  have hconcludes := Service.conclude_concludes s t outcome
  generalize (Service.conclude t outcome).run s = concluded at hconcludes
  cases hconcludes with
  | unrecorded told failure => exact .inr ⟨told, failure, rfl, rfl⟩
  | escaped | tried | recorded => exact .inl rfl

/-- At the turn of its task a run is answered as in its surroundings: its task wakes in time, its
calls are answered out of its past, and it was asked to end as it was in its surroundings. -/
structure Fits (σ : Surroundings) (deeds : List Deed) (past : List Exchange) (s : Server τ)
    (t : Task τ) : Prop where
  punctual : s.elapsed ≤ t.wakesAt
  replies : σ.Replies past (s.talkOf t) s.script
  asks : σ.Asks past (s.talkOf t) (s.flags.reachable = true ∧
    Requested deeds t.runId s.flags.span (max s.elapsed t.wakesAt))

section Turns

variable {σ : Surroundings} {s s' : Server τ} {before behind : List (Task τ)} {t u : Task τ}
  {deeds more : List Deed} {past : List Exchange} {start : Nat}

/-- What becomes of a task in its turn, and when it wakes next. -/
theorem turn_in_world (before behind : List (Task τ)) (hfits : Fits σ deeds past s t)
    (hclock : t.wakesAt = start + σ.elapsed [] past)
    (hseen : ∀ x seen, ⟨.aborted x, seen⟩ ∈ s.talkOf t → (seen = true ↔ s.flags.reachable = true ∧
      Requested deeds t.runId s.flags.span (max s.elapsed t.wakesAt))) :
    (σ.world start).Answers past (s.talkOf t) ∧
    ((∃ u, (s.turn before t behind).1 = none ∧
        (s.turn before t behind).2.tasks = before ++ u :: behind ∧ u.runId = t.runId ∧
        u.started = true ∧ t.rest.Reaches (s.talkOf t) u.rest ∧
        u.wakesAt = start + σ.elapsed [] (past ++ s.talkOf t)) ∨
      (∃ failure, t.started = false ∧ s.talkOf t = [] ∧
        (s.turn before t behind).1 = some (.error failure)) ∨
      ∃ outcome ending, t.rest.Course (s.talkOf t) outcome ∧ Ends ending outcome ∧
        (s.turn before t behind).1 = some ending) := by
  obtain ⟨hpunctual, hreplies, hasks⟩ := hfits
  have hnow : (s.awake t).elapsed = start + σ.elapsed [] past :=
    (Nat.max_eq_right hpunctual).trans hclock
  -- The run talks with the server as it is when its row is in the store.
  have htalks {s₁ : Server τ} {store : Store τ} (hs₁ : s₁ = { s.awake t with store })
      (htalk : s.talkOf t = s₁.talk t.rest) :
      (σ.world start).Answers past (s.talkOf t) ∧
        ∀ wakesAt rest s', s₁.converse t.rest = (.waiting wakesAt rest, s') →
          wakesAt = start + σ.elapsed [] (past ++ s.talkOf t) := by
    subst hs₁
    rw [htalk] at hreplies hasks hseen ⊢
    exact talk_in_world hnow hreplies hasks hseen
  rcases htake : s.takeTurn t with ⟨became | ending, s'⟩ <;> have htakes := s.takeTurn_takes t <;>
    rw [htake] at htakes
  · rw [turn_of_waits htake]
    cases htakes with
    | waits s₁ store wakesAt rest script calls hs₁ hbegin hgiven htalk hconverse hrest hslow =>
      obtain ⟨hanswers, hwakes⟩ := htalks hs₁ htalk
      exact ⟨hanswers, .inl ⟨_, rfl, rfl, rfl, rfl, hrest, hwakes _ _ _ hconverse⟩⟩
  · rw [turn_of_ended htake]
    cases htakes with
    | refused failure store hbegin hgiven htalk =>
      have hstarted : t.started = false := by
        by_contra hstarted
        rw [Service.begin, Bool.not_eq_false .. |>.mp hstarted] at hbegin
        cases congrArg Prod.fst hbegin
      rw [htalk]
      exact ⟨trivial, .inr (.inl ⟨failure, hstarted, rfl, rfl⟩)⟩
    | ends s₁ s' store outcome ending hs₁ hbegin hgiven htalk hconverse hcourse hconclude =>
      obtain ⟨hanswers, -⟩ := htalks hs₁ htalk
      have hends := conclude_ends s₁ t outcome
      rw [hconclude] at hends
      exact ⟨hanswers, .inr (.inr ⟨outcome, ending, hcourse, hends, rfl⟩)⟩

/-- A task stays as it is while the run has no turn. -/
theorem Step.stays (hs : s.Step more s') (ht : t ∈ s.tasks)
    (hsilent : ∀ reading inReach talk, .talked t.runId reading inReach talk ∉ more) :
    t ∈ s'.tasks := by
  cases hs with
  | calm hcalm => rwa [hcalm.tasks]
  | abort d runId tenant hrun => rwa [(accepts_of_abortRun hrun).tasks]
  | turn before u behind htasks =>
    have hother : t ≠ u := by
      rintro rfl
      exact hsilent _ _ _ (List.mem_singleton_self _)
    -- Whatever becomes of the other task, those before and behind it stay.
    have hstays : t ∈ before ++ behind := by
      rw [htasks, List.mem_append, List.mem_cons] at ht
      rw [List.mem_append]
      exact ht.imp_right fun h => h.resolve_left hother
    cases (s.turn_cases before u behind).2.1 with
    | waits v talk x hnumber hrun hdispatcher hrest htalk hx htasks' =>
      rw [htasks']
      exact (List.sublist_cons_self v behind).append_left before |>.subset hstays
    | broke htalk htasks' => exact htasks' ▸ hstays
    | ended outcome hcourse htasks' => exact htasks' ▸ hstays
    | cleared told hcourse htasks' => exact htasks' ▸ hstays
    | queued told c hcourse hstatus hc htasks' => exact htasks' ▸ hstays
  | begins u e d event count hs => exact hs.tasks.symm.subset (List.mem_cons_of_mem u ht)
  | resumes u e id c hs => exact hs.tasks.symm.subset (List.mem_cons_of_mem u ht)

omit [RunningMean τ] in
/-- There is one task for a run. -/
theorem Kept.task_unique (h : s.Kept deeds) (ht : t ∈ s.tasks) (hu : u ∈ s.tasks)
    (hrun : u.runId = t.runId) : u = t := by
  have hnodup : (s.tasks.map (·.runId)).Nodup := h.nodup.of_append_left
  exact List.inj_on_of_nodup_map hnodup hu ht hrun

end Turns

/-! ### Turns in order -/

/-- The server after the turn of the next task, with how that task ended if it did. -/
def nextTurn (s : Server τ) : Option (Ending τ) × Server τ :=
  match nextTask s.tasks with
  | none => (none, s)
  | some (before, t, behind) => s.turn before t behind

/-- The run whose task is next. -/
def nextRun (s : Server τ) : Option String := (nextTask s.tasks).map (·.2.1.runId)

/-- No task is late. -/
def Punctual (s : Server τ) : Prop := ∀ t ∈ s.tasks, s.elapsed ≤ t.wakesAt

section InOrder

variable {s s' : Server τ} {before behind : List (Task τ)} {t u : Task τ}

omit [ActiveTime τ] [RunningMean τ] in
/-- The next task wakes before all others. -/
theorem nextTask_first {tasks : List (Task τ)} (h : nextTask tasks = some (before, t, behind)) :
    ∀ u ∈ tasks, t.wakesAt ≤ u.wakesAt := by
  -- The induction is on the tasks: the first one is compared with the next of the rest.
  induction tasks generalizing before t behind with
  | nil => cases h
  | cons v rest ih =>
    unfold nextTask at h
    split at h
    · rename_i hnone
      obtain rfl : rest = [] := by
        by_contra hrest
        obtain ⟨next, hsome⟩ := nextTask_isSome hrest
        rw [hsome] at hnone
        cases hnone
      cases h
      simp
    · rename_i before' w behind' hrest
      have hw := ih hrest
      by_cases hprecedes : v.precedes w = true
      · rw [if_pos hprecedes] at h
        cases h
        simp only [Task.precedes, Bool.or_eq_true, Bool.and_eq_true, decide_eq_true_eq,
          beq_iff_eq] at hprecedes
        refine List.forall_mem_cons.mpr ⟨Nat.le_refl _, fun u hu => ?_⟩
        have := hw u hu
        omega
      · rw [if_neg hprecedes] at h
        cases h
        simp only [Task.precedes, Bool.or_eq_true, Bool.and_eq_true, decide_eq_true_eq,
          beq_iff_eq] at hprecedes
        exact List.forall_mem_cons.mpr ⟨by omega, hw⟩

omit [ActiveTime τ] [RunningMean τ] in
/-- Who comes to wait does not wait for the past. -/
theorem converse_later {d rest : Dialogue α} {wakesAt : Nat}
    (h : (s.converse d).1 = .waiting wakesAt rest) : s.elapsed ≤ wakesAt := by
  induction d with
  | done a => cases h
  | ask r next ih =>
    cases r with
    | clock => exact ih _ h
    | aborted runId => exact ih _ h
    | sleep seconds =>
      obtain ⟨rfl, -⟩ := Stop.waiting.inj h
      exact Nat.le_add_right _ _
    | call c timeout =>
      obtain ⟨rfl, -⟩ := Stop.waiting.inj h
      exact Nat.le_add_right _ _

theorem takeTurn_later (h : s.takeTurn t = (.inl u, s')) : max s.elapsed t.wakesAt ≤ u.wakesAt := by
  have htakes := s.takeTurn_takes t
  rw [h] at htakes
  cases htakes with
  | waits s₁ store wakesAt rest script calls hs₁ hbegin hgiven htalk hconverse hrest hslow =>
    subst hs₁
    exact converse_later (congrArg Prod.fst hconverse)

/-- Where tasks have their turns as they wake, none is ever late. -/
theorem Punctual.nextTurn (h : s.Punctual) : s.nextTurn.2.Punctual := by
  unfold Server.nextTurn
  rcases hnext : nextTask s.tasks with _ | ⟨before, t, behind⟩
  · exact h
  · have hfirst := nextTask_first hnext
    have htasks := nextTask_eq hnext
    have ht : s.elapsed ≤ t.wakesAt := h t (htasks ▸ List.mem_append_cons_self)
    have hothers : ∀ u ∈ before ++ behind, t.wakesAt ≤ u.wakesAt := fun u hu =>
      hfirst u (htasks ▸ (List.sublist_cons_self t behind).append_left before |>.subset hu)
    intro u hu
    dsimp only at hu ⊢
    rw [(s.turn_cases before t behind).2.2, Nat.max_eq_right ht]
    rcases htake : s.takeTurn t with ⟨v | ending, s'⟩
    · rw [turn_of_waits htake] at hu
      have hv := takeTurn_later htake
      rw [Nat.max_eq_right ht] at hv
      rcases List.mem_append.mp hu with hu | hu
      · exact hothers u (List.mem_append_left _ hu)
      · rcases List.mem_cons.mp hu with rfl | hu
        · exact hv
        · exact hothers u (List.mem_append_right _ hu)
    · rw [turn_of_ended htake] at hu
      exact hothers u hu

end InOrder

/-! ## Following a run -/

section Follows

variable {σ : Surroundings} {s₀ s s' : Server τ} {t : Task τ} {since deeds : List Deed}
  {past : List Exchange} {ended : Option (Ending τ)}

/-- A run is followed from one of its tasks on, through its own turns, until the task has ended. In
between anything may happen that is not a turn of this run. -/
inductive Follows (σ : Surroundings) (since : List Deed) (s₀ : Server τ) (t : Task τ) :
    List Deed → List Exchange → Option (Ending τ) → Server τ → Prop where
  | start : Follows σ since s₀ t since [] none s₀
  | other {deeds more : List Deed} {past : List Exchange} {s s' : Server τ}
      (h : Follows σ since s₀ t deeds past none s) (hs : s.Step more s')
      (hsilent : ∀ reading inReach talk, .talked t.runId reading inReach talk ∉ more) :
      Follows σ since s₀ t (deeds ++ more) past none s'
  | own {deeds : List Deed} {past : List Exchange} {s : Server τ}
      (h : Follows σ since s₀ t deeds past none s) (before : List (Task τ)) (u : Task τ)
      (behind : List (Task τ)) (htasks : s.tasks = before ++ u :: behind)
      (hrun : u.runId = t.runId) (hfits : Fits σ deeds past s u) :
      Follows σ since s₀ t
        (deeds ++ [.talked u.runId (max s.elapsed u.wakesAt) s.flags.reachable (s.talkOf u)])
        (past ++ s.talkOf u) (s.turn before u behind).1 (s.turn before u behind).2

/-- To follow a run is to see a trace. -/
theorem Follows.trace (h : Follows σ since s t deeds past ended s') (hs : s₀.Trace since s) :
    s₀.Trace deeds s' := by
  induction h with
  | start => exact hs
  | other h hs hsilent ih => exact ih.step hs
  | own h before u behind htasks hrun hfits ih => exact ih.step (.turn before u behind htasks)

/-- A run has come as far as it comes alone. -/
structure AsAlone (σ : Surroundings) (t : Task τ) (deeds : List Deed) (past : List Exchange)
    (ended : Option (Ending τ)) (s : Server τ) : Prop where
  answers : (σ.world t.wakesAt).Answers [] past
  goes : ended = none → ∃ u ∈ s.tasks, u.runId = t.runId ∧ t.rest.Reaches past u.rest ∧
    u.wakesAt = t.wakesAt + σ.elapsed [] past ∧ (u.started = false → t.started = false ∧ past = [])
  ends : ∀ ending, ended = some ending →
    (t.started = false ∧ past = [] ∧ ∃ failure, ending = .error failure) ∨
      ∃ outcome, t.rest.Course past outcome ∧ Ends ending outcome
  /-- Whoever sees a request to end was asked. -/
  asked : ∀ x, ⟨.aborted x, true⟩ ∈ past → ∃ reading, .accepted t.runId reading ∈ deeds

theorem Follows.asAlone (h : Follows σ since s t deeds past ended s') (h₀ : s₀.Fresh)
    (hs : s₀.Trace since s) (ht : t ∈ s.tasks) : AsAlone σ t deeds past ended s' := by
  -- The induction is on what happens to the run. Only its own turns add to its past.
  induction h with
  | start =>
    exact ⟨trivial, fun _ => ⟨t, ht, rfl, .here _, rfl, fun h => ⟨h, rfl⟩⟩,
      fun ending h => absurd h (Option.some_ne_none ending).symm,
      fun x hx => absurd hx List.not_mem_nil⟩
  | other h hstep hsilent ih =>
    obtain ⟨hanswers, hgoes, -, hasked⟩ := ih
    obtain ⟨u, hu, hrun, hgoes⟩ := hgoes rfl
    refine ⟨hanswers, fun _ => ⟨u, hstep.stays hu (hrun ▸ hsilent), hrun, hgoes⟩,
      fun ending h => absurd h (Option.some_ne_none ending).symm, fun x hx => ?_⟩
    obtain ⟨reading, hreading⟩ := hasked x hx
    exact ⟨reading, List.mem_append_left _ hreading⟩
  | @own deeds past s h before u behind htasks hrun hfits ih =>
    obtain ⟨hanswers, hgoes, -, hasked⟩ := ih
    have hkept := (h.trace hs).kept h₀
    -- The task that has its turn is the one that is left of the followed task.
    obtain ⟨v, hv, hvrun, hreach, hwakes, hfirst⟩ := hgoes rfl
    obtain rfl : u = v := hkept.task_unique hv (htasks ▸ List.mem_append_cons_self)
      (hrun.trans hvrun.symm)
    have hseen {x : String} {seen : Bool} (hx : ⟨.aborted x, seen⟩ ∈ s.talkOf u) :=
      (hkept.checked htasks hx).2
    obtain ⟨htalk, hturned⟩ := turn_in_world before behind hfits hwakes
      fun x seen => hseen
    refine ⟨World.answers_append.mpr ⟨hanswers, htalk⟩, ?_, ?_, ?_⟩
    · intro hnone
      rcases hturned with ⟨w, -, htasks', hwrun, hstarted, hrest, hwakes'⟩ |
        ⟨failure, -, -, hended⟩ | ⟨outcome, ending, -, -, hended⟩
      · refine ⟨w, htasks' ▸ List.mem_append_cons_self, hwrun.trans hrun, hreach.trans hrest,
          hwakes', fun hnot => ?_⟩
        rw [hstarted] at hnot
        cases hnot
      · rw [hnone] at hended
        cases hended
      · rw [hnone] at hended
        cases hended
    · intro ending hending
      rcases hturned with ⟨w, hnone, -⟩ | ⟨failure, hstarted, hnothing, hended⟩ |
        ⟨outcome, ending', hcourse, hends, hended⟩
      · rw [hnone] at hending
        cases hending
      · rw [hended] at hending
        cases hending
        obtain ⟨hnever, hpast⟩ := hfirst hstarted
        exact .inl ⟨hnever, by rw [hpast, hnothing]; rfl, failure, rfl⟩
      · rw [hended] at hending
        cases hending
        exact .inr ⟨outcome, hreach.course hcourse, hends⟩
    · intro x hx
      rcases List.mem_append.mp hx with hx | hx
      · obtain ⟨reading, hreading⟩ := hasked x hx
        exact ⟨reading, List.mem_append_left _ hreading⟩
      · obtain ⟨-, reading, hreading, -⟩ := (hseen hx).mp rfl
        exact ⟨reading, List.mem_append_left _ (hrun ▸ hreading)⟩

/-- Runs do not disturb each other. Whatever else begins, has its turns, is aborted or ends on the
server, and in whatever order: a run that is answered out of its own past has made in its turns the
requests that it makes alone, with the same answers at the same times, and has the rest of it before
it. When its task has ended, the run has come out as it does alone, and nothing but the store can
keep that from being told: it does not take the run, or it does not take the result. Only a request
to end this run can make it see one. -/
theorem goes_as_alone (h₀ : s₀.Fresh) (hs : s₀.Trace since s) (ht : t ∈ s.tasks)
    (h : Follows σ since s t deeds past ended s') :
    let w := σ.world t.wakesAt
    let alone := t.rest.lived w []
    past <+: alone.1 ∧
    (ended = none → ∃ u ∈ s'.tasks, u.runId = t.runId ∧
      alone = (past ++ (u.rest.lived w past).1, (u.rest.lived w past).2)) ∧
    (∀ told, ended = some (.ok told) → alone = (past, .ok told)) ∧
    (∀ failure, ended = some (.error failure) →
      (t.started = false ∧ past = []) ∨ (past = alone.1 ∧ Ends (.error failure) alone.2)) ∧
    ((∀ reading, .accepted t.runId reading ∉ deeds) → ∀ x, ⟨.aborted x, true⟩ ∉ past) := by
  intro w alone
  obtain ⟨hanswers, hgoes, hends, hasked⟩ := h.asAlone h₀ hs ht
  -- In its world the run has one course, so what it came through on the server is the course alone.
  have hrest {d : Dialogue (Except Escape (RunResult τ))} (hreach : t.rest.Reaches past d) :
      alone = (past ++ (d.lived w past).1, (d.lived w past).2) := hreach.lived_eq hanswers
  have hwhole {outcome : Except Escape (RunResult τ)} (hcourse : t.rest.Course past outcome) :
      alone = (past, outcome) := hcourse.lived_eq hanswers
  refine ⟨?_, ?_, ?_, ?_, ?_⟩
  · rcases hended : ended with _ | ending
    · obtain ⟨u, -, -, hreach, -⟩ := hgoes hended
      rw [hrest hreach]
      exact List.prefix_append _ _
    · rcases hends ending hended with ⟨-, hnothing, -⟩ | ⟨outcome, hcourse, -⟩
      · rw [hnothing]
        exact List.nil_prefix
      · exact congrArg Prod.fst (hwhole hcourse) ▸ List.prefix_rfl
  · intro hnone
    obtain ⟨u, hu, hrun, hreach, -⟩ := hgoes hnone
    exact ⟨u, hu, hrun, hrest hreach⟩
  · intro told htold
    rcases hends _ htold with ⟨-, -, failure, hfailed⟩ | ⟨outcome, hcourse, hsame | hfailed⟩
    · cases hfailed
    · rw [hwhole hcourse]
      cases outcome with
      | error cause => cases hsame
      | ok told' =>
        cases hsame
        rfl
    · obtain ⟨told', failure, -, hfailed⟩ := hfailed
      cases hfailed
  · intro failure hfailed
    rcases hends _ hfailed with ⟨hstarted, hnothing, -⟩ | ⟨outcome, hcourse, hended⟩
    · exact .inl ⟨hstarted, hnothing⟩
    · rw [hwhole hcourse]
      exact .inr ⟨rfl, hended⟩
  · intro hnever x hx
    obtain ⟨reading, hreading⟩ := hasked x hx
    exact hnever reading hreading

end Follows

/-! ## Two runs -/

/-- The surroundings of a run that nobody asks to end, with collaborators that follow no script. -/
def quiet : Surroundings where
  reply _ c timeout := ((({} : Script).reply c timeout).1, (({} : Script).reply c timeout).2.1)
  asked _ := false

/-- A run is followed in quiet surroundings, where no task is late. -/
def FollowsQuietly (since : List Deed) (s₀ : Server τ) (t : Task τ) (ended : Option (Ending τ))
    (s : Server τ) : Prop :=
  ∃ deeds past, Follows quiet since s₀ t deeds past ended s ∧
    (∀ reading, .accepted t.runId reading ∉ deeds) ∧ s.Punctual

section Quiet

variable {s₀ s s' : Server τ} {t : Task τ} {since : List Deed} {id : String}

/-- The end of another run is asked for. -/
theorem FollowsQuietly.aborts (h : FollowsQuietly since s₀ t none s) (d : Dispatcher)
    (tenant : String) (hrun : (Service.abortRun d id tenant).run s = (.ok true, s'))
    (hother : id ≠ t.runId) : FollowsQuietly since s₀ t none s' := by
  obtain ⟨deeds, past, hfollows, hnever, hpunctual⟩ := h
  have haccepts := accepts_of_abortRun hrun
  refine ⟨_, past, hfollows.other (.abort d id tenant hrun) (by simp), fun reading hmem => ?_,
    fun u hu => ?_⟩
  · rcases List.mem_append.mp hmem with hmem | hmem
    · exact hnever reading hmem
    · exact hother (Deed.accepted.inj (List.mem_singleton.mp hmem)).1.symm
  · rw [haccepts.elapsed]
    exact hpunctual u (haccepts.tasks ▸ hu)

/-- The next turn is that of another run. -/
theorem FollowsQuietly.beside (h : FollowsQuietly since s₀ t none s) (hnext : s.nextRun = some id)
    (hother : id ≠ t.runId) : FollowsQuietly since s₀ t none s.nextTurn.2 := by
  obtain ⟨deeds, past, hfollows, hnever, hpunctual⟩ := h
  have hlater := hpunctual.nextTurn
  obtain ⟨⟨before, u, behind⟩, hu, rfl⟩ := Option.map_eq_some_iff.mp hnext
  unfold nextTurn at hlater ⊢
  rw [hu] at hlater ⊢
  refine ⟨_, past, hfollows.other (.turn before u behind (nextTask_eq hu))
    (fun reading inReach talk hmem => ?_), fun reading hmem => ?_, hlater⟩
  · exact hother (Deed.talked.inj (List.mem_singleton.mp hmem)).1.symm
  · exact hnever reading (by simpa using hmem)

/-- The next turn is that of the run. -/
theorem FollowsQuietly.own (h : FollowsQuietly since s₀ t none s)
    (hnext : s.nextRun = some t.runId) (hcues : s.script.cues.length = 0)
    (hlatencies : s.script.latencies.length = 0) :
    FollowsQuietly since s₀ t s.nextTurn.1 s.nextTurn.2 := by
  obtain ⟨deeds, past, hfollows, hnever, hpunctual⟩ := h
  have hlater := hpunctual.nextTurn
  obtain ⟨⟨before, u, behind⟩, hu, hrun⟩ := Option.map_eq_some_iff.mp hnext
  have hscript : s.script = {} := by
    rcases hs : s.script with ⟨cues, latencies⟩
    rw [hs] at hcues hlatencies
    obtain rfl := List.length_eq_zero_iff.mp hcues
    obtain rfl := List.length_eq_zero_iff.mp hlatencies
    rfl
  have htasks := nextTask_eq hu
  unfold nextTurn at hlater ⊢
  rw [hu] at hlater ⊢
  refine ⟨_, _, hfollows.own before u behind htasks hrun
    ⟨hpunctual u (htasks ▸ List.mem_append_cons_self), fun pre c timeout answer hpre => ?_,
      fun pre x seen post hpre => ?_⟩, fun reading hmem => ?_, hlater⟩
  · rw [hscript]
    rfl
  · refine iff_of_false nofun ?_
    rintro ⟨-, reading, hreading, -⟩
    exact hnever reading (hrun ▸ hreading)
  · exact hnever reading (by simpa using hmem)

/-- After its turn the run waits. -/
theorem FollowsQuietly.waits (h : FollowsQuietly since s₀ t none s)
    (hnext : s.nextRun = some t.runId) (hcues : s.script.cues.length = 0)
    (hlatencies : s.script.latencies.length = 0) (hwaits : s.nextTurn.1.isNone = true) :
    FollowsQuietly since s₀ t none s.nextTurn.2 :=
  Option.isNone_iff_eq_none.mp hwaits ▸ h.own hnext hcues hlatencies

end Quiet

/-- Two runs that wait for a day before they add a note begin on an idle server. -/
def pairBegun : Server Float :=
  ((Service.spawn {} (.noteAfter 1) .manual).run
    ((Service.spawn {} (.noteAfter 1) .manual).run idle).2).2

/-- Both come to their pauses. -/
def pairPausing : Server Float := pairBegun.nextTurn.2.nextTurn.2

/-- A request to abort the second one is made meanwhile. -/
def pairAborted : Except Failed Bool × Server Float :=
  (Service.abortRun {} (idOf 2) "tenant-1").run pairPausing

/-- The first one goes on to make its call, and the second one comes to its end. -/
def pairParted : Option (Ending Float) × Server Float := pairAborted.2.nextTurn.2.nextTurn

theorem pairAborted_accepted : pairAborted.1 = .ok true :=
  Except.toOption_eq_some.mp (by decide +kernel)

/-- The first run is followed through all this to its end, which is a good one. -/
theorem pair_followed {t : Task Float} (hrun : t.runId = idOf 1) :
    ∃ told, told.status = .success ∧
      FollowsQuietly [] pairBegun t (some (.ok told)) pairParted.2.nextTurn.2 := by
  have hother : idOf 2 ≠ t.runId := by
    rw [hrun]
    decide
  have hbegun : FollowsQuietly [] pairBegun t none pairBegun :=
    ⟨_, _, .start, fun _ => List.not_mem_nil, fun t _ => Nat.zero_le _⟩
  have hpauses := hbegun.waits (by rw [hrun]; decide +kernel) (by decide +kernel)
    (by decide +kernel) (by decide +kernel)
  have hpausing := hpauses.beside (by decide +kernel) hother
  have haborted := FollowsQuietly.aborts hpausing {} "tenant-1"
    (Prod.ext pairAborted_accepted rfl) hother
  have hcalls := haborted.waits (by rw [hrun]; decide +kernel) (by decide +kernel)
    (by decide +kernel) (by decide +kernel)
  have hparted := hcalls.beside (by decide +kernel) hother
  have hended := hparted.own (by rw [hrun]; decide +kernel) (by decide +kernel) (by decide +kernel)
  have hwell : pairParted.2.nextTurn.1.map (·.toOption.map (·.status)) = some (some .success) := by
    decide +kernel
  obtain ⟨ending, hending, htells⟩ := Option.map_eq_some_iff.mp hwell
  obtain ⟨told, htold, hstatus⟩ := Option.map_eq_some_iff.mp htells
  obtain rfl := Except.toOption_eq_some.mp htold
  exact ⟨told, hstatus, hending ▸ hended⟩

/-- The second run has failed because it was aborted. The first one has come out as it does alone,
and that is well. -/
theorem pair_goes_as_alone :
    idle.Fresh ∧ pairAborted.1 = .ok true ∧
    pairParted.1.map (·.toOption.map (·.status)) = some (some .failed) ∧
    ∃ deeds t past told, idle.Trace [] pairBegun ∧ t ∈ pairBegun.tasks ∧ t.runId = idOf 1 ∧
      Follows quiet [] pairBegun t deeds past (some (.ok told)) pairParted.2.nextTurn.2 ∧
      told.status = .success ∧
      t.rest.lived (quiet.world t.wakesAt) [] = (past, .ok told) := by
  have hbegun : idle.Trace [] pairBegun :=
    (Service.spawn_step rfl _ _ _).trace.step (Service.spawn_step rfl _ _ _)
  obtain ⟨t, u, htasks⟩ : ∃ t u, pairBegun.tasks = [t, u] := ⟨_, _, rfl⟩
  have hruns : pairBegun.tasks.map (·.runId) = [idOf 1, idOf 2] := by decide +kernel
  rw [htasks] at hruns
  have hrun : t.runId = idOf 1 := (List.cons.inj hruns).1
  have ht : t ∈ pairBegun.tasks := by simp [htasks]
  obtain ⟨told, hstatus, deeds, past, hfollows, -, -⟩ := pair_followed hrun
  exact ⟨idle_fresh, pairAborted_accepted, by decide +kernel, deeds, t, past, told, hbegun, ht, hrun,
    hfollows, hstatus, (goes_as_alone idle_fresh hbegun ht hfollows).2.2.1 told rfl⟩

end Server

end Automation
