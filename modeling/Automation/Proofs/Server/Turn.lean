import Automation.Proofs.Run.Course
import Automation.Proofs.Schema.Reading
import Automation.Server.Dispatch

/-!
# What a turn does

In its turn a task goes through some exchanges of its run. It either waits behind a request that
takes time, or it ends. `Server.turn_cases` says all that a turn changes on a server, so who reasons
about servers needs not look into a turn.
-/

namespace Automation

variable {τ : Type}

/-- A computation that may fail goes on from the state behind its first part, unless that fails. -/
theorem run_bind {ε σ α β : Type} (m : ExceptT ε (StateM σ) α) (f : α → ExceptT ε (StateM σ) β)
    (s : σ) : (m >>= f).run s = match m.run s with
      | (.ok a, s') => (f a).run s'
      | (.error failure, s') => (.error failure, s') := by
  rw [ExceptT.run_bind]
  change (match (m.run s).1 with
    | .ok a => (f a).run
    | .error failure => pure (.error failure)) (m.run s).2 = _
  rcases m.run s with ⟨_ | _, _⟩ <;> rfl

/-! ## Operations on the store -/

/-- An operation that takes back no id. -/
def Operation.Grows {α : Type} (op : Operation τ α) : Prop :=
  ∀ s, s.given ≤ (op.run s).2.given

namespace Operation

variable {α β : Type} {op : Operation τ α}

theorem grows_pure (a : α) : (pure a : Operation τ α).Grows := fun _ => Nat.le_refl _

theorem grows_throw (failure : Failed) : (throw failure : Operation τ α).Grows :=
  fun _ => Nat.le_refl _

theorem Grows.bind {f : α → Operation τ β} (h : op.Grows) (hf : ∀ a, (f a).Grows) :
    (op >>= f).Grows := by
  intro s
  have hfirst := h s
  rw [run_bind]
  rcases hop : op.run s with ⟨failure | a, s'⟩ <;> rw [hop] at hfirst
  · exact hfirst
  · exact Nat.le_trans hfirst (hf a s')

theorem use_grows (place : OutagePlace) : (use place : Operation τ Unit).Grows := by
  intro s
  change s.given ≤ (s.use place).2.given
  unfold Store.use
  split
  · exact Nat.le_refl _
  · split
    · exact Nat.le_refl _
    · split <;> exact Nat.le_refl _

theorem get_grows : (get : Operation τ (Store τ)).Grows := fun _ => Nat.le_refl _

theorem query_grows (f : Store τ → α) : (query f).Grows :=
  (use_grows .query).bind fun _ => get_grows.bind fun _ => grows_pure _

theorem commit_grows {f : Store τ → Except StoreFault (Store τ)}
    (hf : ∀ s s', f s = .ok s' → s.given ≤ s'.given) : (commit f).Grows := by
  refine (use_grows .commit).bind fun _ s => ?_
  have hget : (get : Operation τ (Store τ)).run s = (.ok s, s) := rfl
  rw [run_bind, hget]
  dsimp only
  cases hs : f s with
  | ok s' => exact hf s s' hs
  | error fault => exact Nat.le_refl _

theorem found_grows (a : Option α) (failure : Failed) : (found a failure : Operation τ α).Grows := by
  cases a with
  | some a => exact grows_pure a
  | none => exact grows_throw failure

end Operation

namespace Runs

open Operation

/-- To look a run up leaves the store as it is. -/
theorem current_store (id : String) (s : Store τ) :
    ((current id : Operation τ RunRow).run s).2 = s := by
  change ((Operation.found (s.run? id) (.noRun id) : Operation τ RunRow).run s).2 = s
  cases s.run? id <;> rfl

theorem current_grows (id : String) : (current id : Operation τ RunRow).Grows :=
  get_grows.bind fun _ => found_grows _ _

theorem start_grows (d : Definition) (event : Event) (id : String) (isTest : Bool)
    (now : Time.Stamp) : (start d event id isTest now : Operation τ RunRow).Grows := by
  refine (commit_grows fun s s' h => ?_).bind fun _ => current_grows id
  obtain ⟨row, -, h⟩ := Except.bind_eq_ok.mp h
  split at h
  · cases h
  · cases h
    exact Nat.le_refl _

variable [ActiveTime τ] [RunningMean τ]

theorem record_grows (d : Definition) (event : Event) (result : RunResult τ) (isTest : Bool)
    (now : Time.Stamp) : (record d event result isTest now).Grows := by
  have hsave : ∀ s s', saved s d event result isTest now = .ok s' → s.given ≤ s'.given := by
    intro s s' h
    obtain ⟨_, -, h⟩ := Except.bind_eq_ok.mp h
    split at h
    · cases h
      exact Nat.le_refl _
    · obtain ⟨row, -, h⟩ := Except.bind_eq_ok.mp h
      cases h
      exact Nat.le_refl _
  have hcommit {f : Store τ → Store τ} (hf : ∀ s, (f s).given = s.given) : (do
      commit fun s => do
        let s ← saved s d event result isTest now
        return f s
      current result.runId : Operation τ RunRow).Grows := by
    refine (commit_grows fun s s' h => ?_).bind fun _ => current_grows _
    obtain ⟨s₁, hs₁, h⟩ := Except.bind_eq_ok.mp h
    obtain rfl := Except.ok.inj h
    rw [hf]
    exact hsave s s₁ hs₁
  unfold record
  dsimp only
  split
  · exact (grows_throw _).bind fun _ => hcommit fun s => by split <;> rfl
  · exact hcommit fun s => by split <;> rfl

end Runs

/-! ## Talks -/

/-- A request that takes no time. -/
def Request.IsQuick : Request → Prop
  | .clock | .aborted _ => True
  | .sleep _ | .call _ _ => False

namespace Server

variable {α : Type}

/-- The exchanges of a dialogue on a server until there is something to wait for. -/
def talk (s : Server τ) : Dialogue α → List Exchange
  | .done _ => []
  | .ask .clock next => ⟨.clock, s.elapsed⟩ :: s.talk (next s.elapsed)
  | .ask (.aborted runId) next =>
    let seen := s.flags.isAborted runId s.elapsed
    ⟨.aborted runId, seen⟩ :: s.talk (next seen)
  | .ask (.sleep seconds) _ => [⟨.sleep seconds, .ok ()⟩]
  | .ask (.call c timeout) _ => [⟨.call c timeout, (s.call c timeout).1⟩]

/-- A talk is as the flags are. -/
theorem talk_aborted {s : Server τ} {d : Dialogue α} {runId : String} {seen : Bool}
    (h : ⟨.aborted runId, seen⟩ ∈ s.talk d) : seen = s.flags.isAborted runId s.elapsed := by
  induction d with
  | done a => cases h
  | ask r next ih =>
    cases r with
    | clock =>
      rcases List.mem_cons.mp h with h | h
      · cases h
      · exact ih _ h
    | aborted asked =>
      rcases List.mem_cons.mp h with h | h
      · cases h
        rfl
      · exact ih _ h
    | sleep seconds => cases List.mem_singleton.mp h
    | call c timeout => cases List.mem_singleton.mp h

/-- A dialogue talks to its end, or up to a request that takes time. A server notes its calls. -/
theorem converse_cases (s : Server τ) (d : Dialogue α) :
    (∃ a, s.converse d = (.over a, s) ∧ d.Course (s.talk d) a) ∨
      ∃ wakesAt rest script calls, s.converse d = (.waiting wakesAt rest, { s with script, calls }) ∧
        d.Reaches (s.talk d) rest ∧ ∃ t x, s.talk d = t ++ [x] ∧ ¬ x.request.IsQuick := by
  induction d with
  | done a => exact .inl ⟨a, rfl, .done a⟩
  | ask r next ih =>
    cases r with
    | clock =>
      rcases ih s.elapsed with ⟨a, hc, hcourse⟩ | ⟨w, rest, script, calls, hc, hreach, t, x, ht, hx⟩
      · exact .inl ⟨a, hc, .ask _ hcourse⟩
      · exact .inr ⟨w, rest, script, calls, hc, .ask _ hreach, ⟨.clock, s.elapsed⟩ :: t, x,
          congrArg (List.cons _) ht, hx⟩
    | aborted runId =>
      let seen := s.flags.isAborted runId s.elapsed
      rcases ih seen with ⟨a, hc, hcourse⟩ | ⟨w, rest, script, calls, hc, hreach, t, x, ht, hx⟩
      · exact .inl ⟨a, hc, .ask _ hcourse⟩
      · exact .inr ⟨w, rest, script, calls, hc, .ask _ hreach, ⟨.aborted runId, seen⟩ :: t, x,
          congrArg (List.cons _) ht, hx⟩
    | sleep seconds =>
      exact .inr ⟨_, next (.ok ()), s.script, s.calls, rfl, .ask _ (.here _), [], _, rfl, id⟩
    | call c timeout =>
      exact .inr ⟨_, next _, _, _, rfl, .ask _ (.here _), [], _, rfl, id⟩

end Server

/-! ## Turns -/

namespace Service

variable {α β : Type} (s : Server τ)

@[simp] theorem pure_run (a : α) : (pure a : Service τ α).run s = (.ok a, s) := rfl

@[simp] theorem throw_run (failure : Failed) : (throw failure : Service τ α).run s
    = (.error failure, s) := rfl

@[simp] theorem get_bind_run (f : Server τ → Service τ β) : (get >>= f).run s = (f s).run s := rfl

@[simp] theorem set_bind_run (s' : Server τ) (f : PUnit → Service τ β) :
    (set s' >>= f).run s = (f ⟨⟩).run s' := rfl

@[simp] theorem modify_run (f : Server τ → Server τ) :
    (modify f : Service τ Unit).run s = (.ok (), f s) := rfl

@[simp] theorem modify_bind_run (f : Server τ → Server τ) (g : Unit → Service τ β) :
    (modify f >>= g).run s = (g ()).run (f s) := rfl

theorem store_bind_run (op : Operation τ α) (f : α → Service τ β) :
    (store op >>= f).run s = match op.run s.store with
      | (.ok a, store) => (f a).run { s with store }
      | (.error failure, store) => (.error failure, { s with store }) := by
  have hstore : (store op : Service τ α).run s
      = ((op.run s.store).1, { s with store := (op.run s.store).2 }) := rfl
  rw [run_bind, hstore]
  rcases op.run s.store with ⟨_ | _, _⟩ <;> rfl

/-- What is made of an answer is nothing to the server. -/
theorem bind_pure_run (m : Service τ α) (f : α → β) :
    ((m >>= fun a => pure (f a)).run s).2 = (m.run s).2 := by
  rw [run_bind]
  rcases m.run s with ⟨_ | _, _⟩ <;> rfl

/-- To begin changes nothing but the store. -/
theorem begin_run (t : Task τ) :
    ∃ result store, (begin t).run s = (result, { s with store }) ∧ s.store.given ≤ store.given := by
  unfold begin
  by_cases h : t.started = true
  · exact ⟨.ok (), s.store, by simp [h], Nat.le_refl _⟩
  · have hgrows := Runs.start_grows t.workflow t.event t.runId (t.kind = .test) s.now s.store
    rw [if_neg h, get_bind_run, store_bind_run]
    rcases hop : (Runs.start t.workflow t.event t.runId (t.kind = .test) s.now).run s.store
      with ⟨failure | row, store⟩ <;> rw [hop] at hgrows
    · exact ⟨_, store, rfl, hgrows⟩
    · exact ⟨_, store, rfl, hgrows⟩

/-- What follows a run that is recorded: its flag may be taken away, or it is queued. -/
theorem afterRun_cases (d : Dispatcher) (told : RunResult τ) :
    ∃ flags scheduler, (afterRun d told).run s = (.ok (), { s with flags, scheduler }) ∧
      ((flags = s.flags ∧ scheduler = s.scheduler) ∨
        (flags = s.flags.clear told.runId ∧ scheduler = s.scheduler) ∨
        ∃ c, told.status = .suspended ∧ told.continuation = some c ∧ flags = s.flags ∧
          scheduler = s.scheduler.scheduleResume c) := by
  unfold afterRun
  rw [modify_run]
  split
  · rename_i c hstatus hc
    split
    · exact ⟨s.flags, _, rfl, .inr (.inr ⟨c, hstatus, hc, rfl, rfl⟩)⟩
    · exact ⟨s.flags, s.scheduler, rfl, .inl ⟨rfl, rfl⟩⟩
  · split
    · exact ⟨_, s.scheduler, rfl, .inr (.inl ⟨rfl, rfl⟩)⟩
    · exact ⟨s.flags, s.scheduler, rfl, .inl ⟨rfl, rfl⟩⟩

variable [ActiveTime τ] [RunningMean τ]

/-- How the run of a task is brought to an end. -/
inductive Concludes (s : Server τ) (t : Task τ) :
    Except Escape (RunResult τ) → Server.Ending τ × Server τ → Prop where
  /-- It has no result. -/
  | escaped (cause : Escape) : Concludes s t (.error cause) (.error (.escape cause), s)
  /-- Its result cannot be stored. -/
  | unrecorded (told : RunResult τ) (failure : Failed) (store : Store τ)
      (hrun : (Runs.record t.workflow t.event told (t.kind = .test) s.now).run s.store
        = (.error failure, store)) :
      Concludes s t (.ok told) (.error failure, { s with store })
  /-- It was only tried out. -/
  | tried (told : RunResult τ) (row : RunRow) (store : Store τ) (hkind : t.kind = .test)
      (hrun : (Runs.record t.workflow t.event told (t.kind = .test) s.now).run s.store
        = (.ok row, store)) :
      Concludes s t (.ok told) (.ok told, { s with store })
  | recorded (told : RunResult τ) (row : RunRow) (store : Store τ) (flags : AbortFlags)
      (scheduler : Scheduler τ) (hkind : t.kind ≠ .test)
      (hrun : (Runs.record t.workflow t.event told (t.kind = .test) s.now).run s.store
        = (.ok row, store))
      (hafter : (afterRun t.dispatcher told).run { s with store }
        = (.ok (), { s with store, flags, scheduler })) :
      Concludes s t (.ok told) (.ok told, { s with store, flags, scheduler })

theorem conclude_concludes (t : Task τ) (outcome : Except Escape (RunResult τ)) :
    Concludes s t outcome ((conclude t outcome).run s) := by
  cases outcome with
  | error cause => exact .escaped cause
  | ok told =>
    unfold conclude
    dsimp only
    rw [get_bind_run, store_bind_run]
    rcases hrun : (Runs.record t.workflow t.event told (t.kind = .test) s.now).run s.store
      with ⟨failure | row, store⟩
    · exact .unrecorded told failure store hrun
    · dsimp only
      by_cases hkind : t.kind = .test
      · rw [if_pos (decide_eq_true hkind)]
        exact .tried told row store hkind hrun
      · obtain ⟨flags, scheduler, hafter, -⟩ :=
          afterRun_cases { s with store } t.dispatcher told
        rw [if_neg (by simpa using hkind), run_bind, hafter]
        exact .recorded told row store flags scheduler hkind hrun hafter

/-- The store stays as it is, or a result goes into it. -/
theorem conclude_store (t : Task τ) (outcome : Except Escape (RunResult τ)) :
    ((conclude t outcome).run s).2.store = s.store ∨ ∃ told, outcome = .ok told ∧
      ((conclude t outcome).run s).2.store
        = ((Runs.record t.workflow t.event told (t.kind = .test) s.now).run s.store).2 := by
  have hconcludes := conclude_concludes s t outcome
  generalize (conclude t outcome).run s = concluded at hconcludes
  cases hconcludes with
  | escaped cause => exact .inl rfl
  | unrecorded told failure store hrun => exact .inr ⟨told, rfl, (congrArg Prod.snd hrun).symm⟩
  | tried told row store hkind hrun => exact .inr ⟨told, rfl, (congrArg Prod.snd hrun).symm⟩
  | recorded told row store flags scheduler hkind hrun hafter =>
    exact .inr ⟨told, rfl, (congrArg Prod.snd hrun).symm⟩

/-- A run that ended is recorded. Its flag may be taken away, or it is queued if it was suspended. -/
theorem conclude_cases (t : Task τ) (outcome : Except Escape (RunResult τ)) :
    ∃ result store flags scheduler,
      (conclude t outcome).run s = (result, { s with store, flags, scheduler }) ∧
      s.store.given ≤ store.given ∧
      ((flags = s.flags ∧ scheduler = s.scheduler) ∨
        ∃ told, outcome = .ok told ∧
          ((flags = s.flags.clear told.runId ∧ scheduler = s.scheduler) ∨
            ∃ c, told.status = .suspended ∧ told.continuation = some c ∧ flags = s.flags ∧
              scheduler = s.scheduler.scheduleResume c)) := by
  have hgiven : s.store.given ≤ ((conclude t outcome).run s).2.store.given := by
    rcases conclude_store s t outcome with hstore | ⟨told, -, hstore⟩
    · exact Nat.le_of_eq (congrArg Store.given hstore.symm)
    · rw [hstore]
      exact Runs.record_grows t.workflow t.event told (t.kind = .test) s.now s.store
  have hconcludes := conclude_concludes s t outcome
  generalize (conclude t outcome).run s = concluded at hconcludes hgiven
  cases hconcludes with
  | escaped cause => exact ⟨_, s.store, s.flags, s.scheduler, rfl, hgiven, .inl ⟨rfl, rfl⟩⟩
  | unrecorded told failure store hrun =>
    exact ⟨_, store, s.flags, s.scheduler, rfl, hgiven, .inl ⟨rfl, rfl⟩⟩
  | tried told row store hkind hrun =>
    exact ⟨_, store, s.flags, s.scheduler, rfl, hgiven, .inl ⟨rfl, rfl⟩⟩
  | recorded told row store flags scheduler hkind hrun hafter =>
    refine ⟨_, store, flags, scheduler, rfl, hgiven, ?_⟩
    obtain ⟨flags', scheduler', hafter', hcases⟩ :=
      afterRun_cases { s with store } t.dispatcher told
    cases hafter'.symm.trans hafter
    rcases hcases with hsame | hclear | hqueued
    · exact .inl hsame
    · exact .inr ⟨told, rfl, .inl hclear⟩
    · exact .inr ⟨told, rfl, .inr hqueued⟩

end Service

namespace Server

/-- What only grows on a server, and who dispatches its runs. -/
structure Frame (s s' : Server τ) : Prop where
  elapsed : s.elapsed ≤ s'.elapsed
  given : s.store.given ≤ s'.store.given
  turns : s.turns ≤ s'.turns
  dispatcher : s'.dispatcher = s.dispatcher

theorem Frame.refl (s : Server τ) : s.Frame s := ⟨Nat.le_refl _, Nat.le_refl _, Nat.le_refl _, rfl⟩

/-- The server when it is the turn of a task. -/
def awake (s : Server τ) (t : Task τ) : Server τ := { s with elapsed := max s.elapsed t.wakesAt }

/-- The exchanges of a task in its turn. -/
def talkOf (s : Server τ) (t : Task τ) : List Exchange :=
  match (Service.begin t).run (s.awake t) with
  | (.error _, _) => []
  | (.ok (), s) => s.talk t.rest

theorem talkOf_aborted {s : Server τ} {t : Task τ} {runId : String} {seen : Bool}
    (h : ⟨.aborted runId, seen⟩ ∈ s.talkOf t) :
    seen = s.flags.isAborted runId (max s.elapsed t.wakesAt) := by
  obtain ⟨result, store, hbegin, -⟩ := Service.begin_run (s.awake t) t
  unfold talkOf at h
  rw [hbegin] at h
  rcases result with failure | ⟨⟩
  · cases h
  · exact talk_aborted h

/-- What a task does in its turn. -/
inductive TakesTurn [ActiveTime τ] [RunningMean τ] (s : Server τ) (t : Task τ) :
    (Task τ ⊕ Ending τ) × Server τ → Prop where
  /-- Its run cannot be put into the store. -/
  | refused (failure : Failed) (store : Store τ)
      (hbegin : (Service.begin t).run (s.awake t) = (.error failure, { s.awake t with store }))
      (hgiven : s.store.given ≤ store.given) (htalk : s.talkOf t = []) :
      TakesTurn s t (.inr (.error failure), { s.awake t with store })
  /-- It waits behind a request that takes time. -/
  | waits (s₁ : Server τ) (store : Store τ) (wakesAt : Nat)
      (rest : Dialogue (Except Escape (RunResult τ))) (script : Script) (calls : List (Nat × Call))
      (hs₁ : s₁ = { s.awake t with store }) (hbegin : (Service.begin t).run (s.awake t) = (.ok (), s₁))
      (hgiven : s.store.given ≤ store.given) (htalk : s.talkOf t = s₁.talk t.rest)
      (hconverse : s₁.converse t.rest = (.waiting wakesAt rest, { s₁ with script, calls }))
      (hrest : t.rest.Reaches (s.talkOf t) rest)
      (hslow : ∃ talk x, s.talkOf t = talk ++ [x] ∧ ¬ x.request.IsQuick) :
      TakesTurn s t (.inl { t with started := true, wakesAt, turn := s.turns, rest },
        { s₁ with script, calls, turns := s.turns + 1 })
  /-- Its run comes out, and is recorded. -/
  | ends (s₁ s' : Server τ) (store : Store τ) (outcome : Except Escape (RunResult τ))
      (ending : Ending τ) (hs₁ : s₁ = { s.awake t with store })
      (hbegin : (Service.begin t).run (s.awake t) = (.ok (), s₁))
      (hgiven : s.store.given ≤ store.given) (htalk : s.talkOf t = s₁.talk t.rest)
      (hconverse : s₁.converse t.rest = (.over outcome, s₁))
      (hcourse : t.rest.Course (s.talkOf t) outcome)
      (hconclude : (Service.conclude t outcome).run s₁ = (ending, s')) :
      TakesTurn s t (.inr ending, s')

theorem takeTurn_takes [ActiveTime τ] [RunningMean τ] (s : Server τ) (t : Task τ) :
    s.TakesTurn t (s.takeTurn t) := by
  obtain ⟨result, store, hbegin, hgiven⟩ := Service.begin_run (s.awake t) t
  have hawoken : ({ s with elapsed := max s.elapsed t.wakesAt } : Server τ) = s.awake t := rfl
  unfold takeTurn
  simp only [hawoken]
  rcases result with failure | ⟨⟩
  · have htalk : s.talkOf t = [] := by rw [talkOf, hbegin]
    simp only [hbegin]
    exact .refused failure store hbegin hgiven htalk
  · obtain ⟨s₁, hs₁⟩ : ∃ s₁ : Server τ, s₁ = { s.awake t with store } := ⟨_, rfl⟩
    rw [← hs₁] at hbegin
    have htalk : s.talkOf t = s₁.talk t.rest := by rw [talkOf, hbegin]
    have hturns : s₁.turns = s.turns := by rw [hs₁]; rfl
    simp only [hbegin]
    rcases converse_cases s₁ t.rest with ⟨outcome, hconverse, hcourse⟩ |
      ⟨wakesAt, rest, script, calls, hconverse, hreach, hslow⟩
    · rw [← htalk] at hcourse
      simp only [hconverse]
      exact .ends s₁ _ store outcome _ hs₁ hbegin hgiven htalk hconverse hcourse rfl
    · rw [← htalk] at hreach hslow
      simp only [hconverse, hturns]
      exact .waits s₁ store wakesAt rest script calls hs₁ hbegin hgiven htalk hconverse hreach hslow

/-- What a turn of a task between others makes of a server. -/
inductive AfterTurn (s : Server τ) (before : List (Task τ)) (t : Task τ) (behind : List (Task τ))
    (s' : Server τ) : Prop where
  /-- The task waits behind a request. -/
  | waits (u : Task τ) (talk : List Exchange) (x : Exchange) (hnumber : u.number = t.number)
      (hrun : u.runId = t.runId) (hdispatcher : u.dispatcher = t.dispatcher)
      (hrest : t.rest.Reaches (s.talkOf t) u.rest) (htalk : s.talkOf t = talk ++ [x])
      (hx : ¬ x.request.IsQuick) (htasks : s'.tasks = before ++ u :: behind)
      (hflags : s'.flags = s.flags) (hjobs : s'.scheduler = s.scheduler)
  /-- The task ends before its run says anything. -/
  | broke (htalk : s.talkOf t = []) (htasks : s'.tasks = before ++ behind)
      (hflags : s'.flags = s.flags) (hjobs : s'.scheduler = s.scheduler)
  | ended (outcome : Except Escape (RunResult τ)) (hcourse : t.rest.Course (s.talkOf t) outcome)
      (htasks : s'.tasks = before ++ behind) (hflags : s'.flags = s.flags)
      (hjobs : s'.scheduler = s.scheduler)
  /-- The task ends, and the flag of its run is taken away. -/
  | cleared (told : RunResult τ) (hcourse : t.rest.Course (s.talkOf t) (.ok told))
      (htasks : s'.tasks = before ++ behind) (hflags : s'.flags = s.flags.clear told.runId)
      (hjobs : s'.scheduler = s.scheduler)
  /-- The task ends, and the rest of its run is queued. -/
  | queued (told : RunResult τ) (c : Continuation τ)
      (hcourse : t.rest.Course (s.talkOf t) (.ok told)) (hstatus : told.status = .suspended)
      (hc : told.continuation = some c) (htasks : s'.tasks = before ++ behind)
      (hflags : s'.flags = s.flags) (hjobs : s'.scheduler = s.scheduler.scheduleResume c)

/-- All that a turn can do. -/
theorem turn_cases [ActiveTime τ] [RunningMean τ] (s : Server τ) (before : List (Task τ))
    (t : Task τ) (behind : List (Task τ)) :
    s.Frame (s.turn before t behind).2 ∧ s.AfterTurn before t behind (s.turn before t behind).2 ∧
      (s.turn before t behind).2.elapsed = max s.elapsed t.wakesAt := by
  have hawake : s.elapsed ≤ max s.elapsed t.wakesAt := Nat.le_max_left _ _
  have htakes := s.takeTurn_takes t
  unfold turn
  generalize s.takeTurn t = taken at htakes
  cases htakes with
  | refused failure store hbegin hgiven htalk =>
    exact ⟨⟨hawake, hgiven, Nat.le_refl _, rfl⟩, .broke htalk rfl rfl rfl, rfl⟩
  | waits s₁ store wakesAt rest script calls hs₁ hbegin hgiven htalk hconverse hrest hslow =>
    -- The task stays in its place among the others, with the rest of its run.
    subst hs₁
    obtain ⟨talk, x, hx, hslow⟩ := hslow
    exact ⟨⟨hawake, hgiven, Nat.le_succ _, rfl⟩,
      .waits { t with started := true, wakesAt, turn := s.turns, rest } talk x rfl rfl rfl hrest hx
        hslow rfl rfl rfl, rfl⟩
  | ends s₁ s' store outcome ending hs₁ hbegin hgiven htalk hconverse hcourse hconclude =>
    subst hs₁
    obtain ⟨ending', store', flags, scheduler, hconclude', hgiven', hcases⟩ :=
      Service.conclude_cases { s.awake t with store } t outcome
    obtain ⟨rfl, rfl⟩ := Prod.mk.inj (hconclude'.symm.trans hconclude)
    refine ⟨⟨hawake, Nat.le_trans hgiven hgiven', Nat.le_refl _, rfl⟩, ?_, rfl⟩
    rcases hcases with ⟨rfl, rfl⟩ | ⟨told, rfl, ⟨rfl, rfl⟩ | ⟨c, hstatus, hc, rfl, rfl⟩⟩
    · exact .ended outcome hcourse rfl rfl rfl
    · exact .cleared told hcourse rfl rfl rfl
    · exact .queued told c hcourse hstatus hc rfl rfl rfl

end Server

end Automation
