import Automation.Proofs.Server.Service
import Automation.Proofs.Server.History
import Automation.Proofs.Store.Tenants

/-!
# Servers that are alike for a tenant

Two servers that differ in their stores only, and in no more of these than a tenant cannot know, do
the same when the same is asked of both: tasks take the same turns, and a dispatcher gives the
tenant the same answers (`Service.Isolated`).
-/

namespace Automation

variable {τ : Type} {t : String}

/-- Two servers that differ in their stores only, and these are alike for a tenant. -/
def Server.Twin (t : String) (s s' : Server τ) : Prop :=
  ∃ store, s' = { s with store } ∧ s.store.Alike t store

/-! ## Services -/

namespace Service

variable {α β : Type} {m : Service τ α}

/-- On servers that are alike for a tenant, a service does the same. -/
def Isolated (t : String) (m : Service τ α) : Prop :=
  ∀ s s' : Server τ, s.Twin t s' → (m.run s).1 = (m.run s').1 ∧ (m.run s).2.Twin t (m.run s').2

theorem isolated_pure (a : α) : (pure a : Service τ α).Isolated t := fun _ _ h => ⟨rfl, h⟩

theorem isolated_throw (failure : Failed) : (throw failure : Service τ α).Isolated t :=
  fun _ _ h => ⟨rfl, h⟩

theorem Isolated.bind {f : α → Service τ β} (h : m.Isolated t) (hf : ∀ a, (f a).Isolated t) :
    (m >>= f).Isolated t := by
  intro s s' hs
  obtain ⟨hsame, htwin⟩ := h s s' hs
  rw [run_bind, run_bind]
  rcases hm : m.run s with ⟨failure | a, s₁⟩ <;> rcases hm' : m.run s' with ⟨failure' | a', s₁'⟩ <;>
    rw [hm, hm'] at hsame <;> cases hsame <;> rw [hm, hm'] at htwin
  · exact ⟨rfl, htwin⟩
  · exact hf a s₁ s₁' htwin

theorem isolated_store {T : String → Prop} {op : Operation τ α} (h : op.Isolated t T) :
    (store op).Isolated t := by
  rintro s _ ⟨other, rfl, hs⟩
  obtain ⟨hsame, halike, -⟩ := h s.store other hs trivial trivial
  exact ⟨hsame, (op.run other).2, rfl, halike⟩

/-- What is done with the store may count when its answer does not. -/
theorem isolated_store_bind {T : String → Prop} {op : Operation τ β} {m : Service τ α}
    (h : (do let _ ← op : Operation τ Unit).Isolated t T) (hm : m.Isolated t) :
    (store op >>= fun _ => m).Isolated t := by
  have hsame : (store op >>= fun _ => m) = store (do let _ ← op) >>= fun _ => m := by
    refine funext fun s => ?_
    change (store op >>= fun _ => m).run s = (store (do let _ ← op) >>= fun _ => m).run s
    rw [store_bind_run, store_bind_run, run_bind]
    rcases op.run s.store with ⟨_ | _, _⟩ <;> rfl
  rw [hsame]
  exact (isolated_store h).bind fun _ => hm

/-- What is looked at is no part of the store. -/
theorem isolated_get {f : Server τ → Service τ α} (hf : ∀ s store, f { s with store } = f s)
    (h : ∀ s, (f s).Isolated t) : (get >>= f).Isolated t := by
  rintro s _ ⟨other, rfl, hs⟩
  rw [get_bind_run, get_bind_run, hf s other]
  exact h s s _ ⟨other, rfl, hs⟩

theorem isolated_mapM {f : β → Service τ α} (hf : ∀ b, (f b).Isolated t) (bs : List β) :
    (bs.mapM f).Isolated t := by
  induction bs with
  | nil => exact isolated_pure []
  | cons b bs ih =>
    rw [List.mapM_cons]
    exact (hf b).bind fun a => ih.bind fun as => isolated_pure _

/-! ### The parts of a turn -/

theorem isolated_begin (u : Task τ) : (begin u).Isolated t := by
  unfold begin
  split
  · exact isolated_pure ()
  · exact isolated_get (fun _ _ => rfl) fun s => isolated_store_bind
      (Runs.isolated_start (T := fun _ => True) fun _ _ => trivial) (isolated_pure _)

theorem isolated_afterRun (d : Dispatcher) (told : RunResult τ) : (afterRun d told).Isolated t := by
  rintro s _ ⟨other, rfl, hs⟩
  unfold afterRun
  rw [modify_run, modify_run]
  split <;> split <;> exact ⟨rfl, other, rfl, hs⟩

variable [ActiveTime τ] [RunningMean τ]

theorem isolated_conclude (u : Task τ) (outcome : Except Escape (RunResult τ)) :
    (conclude u outcome).Isolated t := by
  cases outcome with
  | error cause => exact isolated_throw _
  | ok told =>
    have hafter : (do
        unless (u.kind = .test : Bool) do afterRun u.dispatcher told
        return told : Service τ (RunResult τ)).Isolated t := by
      split
      · exact isolated_pure told
      · exact (isolated_afterRun u.dispatcher told).bind fun _ => isolated_pure told
    refine isolated_get (fun _ _ => rfl) fun s => isolated_store_bind (T := fun _ => True) ?_ hafter
    exact Runs.isolated_record.mono fun s _ => ⟨fun _ _ => trivial, fun _ _ _ => trivial,
      fun _ _ _ => trivial⟩

end Service

/-! ## Turns -/

namespace Server

/-- A talk does not look at the store. -/
theorem converse_store {α : Type} (s : Server τ) (store : Store τ) (x : Dialogue α) :
    ({ s with store } : Server τ).converse x = ((s.converse x).1, { (s.converse x).2 with store }) ∧
      (s.converse x).2.store = s.store := by
  induction x with
  | done a => exact ⟨rfl, rfl⟩
  | ask r next ih =>
    cases r with
    | clock => exact ih _
    | aborted runId => exact ih _
    | sleep seconds => exact ⟨rfl, rfl⟩
    | call c timeout => exact ⟨rfl, rfl⟩

variable [ActiveTime τ] [RunningMean τ] {s s' : Server τ}

/-- In its turn a task does the same, and the same becomes of it. -/
theorem takeTurn_twin (u : Task τ) (h : s.Twin t s') :
    (s.takeTurn u).1 = (s'.takeTurn u).1 ∧ (s.takeTurn u).2.Twin t (s'.takeTurn u).2 := by
  obtain ⟨other, rfl, hs⟩ := h
  let awoken : Server τ := { s with elapsed := max s.elapsed u.wakesAt }
  let awoken' : Server τ := { awoken with store := other }
  obtain ⟨hsame, hbegun⟩ := Service.isolated_begin u awoken awoken' ⟨other, rfl, hs⟩
  unfold takeTurn
  dsimp only
  rcases hbegin : (Service.begin u).run awoken with ⟨result, s₁⟩
  rcases hbegin' : (Service.begin u).run awoken' with ⟨result', s₁'⟩
  rw [hbegin, hbegin'] at hsame hbegun
  obtain ⟨other₁, rfl, hs₁⟩ := hbegun
  obtain rfl : result = result' := hsame
  rcases result with failure | ⟨⟩
  · exact ⟨rfl, other₁, rfl, hs₁⟩
  · dsimp only
    obtain ⟨hconverse, hstore⟩ := s₁.converse_store other₁ u.rest
    rw [hconverse]
    rcases hstop : s₁.converse u.rest with ⟨wakesAt | outcome, s₂⟩ <;> rw [hstop] at hstore <;>
      rw [← hstore] at hs₁
    · exact ⟨rfl, other₁, rfl, hs₁⟩
    · have hconclude := Service.isolated_conclude u outcome s₂ _ ⟨other₁, rfl, hs₁⟩
      exact ⟨congrArg Sum.inr hconclude.1, hconclude.2⟩

theorem turn_twin (before : List (Task τ)) (u : Task τ) (behind : List (Task τ)) (h : s.Twin t s') :
    (s.turn before u behind).1 = (s'.turn before u behind).1 ∧
      (s.turn before u behind).2.Twin t (s'.turn before u behind).2 := by
  obtain ⟨hsame, htwin⟩ := takeTurn_twin u h
  unfold turn
  rcases htake : s.takeTurn u with ⟨became | ending, s₁⟩ <;>
    rcases htake' : s'.takeTurn u with ⟨became' | ending', s₁'⟩ <;>
    rw [htake, htake'] at hsame htwin <;> obtain ⟨other, rfl, hs₁⟩ := htwin <;> cases hsame
  · exact ⟨rfl, other, rfl, hs₁⟩
  · exact ⟨rfl, other, rfl, hs₁⟩

/-! ### Many turns -/

section Equations

variable {may : Task τ → Bool} {awaited : Option Nat} {before behind : List (Task τ)} {u : Task τ}

theorem takeTurns_none (h : nextTask s.tasks = none) : s.takeTurns may awaited = (none, s) := by
  unfold takeTurns
  split
  · rfl
  · rename_i hsome
    cases h.symm.trans hsome

theorem takeTurns_not_yet (hnext : nextTask s.tasks = some (before, u, behind))
    (hmay : ¬ may u = true) : s.takeTurns may awaited = (none, s) := by
  unfold takeTurns
  split
  · rfl
  · rename_i hsome
    cases hnext.symm.trans hsome
    exact if_neg hmay

theorem takeTurns_awaited {ending : Ending τ} {s₁ : Server τ}
    (hnext : nextTask s.tasks = some (before, u, behind)) (hmay : may u = true)
    (hturned : s.turn before u behind = (some ending, s₁)) (hawaited : awaited = some u.number) :
    s.takeTurns may awaited = (some ending, s₁) := by
  rw [takeTurns]
  split
  · rename_i hnone
    cases hnext.symm.trans hnone
  · rename_i hsome
    cases hnext.symm.trans hsome
    rw [if_pos hmay]
    split <;> rename_i hturned' <;> cases hturned.symm.trans hturned'
    exact if_pos hawaited

theorem takeTurns_on {ended : Option (Ending τ)} {s₁ : Server τ}
    (hnext : nextTask s.tasks = some (before, u, behind)) (hmay : may u = true)
    (hturned : s.turn before u behind = (ended, s₁))
    (hawaited : ended.isSome = true → ¬ awaited = some u.number) :
    s.takeTurns may awaited = s₁.takeTurns may awaited := by
  rw [takeTurns]
  split
  · rename_i hnone
    cases hnext.symm.trans hnone
  · rename_i hsome
    cases hnext.symm.trans hsome
    rw [if_pos hmay]
    split <;> rename_i hturned' <;> cases hturned.symm.trans hturned'
    · exact if_neg (hawaited rfl)
    · rfl

end Equations

/-- Tasks take the same turns. -/
theorem takeTurns_twin (may : Task τ → Bool) (awaited : Option Nat) (h : s.Twin t s') :
    (s.takeTurns may awaited).1 = (s'.takeTurns may awaited).1 ∧
      (s.takeTurns may awaited).2.Twin t (s'.takeTurns may awaited).2 := by
  have hnext {s s' : Server τ} (h : s.Twin t s') : nextTask s'.tasks = nextTask s.tasks := by
    obtain ⟨other, rfl, -⟩ := h
    rfl
  -- The turn of the next task is the same on both servers, and leaves them alike.
  have hturn {s s' s₁ : Server τ} {before behind : List (Task τ)} {u : Task τ}
      {ended : Option (Ending τ)} (h : s.Twin t s') (hturned : s.turn before u behind = (ended, s₁)) :
      ∃ s₁', s'.turn before u behind = (ended, s₁') ∧ s₁.Twin t s₁' := by
    obtain ⟨hsame, htwin⟩ := turn_twin before u behind h
    rw [hturned] at hsame htwin
    exact ⟨(s'.turn before u behind).2, Prod.ext hsame.symm rfl, htwin⟩
  fun_induction takeTurns s may awaited generalizing s' with
  | case1 s hnone =>
    rw [takeTurns_none ((hnext h).trans hnone)]
    exact ⟨rfl, h⟩
  | case2 s before u behind hsome hmay ending s₁ hturned hawaited =>
    obtain ⟨s₁', hturned', htwin⟩ := hturn h hturned
    rw [takeTurns_awaited ((hnext h).trans hsome) hmay hturned' hawaited]
    exact ⟨rfl, htwin⟩
  | case3 s before u behind hsome hmay ending s₁ hturned hawaited ih =>
    obtain ⟨s₁', hturned', htwin⟩ := hturn h hturned
    rw [takeTurns_on ((hnext h).trans hsome) hmay hturned' fun _ => hawaited]
    exact ih htwin
  | case4 s before u behind hsome hmay s₁ hturned ih =>
    obtain ⟨s₁', hturned', htwin⟩ := hturn h hturned
    rw [takeTurns_on ((hnext h).trans hsome) hmay hturned' fun h => absurd h Bool.false_ne_true]
    exact ih htwin
  | case5 s before u behind hsome hmay =>
    rw [takeTurns_not_yet ((hnext h).trans hsome) hmay]
    exact ⟨rfl, h⟩

end Server

/-! ## What a dispatcher does -/

namespace Service

variable [ActiveTime τ] [RunningMean τ] {d : Dispatcher}

theorem isolated_await (u : Task τ) : (await u).Isolated t := by
  intro s s' h
  obtain ⟨hsame, htwin⟩ := Server.turn_twin [] u s.tasks h
  have htasks : s'.tasks = s.tasks := by
    obtain ⟨other, rfl, -⟩ := h
    rfl
  change (s.await u).1 = (s'.await u).1 ∧ (s.await u).2.Twin t (s'.await u).2
  unfold Server.await
  rw [htasks]
  rcases hturned : s.turn [] u s.tasks with ⟨_ | ending, s₁⟩ <;>
    rcases hturned' : s'.turn [] u s.tasks with ⟨_ | ending', s₁'⟩ <;>
    rw [hturned, hturned'] at hsame htwin <;> cases hsame
  · obtain ⟨hending, hlater⟩ :=
      Server.takeTurns_twin (fun _ => true) (some u.number) htwin
    exact ⟨congrArg (·.getD (.error .notReady)) hending, hlater⟩
  · exact ⟨rfl, htwin⟩

omit [ActiveTime τ] [RunningMean τ] in
theorem isolated_newTask (kind : TaskKind) (runId : String) (workflow : Definition) (event : Event)
    (rest : Dialogue (Except Escape (RunResult τ))) :
    (newTask kind d runId workflow event rest).Isolated t := by
  rintro s _ ⟨other, rfl, hs⟩
  exact ⟨rfl, other, rfl, hs⟩

omit [RunningMean τ] in
theorem isolated_spawn (workflow : Definition) (event : Event) :
    (spawn d workflow event : Service τ String).Isolated t := by
  refine (isolated_store (T := fun _ => True) Operation.isolated_freshId).bind fun runId => ?_
  refine isolated_get (fun _ _ => rfl) fun s => ?_
  refine (isolated_newTask _ _ _ _ _).bind fun task => ?_
  rintro s _ ⟨other, rfl, hs⟩
  exact ⟨rfl, other, rfl, hs⟩

omit [RunningMean τ] in
theorem isolated_dispatchEvent (ht : t ≠ "") (event : Event) :
    (dispatchEvent d t event : Service τ Dispatched).Isolated t := by
  refine (isolated_store (T := fun _ => True)
    (Workflows.isolated_enabledDefinitions ht event.type)).bind fun candidates => ?_
  exact (isolated_mapM (isolated_spawn · event) _).bind fun ids => isolated_pure _

theorem isolated_testRun (workflowId : String) (event : Event) :
    (testRun d workflowId t event : Service τ (RunResult τ)).Isolated t := by
  refine (isolated_store (T := fun _ => True)
    (Workflows.isolated_definition workflowId)).bind fun workflow => ?_
  refine (isolated_store (T := fun _ => True) Operation.isolated_freshId).bind fun runId => ?_
  refine isolated_get (fun _ _ => rfl) fun s => ?_
  refine isolated_store_bind (Runs.isolated_start (T := fun _ => True) fun _ _ => trivial) ?_
  refine isolated_get (fun _ _ => rfl) fun s => ?_
  exact (isolated_newTask _ _ _ _ _).bind isolated_await

omit [ActiveTime τ] [RunningMean τ] in
theorem isolated_abortRun (runId : String) : (abortRun d runId t : Service τ Bool).Isolated t := by
  refine (isolated_store (T := fun _ => True) (Runs.isolated_owned runId)).bind fun row => ?_
  dsimp only
  split
  · exact isolated_pure false
  · rintro s _ ⟨other, rfl, hs⟩
    rw [get_bind_run, get_bind_run]
    dsimp only
    rw [set_bind_run, set_bind_run]
    split <;> exact ⟨rfl, other, rfl, hs⟩

end Service

end Automation
