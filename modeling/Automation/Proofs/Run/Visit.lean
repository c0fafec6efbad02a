import Automation.Proofs.Run.Course

/-!
# Visits

What a visit of a node can do to a run. A visit reads the clock, works, and reads the clock again to
leave one result; a surprise in between leaves none. Outputs, results and the time in pauses are all
that it changes. Who reasons about runs needs `Engine.visit_cases` and `Engine.visit_asks`, and not
the visits themselves.
-/

namespace Automation

variable {τ : Type} {s s' : RunState τ} {t : List Exchange}

/-! ## Leaving a node -/

/-- The context after a visit: the output of a success is kept. -/
def Outcome.keep (o : Outcome) (nodeId : String) (c : Context) : Context :=
  match o.status with
  | .success => c.recordOutput nodeId (.object (o.output.getD []))
  | .failed => c

/-- Whether the run goes on after an outcome at a node. -/
def Outcome.verdict (o : Outcome) (n : Node) : Except Halt Unit :=
  match o.status with
  | .success => .ok ()
  | .failed =>
    let error := o.error.getD ""
    if o.errorKind = some "fatal" then .error (.failed error)
    else if n.abortOnFailure then
      .error (.failed s!"Action '{n.id}' failed and is marked abort on failure: {error}")
    else .ok ()

theorem Outcome.verdict_cases (o : Outcome) (n : Node) :
    o.verdict n = .ok () ∨ ∃ message, o.verdict n = .error (.failed message) := by
  unfold Outcome.verdict
  split
  · exact .inl rfl
  · dsimp only
    split
    · exact .inr ⟨_, rfl⟩
    · split
      · exact .inr ⟨_, rfl⟩
      · exact .inl rfl

/-- The state that a visit with an outcome leaves. -/
def Visit.leave (e : Engine) (v : Visit) (o : Outcome) (iteration : Option Int) (finished : Nat)
    (s : RunState τ) : RunState τ :=
  { s with
    context := o.keep v.node.id s.context
    stepResults := s.stepResults ++ [v.result e o iteration finished] }

/-- A state that differs in outputs and in the time in pauses at most. -/
def RunState.Unrecorded (s s' : RunState τ) : Prop :=
  ∃ outputs paused, s' = { s with context := { s.context with outputs }, paused }

theorem RunState.Unrecorded.refl (s : RunState τ) : s.Unrecorded s :=
  ⟨s.context.outputs, s.paused, rfl⟩

/-- The last exchange of a visit is a reading of the clock, and what the visit leaves is the result
of an outcome. -/
def Visit.Leaves (e : Engine) (v : Visit) (o : Outcome) (s : RunState τ) (t : List Exchange)
    (s' : RunState τ) : Prop :=
  ∃ t₁ iteration finished paused, t = t₁ ++ [⟨.clock, finished⟩] ∧ v.iteration = .ok iteration ∧
    s' = v.leave e o iteration finished { s with paused }

/-- A surprise of the work at a node: not that there is no such node. -/
def Surprise.OfVisit : Surprise → Prop
  | .noNode _ => False
  | _ => True

/-- A halt that the visit of a node can come to: no abort, and no budget that is used up. -/
def Halt.OfVisit : Halt → Prop
  | .failed _ | .suspended _ _ | .surprise _ => True
  | .stepBudget _ | .depthBudget _ | .timeBudget _ | .aborted _ => False

/-- A visit ends: in a surprise, or with the result of an outcome of a status. -/
def Visit.Ended (e : Engine) (v : Visit) (status : StepStatus) (s : RunState τ)
    (t : List Exchange) (r : Except Halt Unit) (s' : RunState τ) : Prop :=
  (∃ x : Surprise, x.OfVisit ∧ r = .error (.surprise x) ∧ s.Unrecorded s') ∨
    ∃ o : Outcome, o.status = status ∧ r = o.verdict v.node ∧ v.Leaves e o s t s'

/-- A visit ends with an outcome: after a reading of the clock with its result, or in a surprise. -/
def Visit.EndsWith (e : Engine) (v : Visit) (o : Outcome) (s : RunState τ) (t : List Exchange)
    (r : Except Halt Unit) (s' : RunState τ) : Prop :=
  (∃ x : Surprise, x.OfVisit ∧ r = .error (.surprise x) ∧ s.Unrecorded s') ∨
    ∃ (finished : Nat) (iteration : Option Int), t = [⟨.clock, finished⟩] ∧
      v.iteration = .ok iteration ∧ r = o.verdict v.node ∧ s' = v.leave e o iteration finished s

namespace Visit

variable {e : Engine} {v : Visit} {status : StepStatus} {r : Except Halt Unit}

theorem EndsWith.ended {o : Outcome} (h : v.EndsWith e o s t r s') :
    v.Ended e o.status s t r s' := by
  rcases h with hsurprise | ⟨finished, iteration, rfl, hv, hr, rfl⟩
  · exact .inl hsurprise
  · exact .inr ⟨o, rfl, hr, [], iteration, finished, s.paused, rfl, hv, rfl⟩

theorem EndsWith.surprise {o : Outcome} {x : Surprise} (hx : x.OfVisit) (h : s.Unrecorded s') :
    v.EndsWith e o s t (.error (.surprise x)) s' :=
  .inl ⟨x, hx, rfl, h⟩

theorem Ended.surprise {x : Surprise} (hx : x.OfVisit) (h : s.Unrecorded s') :
    v.Ended e status s t (.error (.surprise x)) s' :=
  .inl ⟨x, hx, rfl, h⟩

/-- What goes before the end of a visit changes nothing but the time in pauses. -/
theorem Ended.prepend (t₁ : List Exchange) {t₂ : List Exchange} {paused : τ}
    (h : v.Ended e status { s with paused } t₂ r s') : v.Ended e status s (t₁ ++ t₂) r s' := by
  rcases h with ⟨x, hx, rfl, outputs, paused', rfl⟩ | ⟨o, ho, rfl, t', iteration, finished, paused',
    rfl, hv, rfl⟩
  · exact .inl ⟨x, hx, rfl, outputs, paused', rfl⟩
  · exact .inr ⟨o, ho, rfl, t₁ ++ t', iteration, finished, paused', by rw [List.append_assoc], hv,
      rfl⟩

/-- The result of a visit is recorded, or the visit ends in a surprise. -/
theorem record_cases {o : Outcome} (h : (v.record e o).Course s t r s') :
    (∃ x : Surprise, x.OfVisit ∧ r = .error (.surprise x) ∧ s' = s) ∨
      ∃ (finished : Nat) (iteration : Option Int), t = [⟨.clock, finished⟩] ∧
        v.iteration = .ok iteration ∧ r = .ok () ∧
        s' = { s with stepResults := s.stepResults ++ [v.result e o iteration finished] } := by
  rcases Walk.course_unlessMisfit_bind.mp h with ⟨m, -, -, rfl, rfl⟩ | ⟨-, h⟩
  · exact .inl ⟨.misfit m, trivial, rfl, rfl⟩
  obtain ⟨finished, t', rfl, hrest⟩ := Walk.course_clock_bind.mp h
  cases hv : v.iteration with
  | bad issues =>
    rw [hv] at hrest
    obtain ⟨rfl, rfl, rfl⟩ := Walk.course_surprise.mp hrest
    exact .inl ⟨.badStep _, trivial, rfl, rfl⟩
  | ok iteration =>
    rw [hv] at hrest
    obtain ⟨rfl, rfl, rfl⟩ := Walk.course_modify.mp hrest
    exact .inr ⟨finished, iteration, rfl, rfl, rfl, rfl⟩

theorem succeed_endsWith {input output : Entries Value} {attempts : Int}
    (h : (v.succeed e input output attempts).Course s t r s') :
    v.EndsWith e { status := .success, input := some input, output := some output, attempts }
      s t r s' := by
  rw [succeed] at h
  rcases Walk.course_recordOutput_bind.mp h with ⟨m, -, -, rfl, rfl⟩ | ⟨-, h⟩
  · exact .inl ⟨.misfit m, trivial, rfl, .refl s'⟩
  rcases record_cases h with ⟨x, hx, rfl, rfl⟩ | ⟨finished, iteration, rfl, hv, rfl, rfl⟩
  · exact .inl ⟨x, hx, rfl, _, s.paused, rfl⟩
  · exact .inr ⟨finished, iteration, rfl, hv, rfl, rfl⟩

theorem succeed_ended {input output : Entries Value} {attempts : Int}
    (h : (v.succeed e input output attempts).Course s t r s') :
    v.Ended e .success s t r s' :=
  (succeed_endsWith h).ended

/-- A failure ends the run if it is fatal, or if the node aborts on failure. -/
theorem fail_endsWith {error errorKind : String} {input : Option (Entries Value)} {attempts : Int}
    {fatal : Bool} (hfatal : fatal = decide (errorKind = "fatal"))
    (h : (v.fail e error errorKind input attempts fatal).Course s t r s') :
    v.EndsWith e
      { status := .failed, input, error := some error, errorKind := some errorKind, attempts }
      s t r s' := by
  rw [fail, Walk.course_bind] at h
  -- The result is recorded before the run is halted, so a halt other than a surprise has its result.
  rcases h with ⟨halt, rfl, h⟩ | ⟨⟨⟩, t₁, t₂, s₁, rfl, hrec, h⟩
  · rcases record_cases h with ⟨x, hx, hr, rfl⟩ | ⟨_, _, _, _, hr, _⟩
    · cases hr
      exact .inl ⟨x, hx, rfl, .refl s'⟩
    · cases hr
  · rcases record_cases hrec with ⟨_, _, hr, _⟩ | ⟨finished, iteration, rfl, hv, _, rfl⟩
    · cases hr
    · let o : Outcome :=
        { status := .failed, input, error := some error, errorKind := some errorKind, attempts }
      suffices hr : t₂ = [] ∧ r = o.verdict v.node ∧ s' = v.leave e o iteration finished s by
        obtain ⟨rfl, rfl, rfl⟩ := hr
        exact .inr ⟨finished, iteration, rfl, hv, rfl, rfl⟩
      subst hfatal
      by_cases hf : errorKind = "fatal"
      · simp only [hf, decide_true, if_true] at h
        obtain ⟨rfl, rfl, rfl⟩ := Walk.course_throw.mp h
        exact ⟨rfl, by simp [Outcome.verdict, o, hf], by simp [leave, Outcome.keep, o, hf]⟩
      · simp only [hf, decide_false, Bool.false_eq_true, if_false] at h
        by_cases ha : v.node.abortOnFailure = true
        · simp only [ha, if_true] at h
          obtain ⟨rfl, rfl, rfl⟩ := Walk.course_throw.mp h
          exact ⟨rfl, by simp [Outcome.verdict, o, hf, ha], rfl⟩
        · simp only [ha] at h
          obtain ⟨rfl, rfl, rfl⟩ := Walk.course_pure.mp h
          exact ⟨rfl, by simp [Outcome.verdict, o, hf, ha], rfl⟩

end Visit

/-! ## The kinds of work -/

/-- The side that a branch takes. -/
def Branch.side (b : Branch) (c : Context) : List String :=
  match Condition.evaluate b.condition c with
  | .ok true => b.trueActions
  | _ => b.falseActions

/-- Whether the condition of a branch can be evaluated. -/
def Branch.status (b : Branch) (c : Context) : StepStatus :=
  match Condition.evaluate b.condition c with
  | .ok _ => .success
  | .error _ => .failed

/-- The elements of what was looked up, if it is a list. -/
def listed : Except LookupFault (Option Value) → Option (List Value)
  | .ok (some (.list items)) => some items
  | _ => none

/-- The elements that a loop goes through, if there is a list of them. -/
def Loop.elements (l : Loop) (c : Context) : Option (List Value) :=
  listed (c.lookup (Template.stripPlaceholder l.items))

/-- Whether a loop has elements to go through. -/
def Loop.status (l : Loop) (c : Context) : StepStatus :=
  match l.elements c with
  | some _ => .success
  | none => .failed

theorem Branch.side_of_failed {b : Branch} {c : Context} (h : b.status c = .failed) :
    b.side c = b.falseActions := by
  unfold Branch.status at h
  unfold Branch.side
  split at h <;> rename_i heq
  · cases h
  · rw [heq]

theorem Loop.elements_of_failed {l : Loop} {c : Context} (h : l.status c = .failed) :
    l.elements c = none := by
  unfold Loop.status at h
  split at h <;> rename_i heq
  · cases h
  · exact heq

/-- What comes of an action whose configuration does not hold when it is filled in. -/
def Outcome.invalid (a : Action) (issues : List Schema.Issue) : Outcome where
  status := .failed
  error := some ("Resolved config is invalid: " ++ Schema.summary a.kind.configTitle issues)
  errorKind := some "validation"

/-- What comes of an action that cannot be carried out. -/
def Outcome.missing (a : Action) : Outcome where
  status := .failed
  input := some ((a.writeConfig .full).fields?.getD [])
  error := some s!"No executor registered for '{a.kind.name}'"
  errorKind := some "fatal"

/-- What comes of an action that is done. The number of attempts is kept with a result and with a
classified failure. -/
def Outcome.performed (a : Action) (result : Except Fault (Entries Value)) (attempts : Nat) :
    Outcome :=
  let input := (a.writeConfig .full).fields?.getD []
  match result with
  | .ok output => { status := .success, input := some input, output := some output, attempts }
  | .error fault =>
    { status := .failed, input := some input, error := some fault.message
      errorKind := some (Engine.faultKind fault)
      attempts := match fault with
        | .failure _ => attempts
        | .defect _ => 1 }

/-- Whether a pause suspends the run. -/
def Delay.suspends (d : Delay) (e : Engine) (top : Bool) : Bool :=
  top && e.suspendFrom.any fun least => least ≤ d.seconds

namespace Engine

variable {e : Engine} {v : Visit}

/-- The visit of an action ends without doing it, or it ends with what the action comes to. -/
theorem visitAction_cases {a : Action} {r : Except Halt Unit}
    (h : (e.visitAction v a).Course s t r s') :
    (∃ fault, resolveConfig a { s.context with locals := v.locals } = .error fault ∧ t = [] ∧
        r = .error (.surprise (.lookup fault)) ∧ s' = s) ∨
      (∃ issues, resolveConfig a { s.context with locals := v.locals } = .ok (.bad issues) ∧
        v.EndsWith e (.invalid a issues) s t r s') ∨
      ∃ a', resolveConfig a { s.context with locals := v.locals } = .ok (.ok a') ∧
        ((e.missing.contains a'.kind.name = true ∧ v.EndsWith e (.missing a') s t r s') ∨
          (e.missing.contains a'.kind.name = false ∧ ∃ result attempts t₁ t₂, t = t₁ ++ t₂ ∧
            (a'.perform v.node.id { s.context with locals := v.locals } e.places e.origin
              e.retry).Course t₁ (result, attempts) ∧
            v.EndsWith e (.performed a' result attempts) s t₂ r s')) := by
  rw [visitAction, Walk.course_contextWith_bind] at h
  split at h <;> rename_i hresolved
  · obtain ⟨rfl, rfl, rfl⟩ := Walk.course_surprise.mp h
    exact .inl ⟨_, hresolved, rfl, rfl, rfl⟩
  · exact .inr (.inl ⟨_, hresolved, Visit.fail_endsWith (by decide) h⟩)
  · refine .inr (.inr ⟨_, hresolved, ?_⟩)
    dsimp only at h
    split at h <;> rename_i hmissing
    · exact .inl ⟨hmissing, Visit.fail_endsWith (by decide) h⟩
    · obtain ⟨⟨result, attempts⟩, t₁, t₂, rfl, hperform, h⟩ := Walk.course_lift_bind.mp h
      refine .inr ⟨by simpa using hmissing, result, attempts, t₁, t₂, rfl, hperform, ?_⟩
      match result, h with
      | .ok output, h => exact Visit.succeed_endsWith h
      | .error (.failure f), h =>
        have hfatal : decide (f.kind = .fatal) = decide (f.kind.name = "fatal") := by
          cases f.kind <;> decide
        exact Visit.fail_endsWith hfatal h
      | .error (.defect d), h => exact Visit.fail_endsWith (by simp [faultKind]) h

theorem visitAction_ended {a : Action} {r : Except Halt Unit}
    (h : (e.visitAction v a).Course s t r s') : ∃ status, v.Ended e status s t r s' := by
  obtain ⟨fault, -, rfl, rfl, rfl⟩ | ⟨issues, -, hends⟩ | ⟨a', -, ⟨-, hends⟩ |
    ⟨-, result, attempts, t₁, t₂, rfl, -, hends⟩⟩ := visitAction_cases h
  · exact ⟨.failed, .surprise trivial (.refl s')⟩
  · exact ⟨_, hends.ended⟩
  · exact ⟨_, hends.ended⟩
  · have hended : v.Ended e _ { s with paused := s.paused } t₂ r s' := hends.ended
    exact ⟨_, hended.prepend t₁⟩

theorem visitBranch_endsWith {b : Branch} {r : Except Halt (List String)}
    (h : (e.visitBranch v b).Course s t r s') :
    ∃ o r₀, o.status = b.status { s.context with locals := v.locals } ∧ v.EndsWith e o s t r₀ s' ∧
      r = r₀.map fun _ => b.side { s.context with locals := v.locals } := by
  rw [visitBranch, Walk.course_contextWith_bind] at h
  dsimp only at h
  split at h <;> rename_i heq <;> simp only [Branch.status, Branch.side, heq]
  · rename_i result
    rw [pure_bind] at h
    obtain ⟨r₀, rfl, hw⟩ := Walk.course_bind_pure.mp h
    exact ⟨_, r₀, rfl, Visit.succeed_endsWith hw, by cases result <;> rfl⟩
  · rw [pure_bind] at h
    obtain ⟨r₀, rfl, hw⟩ := Walk.course_bind_pure.mp h
    exact ⟨_, r₀, rfl, Visit.fail_endsWith (by decide) hw, rfl⟩
  · rw [pure_bind] at h
    obtain ⟨r₀, rfl, hw⟩ := Walk.course_bind_pure.mp h
    exact ⟨_, r₀, rfl, Visit.fail_endsWith (by decide) hw, rfl⟩
  · obtain ⟨rfl, rfl, rfl⟩ := Walk.course_throw_bind.mp h
    exact ⟨{ status := .failed }, .error (.surprise (.longInteger _)), rfl,
      .surprise trivial (.refl s'), rfl⟩
  · obtain ⟨rfl, rfl, rfl⟩ := Walk.course_throw_bind.mp h
    exact ⟨{ status := .failed }, .error (.surprise (.lookup _)), rfl,
      .surprise trivial (.refl s'), rfl⟩

/-- The locals of the iterations of a loop over some elements. -/
def loopLocals (locals : Entries Value) (elements : List Value) : List (Entries Value) :=
  elements.zipIdx.map fun (item, index) => iterationLocals locals index item

theorem visitLoop_endsWith {l : Loop} {r : Except Halt (List (Entries Value))}
    (h : (e.visitLoop v l).Course s t r s') :
    ∃ o r₀, o.status = l.status { s.context with locals := v.locals } ∧ v.EndsWith e o s t r₀ s' ∧
      r = r₀.map fun _ => loopLocals v.locals
        ((l.elements { s.context with locals := v.locals }).getD []) := by
  rw [visitLoop] at h
  dsimp only at h
  rw [Walk.course_contextWith_bind] at h
  dsimp only at h
  unfold Loop.status Loop.elements
  generalize Context.lookup { s.context with locals := v.locals }
    (Template.stripPlaceholder l.items) = found at h ⊢
  split at h
  · obtain ⟨rfl, rfl, rfl⟩ := Walk.course_surprise.mp h
    exact ⟨{ status := .failed }, .error (.surprise (.lookup _)), rfl,
      .surprise trivial (.refl s'), rfl⟩
  · obtain ⟨r₀, rfl, hw⟩ := Walk.course_bind_pure.mp h
    exact ⟨_, r₀, rfl, Visit.fail_endsWith (by decide) hw, rfl⟩
  · obtain ⟨r₀, rfl, hw⟩ := Walk.course_bind_pure.mp h
    exact ⟨_, r₀, rfl, Visit.succeed_endsWith hw, rfl⟩
  · rename_i found hne
    obtain ⟨r₀, rfl, hw⟩ := Walk.course_bind_pure.mp h
    have hnone : listed (.ok (some found)) = none := by
      cases found with
      | list items => exact absurd rfl (hne items)
      | _ => rfl
    rw [hnone]
    exact ⟨_, r₀, rfl, Visit.fail_endsWith (by decide) hw, rfl⟩

/-- A pause breaks off, or what passes between its two readings of the clock is added to the time in
pauses. -/
theorem wait_cases [ActiveTime τ] {seconds : Float} {r : Except Halt Unit}
    (h : (Walk.wait seconds).Course s t r s') :
    (∃ message, r = .error (.surprise (.pause message)) ∧ s' = s) ∨
      ∃ start finish : Nat, r = .ok () ∧
        t = [⟨.clock, start⟩, ⟨.sleep seconds, .ok ()⟩, ⟨.clock, finish⟩] ∧
        s' = { s with
          paused := ActiveTime.add s.paused
            (ActiveTime.sub (ActiveTime.ofMicros finish) (ActiveTime.ofMicros start)) } := by
  obtain ⟨start, t₁, rfl, h₁⟩ := Walk.course_clock_bind.mp h
  obtain ⟨waited, t₂, rfl, h₂⟩ := Walk.course_request_bind.mp h₁
  rcases waited with message | ⟨⟩
  · obtain ⟨rfl, rfl, rfl⟩ := Walk.course_surprise.mp h₂
    exact .inl ⟨message, rfl, rfl⟩
  · obtain ⟨finish, t₃, rfl, h₃⟩ := Walk.course_clock_bind.mp h₂
    obtain ⟨rfl, rfl, rfl⟩ := Walk.course_modify.mp h₃
    exact .inr ⟨start, finish, rfl, rfl, rfl⟩

/-- A pause that is waited out leaves what the rest of the visit leaves. -/
theorem wait_ended [ActiveTime τ] {seconds : Float} {rest : Walk τ Unit} {r : Except Halt Unit}
    (h : Walk.Course (do
      unless e.skipsPauses do Walk.wait seconds
      rest) s t r s')
    (hrest : ∀ {s t}, rest.Course s t r s' → v.Ended e status s t r s') :
    v.Ended e status s t r s' := by
  split at h
  · exact hrest h
  · rcases Walk.course_bind.mp h with ⟨halt, rfl, hw⟩ | ⟨⟨⟩, t₁, t₂, s₁, rfl, hw, hafter⟩
    · obtain ⟨message, hr, rfl⟩ | ⟨start, finish, hr, -, rfl⟩ := wait_cases hw
      · cases hr
        exact .surprise trivial (.refl _)
      · cases hr
    · obtain ⟨message, hr, rfl⟩ | ⟨start, finish, hr, -, rfl⟩ := wait_cases hw
      · cases hr
      · exact (hrest hafter).prepend t₁

/-- How the run goes on after a pause at a moment. -/
def afterDelay (e : Engine) (d : Delay) (next : Option String) (top : Bool) (started : Nat) :
    Except Halt Unit :=
  if d.suspends e top then
    match (Time.spanOfSeconds d.seconds).bind (e.stamp started).shift with
    | .error fault => .error (.surprise (.span fault))
    | .ok resumeAt => .error (.suspended next resumeAt)
  else .ok ()

theorem visitDelay_ended [ActiveTime τ] {d : Delay} {top : Bool} {r : Except Halt Unit}
    (h : (e.visitDelay v d top).Course s t r s') :
    ∃ r₀, v.Ended e .success s t r₀ s' ∧
      r = r₀.bind (fun _ => e.afterDelay d v.node.nextAction top v.started) ∧
      (r₀ = .ok () → ∀ x, r ≠ .error (.surprise x)) := by
  unfold visitDelay at h
  dsimp only at h
  unfold afterDelay Delay.suspends
  split at h <;> rename_i hs
  · rw [if_pos hs]
    cases hshift : (Time.spanOfSeconds d.seconds).bind (e.stamp v.started).shift with
    | error fault =>
      -- The moment is computed before the result is left: out of range, it leaves none.
      rw [hshift] at h
      obtain ⟨rfl, rfl, rfl⟩ := Walk.course_surprise.mp h
      exact ⟨.error (.surprise (.span fault)), .surprise trivial (.refl s'), rfl, nofun⟩
    | ok resumeAt =>
      rw [hshift] at h
      rcases Walk.course_bind.mp h with ⟨halt, rfl, hw⟩ | ⟨⟨⟩, t₁, t₂, s₁, rfl, hw, hthrow⟩
      · exact ⟨_, Visit.succeed_ended hw, rfl, nofun⟩
      · obtain ⟨rfl, rfl, rfl⟩ := Walk.course_throw.mp hthrow
        rw [List.append_nil]
        exact ⟨_, Visit.succeed_ended hw, rfl, nofun⟩
  · rw [if_neg hs]
    have hended := wait_ended h Visit.succeed_ended
    refine ⟨r, hended, by cases r <;> rfl, ?_⟩
    rintro rfl x ⟨⟩

/-! ## Visits of nodes -/

/-- How a run goes on at a node that does not end it: through the walks inside it, in order, each
with where it begins and its locals. -/
def proceed (e : Engine) (n : Node) (c : Context) (top : Bool) (started : Nat) :
    Except Halt (List (String × Entries Value)) :=
  match n.work with
  | .action _ => .ok []
  | .condition b => .ok ((b.side c).map fun target => (target, c.locals))
  | .loop l => .ok ((loopLocals c.locals ((l.elements c).getD [])).map fun inner =>
      (l.actionId, inner))
  | .delay d => (e.afterDelay d n.nextAction top started).map fun _ => []

/-- The status of an outcome, where it follows from the context. -/
def Fits (n : Node) (c : Context) (status : StepStatus) : Prop :=
  match n.work with
  | .action _ => True
  | .condition b => status = b.status c
  | .loop l => status = l.status c
  | .delay _ => status = .success

/-- The work of a visit ends, and then the run goes on if it may. -/
theorem visit_ended [ActiveTime τ] {n : Node} {locals : Entries Value} {top : Bool}
    {r : Except Halt (List (String × Entries Value))}
    (h : (e.visit n locals top).Course s t r s') :
    ∃ (started : Nat) (t' : _) (status : _) (r₀ : _), t = ⟨.clock, started⟩ :: t' ∧
      Visit.Ended e ⟨n, locals, started⟩ status s t' r₀ s' ∧
      Fits n { s.context with locals } status ∧
      r = r₀.bind (fun _ => e.proceed n { s.context with locals } top started) ∧
      (r₀ = .ok () → ∀ x, r ≠ .error (.surprise x)) := by
  obtain ⟨started, t', rfl, hwork⟩ := Walk.course_clock_bind.mp h
  refine ⟨started, t', ?_⟩
  unfold proceed Fits
  cases hn : n.work with
  | action a =>
    simp only [hn] at hwork ⊢
    obtain ⟨r₀, rfl, hw⟩ := Walk.course_bind_pure.mp hwork
    obtain ⟨status, hended⟩ := visitAction_ended hw
    refine ⟨status, r₀, trivial, hended, trivial, by cases r₀ <;> rfl, ?_⟩
    rintro rfl x ⟨⟩
  | condition b =>
    simp only [hn, bind_pure_comp] at hwork ⊢
    obtain ⟨r₁, rfl, hw⟩ := Walk.course_map.mp hwork
    obtain ⟨o, r₀, ho, hends, rfl⟩ := visitBranch_endsWith hw
    refine ⟨_, r₀, trivial, hends.ended, ho, by cases r₀ <;> rfl, ?_⟩
    rintro rfl x ⟨⟩
  | loop l =>
    simp only [hn, bind_pure_comp] at hwork ⊢
    obtain ⟨r₁, rfl, hw⟩ := Walk.course_map.mp hwork
    obtain ⟨o, r₀, ho, hends, rfl⟩ := visitLoop_endsWith hw
    refine ⟨_, r₀, trivial, hends.ended, ho, by cases r₀ <;> rfl, ?_⟩
    rintro rfl x ⟨⟩
  | delay d =>
    simp only [hn] at hwork ⊢
    obtain ⟨r₁, rfl, hw⟩ := Walk.course_bind_pure.mp hwork
    obtain ⟨r₀, hended, rfl, hok⟩ := visitDelay_ended hw
    refine ⟨_, r₀, trivial, hended, rfl, ?_, ?_⟩
    · cases r₀ with
      | error halt => rfl
      | ok _ => cases e.afterDelay d n.nextAction top started <;> rfl
    · rintro rfl x hx
      cases hd : e.afterDelay d n.nextAction top started with
      | error halt =>
        simp [Except.bind, Except.map, hd] at hx
        exact hok rfl x (by simp [Except.bind, hd, hx])
      | ok _ => simp [Except.bind, Except.map, hd] at hx

/-- A visit of a node is a surprise, or it leaves one result and says how the run goes on. -/
theorem visit_cases [ActiveTime τ] {n : Node} {locals : Entries Value} {top : Bool}
    {r : Except Halt (List (String × Entries Value))}
    (h : (e.visit n locals top).Course s t r s') :
    ∃ (started : Nat) (t' : _), t = ⟨.clock, started⟩ :: t' ∧
      ((∃ x : Surprise, x.OfVisit ∧ r = .error (.surprise x) ∧ s.Unrecorded s') ∨
        ∃ o : Outcome, Visit.Leaves e ⟨n, locals, started⟩ o s t' s' ∧
          Fits n { s.context with locals } o.status ∧
          r = (o.verdict n).bind (fun _ => e.proceed n { s.context with locals } top started) ∧
          ∀ x, r ≠ .error (.surprise x)) := by
  obtain ⟨started, t', status, r₀, rfl, hended, hfits, hr, hok⟩ := visit_ended h
  refine ⟨started, t', rfl, ?_⟩
  rcases hended with ⟨x, hx, rfl, hs⟩ | ⟨o, rfl, rfl, hleaves⟩
  · exact .inl ⟨x, hx, hr, hs⟩
  · refine .inr ⟨o, hleaves, hfits, hr, ?_⟩
    rcases o.verdict_cases n with hv | ⟨message, hv⟩
    · exact hok hv
    · rw [hr, hv]
      exact nofun

theorem proceed_halt {n : Node} {c : Context} {top : Bool} {started : Nat} {halt : Halt}
    (h : e.proceed n c top started = .error halt) : halt.OfVisit := by
  unfold proceed at h
  split at h
  · cases h
  · cases h
  · cases h
  · rename_i d _
    cases hafter : e.afterDelay d n.nextAction top started with
    | ok _ =>
      rw [hafter] at h
      cases h
    | error halt' =>
      rw [hafter] at h
      cases h
      unfold afterDelay at hafter
      split at hafter
      · split at hafter <;> cases hafter <;> trivial
      · cases hafter

theorem visit_halt [ActiveTime τ] {n : Node} {locals : Entries Value} {top : Bool} {halt : Halt}
    (h : (e.visit n locals top).Course s t (.error halt) s') : halt.OfVisit := by
  obtain ⟨started, t', rfl, ⟨x, -, hr, _⟩ | ⟨o, _, _, hr, _⟩⟩ := visit_cases h
  · cases hr
    trivial
  · rcases o.verdict_cases n with hverdict | ⟨message, hverdict⟩ <;> rw [hverdict] at hr
    · exact proceed_halt hr.symm
    · cases hr
      trivial

end Engine

/-! ## What a visit asks -/

/-- What an action at a node may ask: the time, a pause, and the calls that it plans. -/
def Engine.Asks (e : Engine) (nodeId : String) (c : Context) : Request → Prop
  | .clock | .sleep _ => True
  | .aborted _ => False
  | .call call timeout => ∃ (a : Action) (reading : Nat) (plan : Plan),
      a.plan nodeId c e.places (Action.stampAt e.origin reading) = .ok plan ∧ call = plan.call ∧
        a.timeout = .ok timeout

/-- What the visit of a node may ask: its calls are those that its action plans when its
configuration is filled in. -/
def Engine.AsksAt (e : Engine) (n : Node) (c : Context) : Request → Prop
  | .clock | .sleep _ => True
  | .aborted _ => False
  | .call call timeout => ∃ (a a' : Action) (reading : Nat) (plan : Plan), n.work = .action a ∧
      resolveConfig a c = .ok (.ok a') ∧
      a'.plan n.id c e.places (Action.stampAt e.origin reading) = .ok plan ∧ call = plan.call ∧
        a'.timeout = .ok timeout

section Asks

variable {e : Engine} {c : Context}

theorem Engine.AsksAt.asks {n : Node} {r : Request} (h : e.AsksAt n c r) : e.Asks n.id c r := by
  cases r with
  | clock | sleep seconds => trivial
  | aborted runId => exact h
  | call call timeout =>
    obtain ⟨a, a', reading, plan, -, -, hplan, hcall, htimeout⟩ := h
    exact ⟨a', reading, plan, hplan, hcall, htimeout⟩

theorem Action.attempt_only {n : Node} {a a' : Action} {timeout : Float} (hn : n.work = .action a)
    (ha : Engine.resolveConfig a c = .ok (.ok a')) (h : a'.timeout = .ok timeout) :
    (a'.attempt n.id c e.places e.origin timeout).Only (e.AsksAt n c) := by
  refine (Dialogue.only_request (by trivial : e.AsksAt n c .clock)).bind fun reading => ?_
  split
  · exact .done _
  · rename_i plan hplan
    have hcall : e.AsksAt n c (.call plan.call timeout) :=
      ⟨a, a', reading, plan, hn, ha, hplan, rfl, h⟩
    refine (Dialogue.only_request hcall).bind fun answer => ?_
    split <;> exact .done _

theorem Action.attemptsFrom_only {P : Request → Prop} {policy : RetryPolicy}
    {one : Dialogue (Except Fault (Entries Value))} (hone : one.Only P) (hsleep : ∀ x, P (.sleep x))
    (more number : Nat) : (attemptsFrom policy one more number).Only P := by
  -- Induction on the attempts that are left; which number an attempt has does not matter.
  induction more generalizing number with
  | zero => exact hone.bind fun _ => .done _
  | succ more ih =>
    refine hone.bind fun result => ?_
    split
    · exact .done _
    · split
      · refine (Dialogue.only_request (hsleep _)).bind fun waited => ?_
        split
        · exact ih (number + 1)
        · exact .done _
      · exact .done _

theorem Action.perform_only {n : Node} {a a' : Action} (hn : n.work = .action a)
    (ha : Engine.resolveConfig a c = .ok (.ok a')) (policy : RetryPolicy) :
    (a'.perform n.id c e.places e.origin policy).Only (e.AsksAt n c) := by
  unfold perform
  split
  · exact .done _
  · rename_i timeout htimeout
    exact attemptsFrom_only (attempt_only hn ha htimeout) (fun _ => trivial) _ _

namespace Visit

variable {P : Request → Prop} {v : Visit}

theorem record_only (hclock : P .clock) (o : Outcome) :
    Walk.Only P (v.record e o : Walk τ Unit) := by
  refine (Walk.only_unlessMisfit _).bind fun _ => (Walk.only_request hclock).bind fun finished => ?_
  split
  · exact Walk.only_throw _
  · exact Walk.only_modify _

theorem succeed_only (hclock : P .clock) (input output : Entries Value) (attempts : Int) :
    Walk.Only P (v.succeed e input output attempts : Walk τ Unit) :=
  ((Walk.only_unlessMisfit _).bind fun _ => Walk.only_modify _).bind fun _ => record_only hclock _

theorem fail_only (hclock : P .clock) (error errorKind : String) (input : Option (Entries Value))
    (attempts : Int) (fatal : Bool) :
    Walk.Only P (v.fail e error errorKind input attempts fatal : Walk τ Unit) := by
  have hrest : ∀ message : String, Walk.Only P
      (if v.node.abortOnFailure = true then throw (.failed message) else pure () : Walk τ Unit) := by
    intro message
    split
    · exact Walk.only_throw _
    · exact Walk.only_pure _
  refine (record_only hclock _).bind fun _ => ?_
  dsimp only
  split
  · exact (Walk.only_throw _).bind fun _ => hrest _
  · exact hrest _

end Visit

namespace Engine

variable {v : Visit} {P : Request → Prop}

theorem visitAction_only {a : Action} (hn : v.node.work = .action a) (s : RunState τ) :
    Dialogue.Only (e.AsksAt v.node { s.context with locals := v.locals })
      ((e.visitAction v a : Walk τ Unit).run s) := by
  unfold visitAction
  refine Walk.only_contextWith ?_
  split
  · exact Walk.only_throw _
  · exact Visit.fail_only trivial _ _ _ _ _
  · rename_i a' ha
    dsimp only
    split
    · exact Visit.fail_only trivial _ _ _ _ _
    · refine (Walk.only_lift (Action.perform_only hn ha e.retry)).bind fun performed => ?_
      obtain ⟨result, attempts⟩ := performed
      dsimp only
      split
      · exact Visit.succeed_only trivial _ _ _
      · exact Visit.fail_only trivial _ _ _ _ _
      · exact Visit.fail_only trivial _ _ _ _ _

theorem visitBranch_only (hclock : P .clock) (b : Branch) (s : RunState τ) :
    Dialogue.Only P ((e.visitBranch v b : Walk τ (List String)).run s) := by
  unfold visitBranch
  refine Walk.only_contextWith ?_
  dsimp only
  split
  · exact (Visit.succeed_only hclock _ _ _).bind fun _ => Walk.only_pure _
  · exact (Visit.fail_only hclock _ _ _ _ _).bind fun _ => Walk.only_pure _
  · exact (Visit.fail_only hclock _ _ _ _ _).bind fun _ => Walk.only_pure _
  · exact Walk.only_throw _
  · exact Walk.only_throw _

theorem visitLoop_only (hclock : P .clock) (l : Loop) (s : RunState τ) :
    Dialogue.Only P ((e.visitLoop v l : Walk τ (List (Entries Value))).run s) := by
  unfold visitLoop
  generalize Template.stripPlaceholder l.items = path
  refine Walk.only_contextWith ?_
  generalize Context.lookup { s.context with locals := v.locals } path = found
  split
  · exact Walk.only_throw _
  · exact (Visit.fail_only hclock _ _ _ _ _).bind fun _ => Walk.only_pure _
  · exact (Visit.succeed_only hclock _ _ _).bind fun _ => Walk.only_pure _
  · exact (Visit.fail_only hclock _ _ _ _ _).bind fun _ => Walk.only_pure _

theorem wait_only [ActiveTime τ] (hclock : P .clock) (hsleep : ∀ x, P (.sleep x)) (seconds : Float) :
    Walk.Only P (Walk.wait seconds : Walk τ Unit) := by
  refine (Walk.only_request hclock).bind fun start => ?_
  refine (Walk.only_request (hsleep _)).bind fun waited => ?_
  split
  · exact Walk.only_throw _
  · exact (Walk.only_request hclock).bind fun finish => Walk.only_modify _

theorem visitDelay_only [ActiveTime τ] (hclock : P .clock) (hsleep : ∀ x, P (.sleep x)) (d : Delay)
    (top : Bool) : Walk.Only P (e.visitDelay v d top : Walk τ Unit) := by
  unfold visitDelay
  dsimp only
  split
  · split
    · exact Walk.only_throw _
    · exact (Visit.succeed_only hclock _ _ _).bind fun _ => Walk.only_throw _
  · split
    · exact Visit.succeed_only hclock _ _ _
    · exact (wait_only hclock hsleep _).bind fun _ => Visit.succeed_only hclock _ _ _

/-- A visit asks what the action of its node may ask. -/
theorem visit_asksAt [ActiveTime τ] {n : Node} {locals : Entries Value} {top : Bool}
    {r : Except Halt (List (String × Entries Value))}
    (h : (e.visit n locals top).Course s t r s') :
    ∀ x ∈ t, e.AsksAt n { s.context with locals } x.request := by
  obtain ⟨started, t', rfl, hwork⟩ := Walk.course_clock_bind.mp h
  refine List.forall_mem_cons.mpr ⟨trivial, ?_⟩
  dsimp only at hwork
  split at hwork
  · rename_i hn
    obtain ⟨r₀, -, hw⟩ := Walk.course_bind_pure.mp hwork
    exact (visitAction_only hn s).mem hw
  · rw [bind_pure_comp] at hwork
    obtain ⟨r₀, -, hw⟩ := Walk.course_map.mp hwork
    exact (visitBranch_only trivial _ s).mem hw
  · rw [bind_pure_comp] at hwork
    obtain ⟨r₀, -, hw⟩ := Walk.course_map.mp hwork
    exact (visitLoop_only trivial _ s).mem hw
  · obtain ⟨r₀, -, hw⟩ := Walk.course_bind_pure.mp hwork
    exact (visitDelay_only trivial (fun _ => trivial) _ top s).mem hw

theorem visit_asks [ActiveTime τ] {n : Node} {locals : Entries Value} {top : Bool}
    {r : Except Halt (List (String × Entries Value))}
    (h : (e.visit n locals top).Course s t r s') :
    ∀ x ∈ t, e.Asks n.id { s.context with locals } x.request :=
  fun x hx => (visit_asksAt h x hx).asks

end Engine

end Asks

end Automation
