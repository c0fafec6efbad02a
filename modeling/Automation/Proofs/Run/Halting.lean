import Automation.Proofs.Run.Record

/-!
# Failed steps

A failed step ends the run if it is fatal, or if its node aborts on failure: it is the last step, and
the run fails with its error. After any other failed step the run goes on as if the step had
succeeded, but for the branch or the body that it could not choose.
-/

namespace Automation

variable {τ : Type} [ActiveTime τ] {e : Engine} {s s' : RunState τ} {t : List Exchange}
  {d : Definition}

/-! ## Steps that end a run -/

/-- A failed step of a run of a definition that ends it. -/
def StepResult.Ends (d : Definition) (step : StepResult) : Prop :=
  step.status = .failed ∧
    (step.errorKind = some "fatal" ∨ ∃ n ∈ d.node? step.nodeId, n.abortOnFailure = true)

/-- The error of a run that a step ends. -/
def StepResult.endError (step : StepResult) : String :=
  let error := step.error.getD ""
  if step.errorKind = some "fatal" then error
  else s!"Action '{step.nodeId}' failed and is marked abort on failure: {error}"

/-- The walks inside a node that has failed: a condition counts as false. -/
def Work.innerAfterFailure (w : Work) (locals : Entries Value) : List (String × Entries Value) :=
  match w with
  | .condition b => b.falseActions.map fun target => (target, locals)
  | .action _ | .loop _ | .delay _ => []

section Verdict

variable {v : Visit} {o : Outcome} {iteration : Option Int} {finished : Nat}

omit [ActiveTime τ] in
theorem Outcome.verdict_ends (hnode : d.node? v.node.id = some v.node)
    (h : (v.result e o iteration finished).Ends d) :
    o.verdict v.node = .error (.failed (v.result e o iteration finished).endError) := by
  obtain ⟨hstatus, hends⟩ := h
  change o.status = .failed at hstatus
  change o.errorKind = some "fatal" ∨ ∃ n ∈ d.node? v.node.id, n.abortOnFailure = true at hends
  change _ = Except.error (Halt.failed (if o.errorKind = some "fatal" then o.error.getD "" else _))
  unfold Outcome.verdict
  rw [hstatus]
  by_cases hfatal : o.errorKind = some "fatal"
  · simp only [hfatal, if_true]
  · obtain ⟨n, hn, habort⟩ := hends.resolve_left hfatal
    rw [hnode] at hn
    obtain rfl := Option.some.inj hn
    simp only [hfatal, if_false, habort, if_true]
    rfl

theorem Outcome.verdict_ok (hnode : d.node? v.node.id = some v.node)
    (h : ¬(v.result e o iteration finished).Ends d) : o.verdict v.node = .ok () := by
  change ¬(o.status = .failed ∧
    (o.errorKind = some "fatal" ∨ ∃ n ∈ d.node? v.node.id, n.abortOnFailure = true)) at h
  rw [hnode] at h
  unfold Outcome.verdict
  cases hstatus : o.status with
  | success => rfl
  | failed => simp_all

end Verdict

/-! ## After a step -/

namespace Engine

/-- After a failure that the run goes on after, the walks inside the node are those that do not need
what has failed. -/
theorem proceed_failed {n : Node} {c : Context} {top : Bool} {started : Nat}
    (h : Fits n c .failed) :
    e.proceed n c top started = .ok (n.work.innerAfterFailure c.locals) := by
  unfold Fits at h
  unfold proceed Work.innerAfterFailure
  split at h <;> rename_i hwork <;> rw [hwork]
  · rename_i b
    change Except.ok ((b.side c).map _) = Except.ok (b.falseActions.map _)
    rw [Branch.side_of_failed h.symm]
  · rename_i l
    dsimp only
    rw [Loop.elements_of_failed h.symm]
    rfl
  · cases h

/-- How a run goes on after a visit with a result. -/
theorem Does.goes_on {p : Pass τ} {step : StepResult} (h : e.Does p) (hw : p.before.workflow = d)
    (hstep : p.Records step) :
    ∃ id locals top n, p.errand = .go (some id) locals top ∧ d.node? id = some n ∧
      step.nodeId = id ∧ (step.Ends d → p.result = .error (.failed step.endError)) ∧
      (¬step.Ends d →
        (step.status = .failed →
          p.result = .ok (errandsAfter n locals top (n.work.innerAfterFailure locals))) ∧
        ∀ a, n.work = .action a → p.result = .ok (errandsAfter n locals top [])) := by
  obtain ⟨id, locals, top, n, herrand, hn, hid, -, hadded⟩ := hstep
  obtain ⟨errand, before, exchanges, result, after⟩ := p
  subst herrand
  change (e.step (.go (some id) locals top)).Course before exchanges result after at h
  change before.workflow.node? id = some n at hn
  change after.stepResults = before.stepResults ++ [step] at hadded
  change before.workflow = d at hw
  subst hw
  refine ⟨id, locals, top, n, rfl, hn, hid, ?_⟩
  dsimp only
  have hmissing : before.stepResults ≠ before.stepResults ++ [step] := by simp
  -- What has left a result was a visit, and its result says how the run goes on.
  obtain ⟨t₂, r₀, rfl, hv⟩ : ∃ t₂ r₀, result = r₀.map (errandsAfter n locals top) ∧
      (e.visit n locals top).Course before.counted t₂ r₀ after := by
    cases step_cases h with
    | missing | stopped => exact absurd hadded hmissing
    | @halted _ n' _ _ _ t₂ halt _ hn' hb hv =>
      obtain rfl : n' = n := Option.some.inj (hn'.symm.trans hn)
      exact ⟨t₂, .error halt, rfl, hv⟩
    | @visited _ n' _ _ _ t₂ inner _ hn' hb hv =>
      obtain rfl : n' = n := Option.some.inj (hn'.symm.trans hn)
      exact ⟨t₂, .ok inner, rfl, hv⟩
  obtain ⟨started, t', rfl, ⟨x, hx, rfl, _, _, rfl⟩ |
    ⟨o, ⟨_, iteration, finished, _, rfl, _, rfl⟩, hfits, rfl, _⟩⟩ := visit_cases hv
  · exact absurd hadded hmissing
  · obtain rfl := List.singleton_inj.mp (List.append_cancel_left hadded)
    have hnode : before.workflow.node? n.id = some n := by
      rw [(Definition.node?_some hn).2]
      exact hn
    refine ⟨fun hends => ?_, fun hends => ⟨fun hstatus => ?_, fun a ha => ?_⟩⟩
    · rw [Outcome.verdict_ends (v := ⟨n, locals, started⟩) hnode hends]
      rfl
    · rw [Outcome.verdict_ok (v := ⟨n, locals, started⟩) hnode hends]
      change Except.map _ (e.proceed n _ top started) = _
      rw [proceed_failed (hstatus ▸ hfits)]
      rfl
    · rw [Outcome.verdict_ok (v := ⟨n, locals, started⟩) hnode hends]
      change Except.map _ (e.proceed n _ top started) = _
      unfold proceed
      rw [ha]
      rfl

/-- Before each pass its errand is the first of those that are to be done. -/
theorem Passes.from_pass {errands : List Errand} {pre post : List (Pass τ)} {p : Pass τ}
    {r : Except Halt Unit} (h : e.Passes errands s (pre ++ p :: post) r s') :
    ∃ rest, e.Passes (p.errand :: rest) p.before (p :: post) r s' ∧
      ∀ more, p.result = .ok more → e.Passes (more ++ rest) p.after post r s' := by
  generalize hlog : pre ++ p :: post = log at h
  induction h generalizing pre with
  | done s => simp at hlog
  | @halted q halt rest hq hr =>
    obtain ⟨rfl, rfl, rfl⟩ : pre = [] ∧ p = q ∧ post = [] := by
      cases pre with
      | nil => exact ⟨rfl, (List.cons.inj hlog).1, (List.cons.inj hlog).2⟩
      | cons q' pre => simp at hlog
    refine ⟨rest, .halted rest hq hr, fun more hmore => ?_⟩
    rw [hr] at hmore
    cases hmore
  | @passed q more rest log r s' hq hr h ih =>
    cases pre with
    | nil =>
      obtain ⟨rfl, rfl⟩ := List.cons.inj hlog
      refine ⟨rest, .passed hq hr h, fun more' hmore => ?_⟩
      rw [hr] at hmore
      obtain rfl := Except.ok.inj hmore
      exact h
    | cons q' pre => exact ih (List.cons.inj hlog).2

/-! ## The last step -/

/-- No result is that of a step that ends the run, or only the last one is and the run ends with its
error. -/
def EndsLast (d : Definition) (steps : List StepResult) (r : Except Halt Unit) : Prop :=
  (∀ step ∈ steps, ¬step.Ends d) ∨
    ∃ before step, steps = before ++ [step] ∧ (∀ x ∈ before, ¬x.Ends d) ∧
      r = .error (.failed step.endError)

theorem Does.endsLast {p : Pass τ} (h : e.Does p) (hw : p.before.workflow = d)
    (hs : ∀ step ∈ p.before.stepResults, ¬step.Ends d) :
    (∀ step ∈ p.after.stepResults, ¬step.Ends d) ∨
      ∃ step, p.after.stepResults = p.before.stepResults ++ [step] ∧
        p.result = .error (.failed step.endError) := by
  have hsame (hkept : p.after.stepResults = p.before.stepResults) :
      ∀ step ∈ p.after.stepResults, ¬step.Ends d := by
    rw [hkept]
    exact hs
  rcases h.records_cases with ⟨-, ⟨step, hstep⟩, -⟩ | ⟨-, hkept, -⟩ | ⟨-, hkept, -⟩
  · obtain ⟨id, locals, top, n, -, -, -, hends, -⟩ := h.goes_on hw hstep
    obtain ⟨_, _, _, _, _, _, _, _, hadded⟩ := hstep
    by_cases hstepEnds : step.Ends d
    · exact .inr ⟨step, hadded, hends hstepEnds⟩
    · refine .inl fun x hx => ?_
      rw [hadded] at hx
      rcases List.mem_append.mp hx with hx | hx
      · exact hs x hx
      · obtain rfl := List.mem_singleton.mp hx
        exact hstepEnds
  · exact .inl (hsame hkept)
  · exact .inl (hsame hkept)

/-- The induction is on the passes: one that goes on leaves no step that ends the run. -/
theorem Passes.endsLast {errands : List Errand} {log : List (Pass τ)} {r : Except Halt Unit}
    (h : e.Passes errands s log r s') (hw : s.workflow = d)
    (hs : ∀ step ∈ s.stepResults, ¬step.Ends d) : EndsLast d s'.stepResults r := by
  induction h with
  | done s => exact .inl hs
  | @halted p halt rest hp hr =>
    rcases hp.endsLast hw hs with hnone | ⟨step, hadded, hends⟩
    · exact .inl hnone
    · rw [hr] at hends
      exact .inr ⟨_, step, hadded, hs, congrArg Except.error (Except.error.inj hends)⟩
  | @passed p more rest log r s' hp hr h ih =>
    rcases hp.endsLast hw hs with hnone | ⟨step, -, hends⟩
    · exact ih ((step_continues hp).workflow.trans hw) hnone
    · rw [hr] at hends
      cases hends

omit [ActiveTime τ] in
/-- What is told where only the last step can end the run. -/
theorem EndsLast.told {steps before after : List StepResult} {step : StepResult}
    {r : Except Halt Unit} (h : EndsLast d steps r) (hsteps : steps = before ++ step :: after)
    (hends : step.Ends d) : after = [] ∧ r = .error (.failed step.endError) := by
  subst hsteps
  rcases h with hnone | ⟨before', last, heq, hnone, hr⟩
  · exact absurd hends (hnone step (by simp))
  · rcases List.eq_nil_or_concat after with rfl | ⟨after', last', rfl⟩
    · obtain ⟨rfl, hlast⟩ := List.append_inj' heq rfl
      obtain rfl := List.singleton_inj.mp hlast
      exact ⟨rfl, hr⟩
    · rw [List.concat_eq_append, ← List.cons_append, ← List.append_assoc] at heq
      obtain ⟨rfl, -⟩ := List.append_inj' heq rfl
      exact absurd hends (hnone step (by simp))

theorem Story.endsLast [ActiveTime.Storable τ] {event : Event} {runId : String}
    {story : List (Segment τ)} (hwell : d.WellFormed) (hevent : event.Storable)
    (h : e.Story d event runId story) :
    ∀ g ∈ story, e.DoesSegment g ∧ g.before.workflow = d ∧
      EndsLast d g.after.stepResults g.result := by
  obtain ⟨entry, reading, -, hreading, hchain⟩ := h
  refine hchain.all
    (J := fun s _ => s.workflow = d ∧ ∀ step ∈ s.stepResults, ¬step.Ends d)
    (Q := fun g => e.DoesSegment g ∧ g.before.workflow = d ∧
      EndsLast d g.after.stepResults g.result)
    (fun g hg _ hj => ?_) (opening_settled hwell hevent hreading)
    ⟨rfl, fun _ h => absurd h List.not_mem_nil⟩
  have hends := hg.passes.endsLast hj.1 hj.2
  refine ⟨⟨hg, hj.1, hends⟩, fun next resumeAt hr suspended woken => ⟨?_, ?_⟩⟩
  · exact hg.passes.continues.workflow.trans hj.1
  · rcases hends with hnone | ⟨_, _, _, _, hfailed⟩
    · exact hnone
    · rw [hr] at hfailed
      cases hfailed

/-! ## Runs -/

/-- A failed step that is fatal or of a node that aborts on failure is the last step of its run, and
the run fails with its error; a run that succeeds has none. After any other failed step the run goes
on, at whatever depth: with the false side of a condition, with no walk inside an action or a loop,
and then from the next node. After an action this is where it goes on after a success. -/
theorem failures_end_or_pass [ActiveTime.Storable τ] {σ : Type} [Schema.Source σ] {x y : σ}
    {event : Event} {runId : String} (hd : Definition.codec.read x = .ok d) (hvalid : d.Valid)
    (hevent : Event.codec.read y = .ok event) :
    (∀ t (results : List (Except Escape (RunResult τ))), e.OnCalendar t →
      e.Stored (e.run d event runId) t results →
      (∃ story : List (Segment τ), e.Story d event runId story ∧
        List.Forall₂ Segment.Tells story results ∧ Exchange.deeds t = Segment.deeds story) ∧
      ∀ result ∈ results, ∃ told, result = .ok told ∧
        (∀ before step after, told.stepResults = before ++ step :: after → step.Ends d →
          after = [] ∧ told.status = .failed ∧ told.error = some step.endError) ∧
        (told.status = .success → ∀ step ∈ told.stepResults, ¬step.Ends d)) ∧
    ∀ story : List (Segment τ), e.Story d event runId story →
      ∀ g ∈ story, ∀ pre p post step, g.log = pre ++ p :: post → p.Records step → ¬step.Ends d →
        ∃ id locals top n rest, p.errand = .go (some id) locals top ∧ d.node? id = some n ∧
          step.nodeId = id ∧ e.Passes (p.errand :: rest) p.before (p :: post) g.result g.after ∧
          (step.status = .failed →
            e.Passes (errandsAfter n locals top (n.work.innerAfterFailure locals) ++ rest) p.after
              post g.result g.after) ∧
          ∀ a, n.work = .action a →
            e.Passes (errandsAfter n locals top [] ++ rest) p.after post g.result g.after := by
  have hwell := Definition.codec_ensures.of_read x d hd
  have hstorable := Event.codec_ensures.of_read y event hevent
  refine ⟨fun t results ht h => ?_, fun story hstory g hg pre p post step hlog hstep hends => ?_⟩
  · obtain ⟨story, hstory, htold, hdeeds⟩ := stored_story hwell hvalid hstorable ht h
    refine ⟨⟨story, hstory, htold, hdeeds⟩, fun result hresult => ?_⟩
    obtain ⟨g, hg, told, rfl, hsteps, hverdict⟩ : ∃ g ∈ story, g.Tells result := by
      obtain ⟨i, hi, rfl⟩ := List.getElem_of_mem hresult
      have hlength := htold.length_eq
      exact ⟨story[i], List.getElem_mem _, htold.get (by omega) hi⟩
    have hlast := (hstory.endsLast hwell hstorable g hg).2.2
    rw [← hsteps] at hlast
    have htells : ∀ before step after, told.stepResults = before ++ step :: after → step.Ends d →
        after = [] ∧ told.status = .failed ∧ told.error = some step.endError := by
      intro before step after hsplit hends
      obtain ⟨hafter, hr⟩ := hlast.told hsplit hends
      unfold Segment.verdict at hverdict
      rw [hr] at hverdict
      obtain ⟨hstatus, herror⟩ := Prod.mk.inj hverdict
      exact ⟨hafter, hstatus, herror⟩
    refine ⟨told, rfl, htells, fun hsuccess step hstep hends => ?_⟩
    obtain ⟨before, after, hsplit⟩ := List.append_of_mem hstep
    have hstatus := (htells before step after hsplit hends).2.1
    rw [hsuccess] at hstatus
    cases hstatus
  · obtain ⟨hdoes, hw, -⟩ := hstory.endsLast hwell hstorable g hg
    have hpasses := hdoes.passes
    have hp : p ∈ g.log := by simp [hlog]
    obtain ⟨hpdoes, _, _, _, _, _, _, hbefore⟩ := hpasses.mem hp
    have hworkflow : p.before.workflow = d := by
      rw [hbefore]
      exact hw
    rw [hlog] at hpasses
    obtain ⟨rest, hfrom, hmore⟩ := hpasses.from_pass
    obtain ⟨id, locals, top, n, herrand, hn, hid, -, hpass⟩ :=
      hpdoes.goes_on hworkflow hstep
    obtain ⟨hfailed, haction⟩ := hpass hends
    exact ⟨id, locals, top, n, rest, herrand, hn, hid, hfrom,
      fun hstatus => hmore _ (hfailed hstatus), fun a ha => hmore _ (haction a ha)⟩

end Engine

/-! ## A loop over what is not there -/

/-- A definition of a loop over items that no one has, and a pause after it. The loop may abort the
run on failure. -/
def Definition.search (strict : Bool) : Definition where
  name := "Search"
  trigger := { kind := .manual }
  actions :=
    [{ id := "each", nextAction := some "wait", abortOnFailure := strict,
       work := .loop { items := "nobody", actionId := "wait" } },
     { id := "wait", work := .delay { duration := 0, unit := .minutes } }]

theorem Definition.search_wellFormed (strict : Bool) : (Definition.search strict).WellFormed where
  name_ne := show 1 ≤ "Search".length by decide
  name_le := show "Search".length ≤ 255 by decide
  trigger := by rintro _ ⟨⟩
  nodes := by
    have hpause : (Work.delay { duration := 0, unit := .minutes }).WellFormed := by
      change (!((0 : Float) < 0)) = true
      decide
    exact List.forall_mem_cons.mpr ⟨⟨show 1 ≤ "each".length by decide, trivial⟩,
      List.forall_mem_singleton.mpr ⟨show 1 ≤ "wait".length by decide, hpause⟩⟩

namespace Engine

/-- What a run of the search comes to where no time passes, and the steps that it leaves. -/
theorem search_told (strict : Bool) (steps : List (String × StepStatus))
    (h : ((alone.run (Definition.search strict) .manual "run-1" :
        Dialogue (Except Escape (RunResult Float))).answered Dialogue.still).2.toOption.map
      (fun told => told.stepResults.map fun step => (step.nodeId, step.status)) = some steps) :
    ∃ (t : List Exchange) (told : RunResult Float), alone.OnCalendar t ∧
      alone.Stored (alone.run (Definition.search strict) .manual "run-1") t [.ok told] ∧
      told.stepResults.map (fun step => (step.nodeId, step.status)) = steps := by
  let dialogue : Dialogue (Except Escape (RunResult Float)) :=
    alone.run (Definition.search strict) .manual "run-1"
  obtain ⟨told, htold, hsteps⟩ := Option.map_eq_some_iff.mp h
  have hcourse := Dialogue.course_answered Dialogue.still dialogue
  rw [Except.toOption_eq_some.mp htold] at hcourse
  have hcalendar := OnCalendar.of_world (e := alone)
    (show Dialogue.still .clock = (0 : Nat) from rfl) (by decide)
    fun x hx => Dialogue.answered_mem (d := dialogue) hx
  exact ⟨_, told, hcalendar, .last hcourse, hsteps⟩

/-- If the loop aborts the run, its step is the last one and the run fails with its error. If it does
not, the pause comes next. -/
theorem search_end_or_pass :
    (∀ strict, Definition.codec.read (Definition.codec.write .wire (Definition.search strict))
        = .ok (Definition.search strict) ∧ (Definition.search strict).Valid) ∧
      Event.codec.read (Event.codec.write .wire .manual) = .ok .manual ∧
      (∃ (t : List Exchange) (told : RunResult Float) (step : StepResult), alone.OnCalendar t ∧
        alone.Stored (alone.run (Definition.search true) .manual "run-1") t [.ok told] ∧
        told.stepResults = [step] ∧ told.status = .failed ∧ told.error = some step.endError) ∧
      ∃ (t : List Exchange) (told : RunResult Float), alone.OnCalendar t ∧
        alone.Stored (alone.run (Definition.search false) .manual "run-1") t [.ok told] ∧
        told.stepResults.map (fun step => (step.nodeId, step.status))
          = [("each", .failed), ("wait", .success)] ∧
        (told.status = .success → ∀ step ∈ told.stepResults, ¬step.Ends (Definition.search false)) := by
  have hread (strict : Bool) : Definition.codec.read (Definition.codec.write .wire
      (Definition.search strict)) = .ok (Definition.search strict) :=
    (Definition.codec_restores (Definition.search_wellFormed strict)).read
  have hvalid (strict : Bool) : (Definition.search strict).Valid := by
    cases strict <;> decide +kernel
  have hevent : Event.codec.read (Event.codec.write .wire .manual) = .ok .manual :=
    (Event.codec_restores (by rintro _ ⟨⟩)).read
  refine ⟨fun strict => ⟨hread strict, hvalid strict⟩, hevent, ?_, ?_⟩
  · obtain ⟨t, told, ht, hstored, hsteps⟩ :=
      search_told true [("each", .failed)] (by decide +kernel)
    obtain ⟨step, hstep, heach⟩ := List.map_eq_singleton_iff.mp hsteps
    obtain ⟨hid, hfailed⟩ := Prod.mk.inj heach
    have hends : step.Ends (Definition.search true) := by
      refine ⟨hfailed, .inr ?_⟩
      rw [hid]
      exact ⟨_, rfl, rfl⟩
    obtain ⟨-, hresults⟩ :=
      (failures_end_or_pass (e := alone) (hread true) (hvalid true) hevent).1 t _ ht hstored
    obtain ⟨_, htold, hlast, -⟩ := hresults _ (List.mem_singleton_self _)
    cases htold
    obtain ⟨-, hstatus, herror⟩ := hlast [] step [] hstep hends
    exact ⟨t, told, step, ht, hstored, hstep, hstatus, herror⟩
  · obtain ⟨t, told, ht, hstored, hsteps⟩ :=
      search_told false [("each", .failed), ("wait", .success)] (by decide +kernel)
    obtain ⟨-, hresults⟩ :=
      (failures_end_or_pass (e := alone) (hread false) (hvalid false) hevent).1 t _ ht hstored
    obtain ⟨_, htold, -, hnone⟩ := hresults _ (List.mem_singleton_self _)
    cases htold
    exact ⟨t, told, ht, hstored, hsteps, hnone⟩

end Engine

end Automation
