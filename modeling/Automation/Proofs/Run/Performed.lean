import Automation.Proofs.Action.Attempts
import Automation.Proofs.Run.Halting
import Automation.Proofs.Run.Lifetime

/-!
# Actions of runs

A pass of a run that visits an action fills in its configuration, does the action, and leaves a
result of what it comes to (`Engine.Does.resolved`). The attempts that have begun are counted in the
result, unless the last of them has ended in a defect: then the result says one.
-/

namespace Automation

variable {τ : Type} [ActiveTime τ] {e : Engine} {s s' : RunState τ} {t : List Exchange}

/-! ## Visits of actions -/

/-- A pass comes to a node of an action, and its configuration, filled in with what can be looked up
there, is that of an action. -/
def Pass.Resolves (p : Pass τ) (n : Node) (c : Context) (a : Action) : Prop :=
  ∃ id locals top a₀, p.errand = .go (some id) locals top ∧ p.before.workflow.node? id = some n ∧
    n.work = .action a₀ ∧ c = { p.before.context with locals } ∧
    Engine.resolveConfig a₀ c = .ok (.ok a)

omit [ActiveTime τ] in
/-- The result that a visit leaves is that of its outcome. -/
theorem Visit.EndsWith.recorded {v : Visit} {o : Outcome} {r : Except Halt Unit}
    {step : StepResult} (h : v.EndsWith e o s t r s')
    (hstep : s'.stepResults = s.stepResults ++ [step]) :
    ∃ (finished : Nat) (iteration : Option Int), t = [⟨.clock, finished⟩] ∧
      r = o.verdict v.node ∧ step = v.result e o iteration finished := by
  rcases h with ⟨x, -, -, _, _, rfl⟩ | ⟨finished, iteration, rfl, -, rfl, rfl⟩
  · exact absurd hstep (by simp)
  · exact ⟨finished, iteration, rfl, rfl, (List.singleton_inj.mp
      (List.append_cancel_left hstep)).symm⟩

namespace Engine

variable {p : Pass τ} {n : Node} {c : Context} {a : Action} {step : StepResult}

/-- How the visit of an action goes that can be filled in: there is nothing that carries it out, or
it is done, and what it comes to ends the visit. -/
inductive Visits (e : Engine) (n : Node) (c : Context) (a : Action) (v : Visit) (s : RunState τ) :
    List Exchange → Except Halt Unit → RunState τ → Prop where
  | missing {t : List Exchange} {r : Except Halt Unit} {s' : RunState τ}
      (hmissing : e.missing.contains a.kind.name = true)
      (hends : v.EndsWith e (.missing a) s t r s') : Visits e n c a v s t r s'
  | performed {t₁ t₂ : List Exchange} {r : Except Halt Unit} {s' : RunState τ}
      {result : Except Fault (Entries Value)} {attempts : Nat}
      (hmissing : e.missing.contains a.kind.name = false)
      (hperform : (a.perform n.id c e.places e.origin e.retry).Course t₁ (result, attempts))
      (hends : v.EndsWith e (.performed a result attempts) s t₂ r s') :
      Visits e n c a v s (t₁ ++ t₂) r s'

/-- A pass that comes to an action is stopped by the check before it, or it visits the action. -/
theorem Does.resolved (h : e.Does p) (ha : p.Resolves n c a) :
    (∃ halt, p.result = .error halt ∧ Boundary e p.before p.exchanges (.error halt) ∧
        p.after = p.before) ∨
      ∃ asked started locals top t r, p.exchanges = asked ++ ⟨.clock, started⟩ :: t ∧
        Boundary e p.before asked (.ok ()) ∧
        p.result = r.map (fun _ => errandsAfter n locals top []) ∧
        e.Visits n c a ⟨n, locals, started⟩ p.before.counted t r p.after := by
  obtain ⟨id, locals, top, a₀, herrand, hnode, hwork, rfl, hresolved⟩ := ha
  obtain ⟨errand, before, exchanges, result, after⟩ := p
  subst herrand
  change (e.step (.go (some id) locals top)).Course before exchanges result after at h
  change before.workflow.node? id = some n at hnode
  dsimp only at hresolved ⊢
  have hvisit {t₂ r₀} (hv : (e.visit n locals top).Course before.counted t₂ r₀ after) :
      ∃ (started : Nat) (t : _) (r : _), t₂ = ⟨.clock, started⟩ :: t ∧
        r₀ = Except.map (fun _ => []) r ∧
        e.Visits n { before.context with locals } a ⟨n, locals, started⟩ before.counted t r
          after := by
    obtain ⟨started, t', rfl, hdone⟩ := Walk.course_clock_bind.mp hv
    dsimp only at hdone
    rw [hwork] at hdone
    obtain ⟨r, rfl, haction⟩ := Walk.course_bind_pure.mp hdone
    refine ⟨started, t', r, rfl, rfl, ?_⟩
    have hsame {x} (hx : resolveConfig a₀ { before.context with locals } = x) :
        x = .ok (.ok a) := hx.symm.trans hresolved
    obtain ⟨fault, hfault, -⟩ | ⟨issues, hissues, -⟩ | ⟨a', ha', ⟨hmissing, hends⟩ |
      ⟨hmissing, result, attempts, t₁, t₂, rfl, hperform, hends⟩⟩ := visitAction_cases haction
    · cases hsame hfault
    · cases hsame hissues
    · cases hsame ha'
      exact .missing hmissing hends
    · cases hsame ha'
      exact .performed hmissing hperform hends
  cases step_cases h with
  | missing locals top hn =>
    rw [hnode] at hn
    cases hn
  | stopped locals top hn hb => exact .inl ⟨_, rfl, hb, rfl⟩
  | @halted _ n' _ _ t₁ t₂ halt _ hn hb hv =>
    obtain rfl : n' = n := Option.some.inj (hn.symm.trans hnode)
    obtain ⟨started, t, r, rfl, hr, hvisits⟩ := hvisit hv
    refine .inr ⟨t₁, started, locals, top, t, r, rfl, hb, ?_, hvisits⟩
    cases r <;> cases hr
    rfl
  | @visited _ n' _ _ t₁ t₂ inner _ hn hb hv =>
    obtain rfl : n' = n := Option.some.inj (hn.symm.trans hnode)
    obtain ⟨started, t, r, rfl, hr, hvisits⟩ := hvisit hv
    refine .inr ⟨t₁, started, locals, top, t, r, rfl, hb, ?_, hvisits⟩
    cases r <;> cases hr
    rfl

/-- A pass that does an action and leaves a result. -/
theorem Does.performed (h : e.Does p) (ha : p.Resolves n c a)
    (hmissing : e.missing.contains a.kind.name = false) (hstep : p.Records step) :
    ∃ asked started locals t result finished iteration,
      p.exchanges = asked ++ ⟨.clock, started⟩ :: (t ++ [⟨.clock, finished⟩]) ∧
      Boundary e p.before asked (.ok ()) ∧
      (a.perform n.id c e.places e.origin e.retry).Course t (result, Exchange.readings t) ∧
      step = Visit.result e ⟨n, locals, started⟩ (.performed a result (Exchange.readings t))
        iteration finished := by
  obtain ⟨_, _, _, _, _, _, _, _, hadded⟩ := hstep
  rcases h.resolved ha with ⟨halt, -, -, hafter⟩ |
    ⟨asked, started, locals, top, t, r, hexchanges, hb, -, hvisits⟩
  · rw [hafter] at hadded
    simp at hadded
  · cases hvisits with
    | missing hcontains hends =>
      rw [hmissing] at hcontains
      cases hcontains
    | performed _ hperform hends =>
      obtain ⟨finished, iteration, rfl, -, hresult⟩ := hends.recorded hadded
      obtain rfl := Action.perform_readings hperform
      exact ⟨asked, started, locals, _, _, finished, iteration, hexchanges, hb, hperform, hresult⟩

/-! ## Attempts that are counted -/

/-- In every run of a definition without problems, in all of its segments, the result of a visit that
did an action counts the attempts that were begun, which are the readings of the clock while it was
done, if the action came to a result or to a classified failure. If it came to a defect, the result
says one. -/
theorem attempts_recorded [ActiveTime.Storable τ] {σ : Type} [Schema.Source σ] {x y : σ}
    {d : Definition} {event : Event} {runId : String} (hd : Definition.codec.read x = .ok d)
    (hvalid : d.Valid) (hevent : Event.codec.read y = .ok event) :
    (∀ t results, e.OnCalendar t → e.Stored (e.run d event runId) t results →
      ∃ story : List (Segment τ), e.Story d event runId story ∧
        List.Forall₂ Segment.Tells story results ∧ Exchange.deeds t = Segment.deeds story) ∧
    ∀ story : List (Segment τ), e.Story d event runId story → ∀ g ∈ story, ∀ p ∈ g.log,
      ∀ n c a step, p.Resolves n c a → e.missing.contains a.kind.name = false → p.Records step →
        ∃ asked started t result finished,
          p.exchanges = asked ++ ⟨.clock, started⟩ :: (t ++ [⟨.clock, finished⟩]) ∧
          Boundary e p.before asked (.ok ()) ∧
          (a.perform n.id c e.places e.origin e.retry).Course t (result, Exchange.readings t) ∧
          ((∀ defect, result ≠ .error (.defect defect)) → step.attempts = Exchange.readings t) ∧
          ∀ defect, result = .error (.defect defect) → step.attempts = 1 := by
  have hwell := Definition.codec_ensures.of_read x d hd
  have hstorable := Event.codec_ensures.of_read y event hevent
  refine ⟨fun t results ht h => stored_story hwell hvalid hstorable ht h, ?_⟩
  intro story hstory g hg p hp n c a step ha hmissing hstep
  obtain ⟨hg, -, -⟩ := hstory.endsLast hwell hstorable g hg
  obtain ⟨asked, started, locals, t, result, finished, iteration, hexchanges, hb, hperform, rfl⟩ :=
    (hg.passes.mem hp).1.performed ha hmissing hstep
  refine ⟨asked, started, t, result, finished, hexchanges, hb, hperform, fun hclassified => ?_, ?_⟩
  · match result with
    | .ok output | .error (.failure f) => rfl
    | .error (.defect defect) => exact absurd rfl (hclassified defect)
  · rintro defect rfl
    rfl

end Engine

/-! ## A note that falters -/

/-- A definition of one note. -/
def Definition.note : Definition where
  name := "Note"
  trigger := { kind := .manual }
  actions :=
    [{ id := "note", work := .action (.addNote { targetId := "lead-1", text := "hello" }) }]

theorem Definition.note_wellFormed : Definition.note.WellFormed where
  name_ne := by decide
  name_le := by decide
  trigger := by rintro _ ⟨⟩
  nodes := List.forall_mem_singleton.mpr ⟨by decide, trivial⟩

/-- A world in which the first call fails transiently, and the next ones break. -/
def World.faltering : World
  | _, .clock => (0 : Nat)
  | _, .aborted _ => false
  | _, .sleep _ => .ok ()
  | past, .call _ _ => some <| .fault <|
    if past.all (·.call? = none) then .transient "crm" "busy" else .defect (.broken "boom")

namespace Engine

/-- Where no call is answered, the note counts the attempts that have timed out. -/
theorem note_attempts_recorded :
    let d := Definition.note
    let event := Event.manual
    Definition.codec.read (Definition.codec.write .wire d) = .ok d ∧ d.Valid ∧
      Event.codec.read (Event.codec.write .wire event) = .ok event ∧
      ∃ (g : Segment Float) (p : Pass Float) (n : Node) (c : Context) (a : Action)
        (step : StepResult), alone.Story d event "run-1" [g] ∧ p ∈ g.log ∧ p.Resolves n c a ∧
        p.Records step ∧ step.attempts = 3 ∧ ∃ t result,
          (a.perform n.id c alone.places alone.origin alone.retry).Course t
            (result, Exchange.readings t) ∧
          ((∀ defect, result ≠ .error (.defect defect)) → step.attempts = Exchange.readings t) := by
  intro d event
  have hread : Definition.codec.read (Definition.codec.write .wire d) = .ok d :=
    (Definition.codec_restores Definition.note_wellFormed).read
  have hvalid : d.Valid := by decide +kernel
  have hevent : Event.codec.read (Event.codec.write .wire event) = .ok event :=
    (Event.codec_restores (by rintro _ ⟨⟩)).read
  refine ⟨hread, hvalid, hevent, ?_⟩
  have hplayed : (alone.play Dialogue.still 2 [.go (some "note") [] true]
      (alone.opening d event "run-1" 0 : RunState Float)).map
      (fun (log, _) => log.map fun p => p.after.stepResults.map fun step =>
        (step.nodeId, step.nodeKind, step.attempts))
      = some [[("note", "add_note", 3)], [("note", "add_note", 3)]] := by
    decide +kernel
  obtain ⟨⟨log, r, s'⟩, hplay, heq⟩ := Option.map_eq_some_iff.mp hplayed
  have hclock : Dialogue.still .clock = (0 : Nat) := rfl
  have hentry : d.entry? = some _ := rfl
  have hstory := Story.of_play hentry hclock (by decide) hplay
  obtain ⟨p, log', rfl, herrand, hbefore, -, -⟩ := (play_passes hplay).1.cons_cases
  obtain ⟨step, hstep, hfields⟩ := List.map_eq_singleton_iff.mp (List.cons.inj heq).1
  obtain ⟨hid, hfields⟩ := Prod.mk.inj hfields
  obtain ⟨hkind, hattempts⟩ := Prod.mk.inj hfields
  have hrecords : p.Records step := by
    refine ⟨"note", [], true, d.actions[0], herrand, ?_, hid, hkind, ?_⟩
    · rw [hbefore]
      rfl
    · rw [hstep, hbefore]
      rfl
  have hresolves : p.Resolves d.actions[0] p.before.context
      (.addNote { targetId := "lead-1", text := "hello" }) := by
    refine ⟨"note", [], true, _, herrand, ?_, rfl, ?_, ?_⟩ <;> rw [hbefore] <;> rfl
  obtain ⟨-, hstories⟩ := attempts_recorded (e := alone) (τ := Float) hread hvalid hevent
  obtain ⟨asked, started, t, result, finished, -, -, hperform, hcounts, -⟩ :=
    hstories _ hstory _ List.mem_cons_self p List.mem_cons_self _ _ _ step hresolves rfl hrecords
  exact ⟨_, p, _, _, _, step, hstory, List.mem_cons_self, hresolves, hrecords, hattempts, t, result,
    hperform, hcounts⟩

/-- An attempt that fails transiently is lost from the count if the next one breaks. -/
theorem note_attempts_lost :
    let d := Definition.note
    let event := Event.manual
    Definition.codec.read (Definition.codec.write .wire d) = .ok d ∧ d.Valid ∧
      Event.codec.read (Event.codec.write .wire event) = .ok event ∧
      ∃ (t : List Exchange) (told : RunResult Float), alone.OnCalendar t ∧
        alone.Stored (alone.run d event "run-1") t [.ok told] ∧
        (t.filterMap Exchange.call?).length = 2 ∧
        told.stepResults.map (fun step => (step.nodeId, step.attempts)) = [("note", 1)] := by
  intro d event
  have hread : Definition.codec.read (Definition.codec.write .wire d) = .ok d :=
    (Definition.codec_restores Definition.note_wellFormed).read
  have hevent : Event.codec.read (Event.codec.write .wire event) = .ok event :=
    (Event.codec_restores (by rintro _ ⟨⟩)).read
  refine ⟨hread, by decide +kernel, hevent, ?_⟩
  let dialogue : Dialogue (Except Escape (RunResult Float)) := alone.run d event "run-1"
  have hseen : ((dialogue.lived World.faltering []).1.filterMap Exchange.call?).length = 2 ∧
      (dialogue.lived World.faltering []).2.toOption.map
        (fun told => told.stepResults.map fun step => (step.nodeId, step.attempts))
        = some [("note", 1)] := by
    decide +kernel
  obtain ⟨hcalls, htold⟩ := hseen
  obtain ⟨told, htold, hsteps⟩ := Option.map_eq_some_iff.mp htold
  have hcourse := Dialogue.lived_course World.faltering [] dialogue
  rw [Except.toOption_eq_some.mp htold] at hcourse
  have hcalendar : alone.OnCalendar (dialogue.lived World.faltering []).1 :=
    .of_answers (0 : Nat) (fun _ => rfl) (by decide)
      (Dialogue.lived_answers World.faltering [] dialogue)
  exact ⟨_, told, hcalendar, .last hcourse, hcalls, hsteps⟩

end Engine

end Automation
