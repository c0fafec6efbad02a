import Automation.Proofs.Run.Budget
import Automation.Proofs.Run.Key
import Mathlib.Data.List.Forall2

/-!
# Results of visits

Each visit of a node leaves one result, in the order of the visits, through all segments of a run.
The one exception is a visit that ends in a surprise: it leaves none, and the run ends with it.
-/

namespace Automation

variable {τ : Type} [ActiveTime τ] {e : Engine} {s s' : RunState τ} {t : List Exchange}

/-! ## One visit -/

/-- A pass visits a node, and leaves a result of this node. -/
def Pass.Records (p : Pass τ) (step : StepResult) : Prop :=
  ∃ id locals top n, p.errand = .go (some id) locals top ∧ p.before.workflow.node? id = some n ∧
    step.nodeId = id ∧ step.nodeKind = n.work.kindName ∧
    p.after.stepResults = p.before.stepResults ++ [step]

namespace Engine

/-- A visit leaves a result or ends in a surprise. A pass that visits no node does neither. -/
theorem Does.records_cases {p : Pass τ} (h : e.Does p) :
    (p.Starts ∧ (∃ step, p.Records step) ∧
        ∀ x : Surprise, x.OfVisit → p.result ≠ .error (.surprise x)) ∨
      (p.Starts ∧ p.after.stepResults = p.before.stepResults ∧
        ∃ x : Surprise, x.OfVisit ∧ p.result = .error (.surprise x)) ∨
      (¬p.Starts ∧ p.after.stepResults = p.before.stepResults ∧
        ∀ x : Surprise, x.OfVisit → p.result ≠ .error (.surprise x)) := by
  obtain ⟨errand, before, exchanges, result, after⟩ := p
  change (e.step errand).Course before exchanges result after at h
  unfold Pass.Starts Pass.Records
  dsimp only
  cases step_cases h with
  | tooDeep | entered | left | ended => exact .inr (.inr ⟨by simp, rfl, nofun⟩)
  | missing =>
    refine .inr (.inr ⟨by simp, rfl, ?_⟩)
    rintro x hx ⟨⟩
    exact hx
  | stopped locals top hn hb =>
    refine .inr (.inr ⟨by simp, rfl, ?_⟩)
    rintro x hx ⟨⟩
    cases hb
  | halted hn hb hv =>
    have hstarts : after.stepsVisited = before.stepsVisited + 1 := (visit_depth hv).2
    obtain ⟨started, t', rfl, ⟨x, hx, hr, _, _, rfl⟩ |
      ⟨o, ⟨_, iteration, finished, _, rfl, _, rfl⟩, _, _, hr⟩⟩ := visit_cases hv
    · cases hr
      exact .inr (.inl ⟨hstarts, rfl, x, hx, rfl⟩)
    · -- A halt with a result is a failure or a suspension.
      refine .inl ⟨hstarts, ⟨_, _, _, _, _, rfl, hn, (Definition.node?_some hn).2, rfl, rfl⟩, ?_⟩
      rintro x - ⟨⟩
      exact hr x rfl
  | visited hn hb hv =>
    have hstarts : after.stepsVisited = before.stepsVisited + 1 := (visit_depth hv).2
    obtain ⟨started, t', rfl, ⟨x, hx, hr, _⟩ |
      ⟨o, ⟨_, iteration, finished, _, rfl, _, rfl⟩, _⟩⟩ := visit_cases hv
    · cases hr
    · exact .inl ⟨hstarts, ⟨_, _, _, _, _, rfl, hn, (Definition.node?_some hn).2, rfl, rfl⟩, nofun⟩

/-! ## All visits -/

/-- The results that some passes add are those of their visits, but for the last one if it ends in a
surprise. -/
def Recorded (s : RunState τ) (log : List (Pass τ)) (r : Except Halt Unit) (s' : RunState τ) :
    Prop :=
  ∃ steps, s'.stepResults = s.stepResults ++ steps ∧
    (∀ x : Surprise, x.OfVisit → r = .error (.surprise x) →
      ∃ first last, Pass.visits log = first ++ [last] ∧ last.result = .error (.surprise x) ∧
        List.Forall₂ Pass.Records first steps) ∧
    ((∀ x : Surprise, x.OfVisit → r ≠ .error (.surprise x)) →
      List.Forall₂ Pass.Records (Pass.visits log) steps)

omit [ActiveTime τ] in
/-- What was recorded before something else was recorded comes first. -/
theorem Recorded.after {s₁ s₂ s₃ : RunState τ} {log log' : List (Pass τ)} {r : Except Halt Unit}
    {steps : List StepResult} (hfirst : s₂.stepResults = s₁.stepResults ++ steps)
    (hvisits : List.Forall₂ Pass.Records (Pass.visits log) steps)
    (h : Recorded s₂ log' r s₃) : Recorded s₁ (log ++ log') r s₃ := by
  obtain ⟨steps', hsteps', hsurprise, hother⟩ := h
  refine ⟨steps ++ steps', by rw [hsteps', hfirst, List.append_assoc], fun x hx hr => ?_, fun hr => ?_⟩
  · obtain ⟨first, last, hlast, hresult, hrest⟩ := hsurprise x hx hr
    refine ⟨Pass.visits log ++ first, last, ?_, hresult, List.rel_append hvisits hrest⟩
    rw [Pass.visits_append, hlast, List.append_assoc]
  · rw [Pass.visits_append]
    exact List.rel_append hvisits (hother hr)

/-- What one pass records that does not end the run. -/
theorem Does.records {p : Pass τ} (h : e.Does p)
    (hr : ∀ x : Surprise, x.OfVisit → p.result ≠ .error (.surprise x)) :
    ∃ steps, p.after.stepResults = p.before.stepResults ++ steps ∧
      List.Forall₂ Pass.Records (Pass.visits [p]) steps := by
  rcases h.records_cases with ⟨hstarts, ⟨step, hstep⟩, -⟩ | ⟨_, _, x, hx, hsurprise⟩ |
    ⟨hstarts, hsame, -⟩
  · have hadded := hstep
    obtain ⟨_, _, _, _, _, _, _, _, hsteps⟩ := hadded
    refine ⟨[step], hsteps, ?_⟩
    rw [show Pass.visits [p] = [p] by simp [Pass.visits, hstarts]]
    exact .cons hstep .nil
  · exact absurd hsurprise (hr x hx)
  · refine ⟨[], by rw [hsame, List.append_nil], ?_⟩
    rw [show Pass.visits [p] = [] by simp [Pass.visits, hstarts]]
    exact .nil

/-- The induction is on the passes. Only the last of them can end in a surprise. -/
theorem Passes.recorded {errands : List Errand} {log : List (Pass τ)} {r : Except Halt Unit}
    (h : e.Passes errands s log r s') : Recorded s log r s' := by
  induction h with
  | done s => exact ⟨[], (List.append_nil _).symm, nofun, fun _ => .nil⟩
  | @halted p halt rest hp hr =>
    rcases hp.records_cases with ⟨-, -, hother⟩ | ⟨hstarts, hsame, x, hx, hsurprise⟩ |
      ⟨-, -, hother⟩
    · obtain ⟨steps, hsteps, hrecords⟩ := hp.records hother
      rw [hr] at hother
      exact ⟨steps, hsteps, fun x hx h => absurd (congrArg Except.error (Except.error.inj h))
        (hother x hx), fun _ => hrecords⟩
    · refine ⟨[], by rw [hsame, List.append_nil], fun y hy h => ?_, fun hne => ?_⟩
      · refine ⟨[], p, by simp [Pass.visits, hstarts], ?_, .nil⟩
        rw [hr]
        exact congrArg Except.error (Except.error.inj h)
      · rw [hr] at hsurprise
        exact absurd (congrArg Except.error (Except.error.inj hsurprise)) (hne x hx)
    · obtain ⟨steps, hsteps, hrecords⟩ := hp.records hother
      rw [hr] at hother
      exact ⟨steps, hsteps, fun x hx h => absurd (congrArg Except.error (Except.error.inj h))
        (hother x hx), fun _ => hrecords⟩
  | @passed p more rest log r s' hp hr h ih =>
    have hother : ∀ x : Surprise, x.OfVisit → p.result ≠ .error (.surprise x) := by
      rw [hr]
      rintro x hx ⟨⟩
    obtain ⟨steps, hsteps, hrecords⟩ := hp.records hother
    rw [← List.singleton_append]
    exact .after hsteps hrecords ih

/-- In every run of a definition without problems, in all of its segments, the results at the end of
a segment are those of the visits so far, one for each and in order. If the segment ends in a
surprise of a visit, they are those of all visits but the last, which the surprise ended. -/
theorem visits_recorded [ActiveTime.Storable τ] {σ : Type} [Schema.Source σ] {x y : σ}
    {d : Definition} {event : Event} {runId : String} (hd : Definition.codec.read x = .ok d)
    (hvalid : d.Valid) (hevent : Event.codec.read y = .ok event) :
    (∀ t results, e.OnCalendar t → e.Stored (e.run d event runId) t results →
      ∃ story : List (Segment τ), e.Story d event runId story ∧
        List.Forall₂ Segment.Tells story results ∧ Exchange.deeds t = Segment.deeds story) ∧
    ∀ story : List (Segment τ), e.Story d event runId story →
      ∀ pre g post, story = pre ++ g :: post →
        (∀ x : Surprise, x.OfVisit → g.result = .error (.surprise x) →
          ∃ first last, Segment.visits (pre ++ [g]) = first ++ [last] ∧
            last.result = .error (.surprise x) ∧
            List.Forall₂ Pass.Records first g.after.stepResults) ∧
        ((∀ x : Surprise, x.OfVisit → g.result ≠ .error (.surprise x)) →
          List.Forall₂ Pass.Records (Segment.visits (pre ++ [g])) g.after.stepResults) := by
  have hwell := Definition.codec_ensures.of_read x d hd
  have hstorable := Event.codec_ensures.of_read y event hevent
  refine ⟨fun t results ht h => stored_story hwell hvalid hstorable ht h, ?_⟩
  rintro story ⟨entry, reading, -, hreading, hchain⟩ pre g post hstory
  have hsettled : (e.opening d event runId reading : RunState τ).Settled :=
    opening_settled hwell hstorable hreading
  have hrecorded := hchain.prefixes (F := Recorded) (fun g hg => hg.passes.recorded)
    (fun {s₁ s₂ s₃ log log' r next resumeAt} suspended woken hfirst hrest => by
      obtain ⟨steps, hsteps, -, hother⟩ := hfirst
      have hkept : (s₂.revive suspended woken).stepResults = s₂.stepResults := rfl
      exact .after (hkept.trans hsteps) (hother nofun) hrest)
    hsettled hstory
  obtain ⟨steps, hsteps, hsurprise, hother⟩ := hrecorded
  obtain rfl : g.after.stepResults = steps := hsteps
  exact ⟨hsurprise, hother⟩

end Engine

/-! ## A loop over what cannot be looked up -/

/-- A definition of a loop over some items that adds a note for each of them. -/
def Definition.notesOn (items : String) : Definition where
  name := "Notes"
  trigger := { kind := .manual }
  actions :=
    [{ id := "each", work := .loop { items, actionId := "note" } },
     { id := "note", work := .action (.addNote { targetId := "lead-1", text := "{{item}}" }) }]

theorem Definition.notesOn_wellFormed (items : String) : (Definition.notesOn items).WellFormed where
  name_ne := show 1 ≤ "Notes".length by decide
  name_le := show "Notes".length ≤ 255 by decide
  trigger := by rintro _ ⟨⟩
  nodes :=
    List.forall_mem_cons.mpr ⟨⟨show 1 ≤ "each".length by decide, trivial⟩,
      List.forall_mem_singleton.mpr ⟨show 1 ≤ "note".length by decide, trivial⟩⟩

namespace Engine

theorem notesOn_visits_recorded :
    let d := Definition.notesOn "people"
    let event := Event.personAndFirm
    Definition.codec.read (Definition.codec.write .wire d) = .ok d ∧ d.Valid ∧
      Event.codec.read (Event.codec.write .wire event) = .ok event ∧
      ∃ g : Segment Float, alone.Story d event "run-1" [g] ∧
        g.after.stepResults.map (·.nodeId) = ["each", "note"] ∧
        List.Forall₂ Pass.Records (Segment.visits [g]) g.after.stepResults := by
  intro d event
  have hread : Definition.codec.read (Definition.codec.write .wire d) = .ok d :=
    (Definition.codec_restores (Definition.notesOn_wellFormed "people")).read
  have hvalid : d.Valid := by decide +kernel
  have hevent : Event.codec.read (Event.codec.write .wire event) = .ok event :=
    (Event.codec_restores (by rintro _ ⟨⟩)).read
  have hplayed : (alone.play Dialogue.granting 6 [.go (some "each") [] true]
      (alone.opening d event "run-1" 0 : RunState Float)).map
      (fun (_, r, s) => (r, s.stepResults.map (·.nodeId))) = some (.ok (), ["each", "note"]) := by
    decide +kernel
  obtain ⟨⟨log, r, s'⟩, hplay, heq⟩ := Option.map_eq_some_iff.mp hplayed
  obtain ⟨rfl, hids⟩ := Prod.mk.inj heq
  have hclock : Dialogue.granting .clock = (0 : Nat) := rfl
  have hentry : d.entry? = some _ := rfl
  have hstory := Story.of_play hentry hclock (by decide) hplay
  have hrecorded := (visits_recorded (e := alone) (τ := Float) hread hvalid hevent).2 _ hstory [] _
    [] rfl
  exact ⟨hread, hvalid, hevent, _, hstory, hids, hrecorded.2 nofun⟩

/-- A visit can leave no result: what the loop goes through is asked for at an index that is a digit
and no number. The run fails there. -/
theorem notesOn_unrecorded :
    let d := Definition.notesOn "people.²"
    let event := Event.personAndFirm
    d.Valid ∧
      (∃ (t : List Exchange) (told : RunResult Float),
        alone.Stored (alone.run d event "run-1") t [.ok told] ∧ told.stepResults = [] ∧
        told.status = .failed) ∧
      ∃ g : Segment Float, alone.Story d event "run-1" [g] ∧ (Segment.visits [g]).length = 1 ∧
        g.after.stepResults = [] ∧ g.result = .error (.surprise (.lookup (.badIndex "²"))) := by
  intro d event
  refine ⟨by decide +kernel, ?_, ?_⟩
  · let dialogue : Dialogue (Except Escape (RunResult Float)) := alone.run d event "run-1"
    have hseen : (dialogue.answered Dialogue.granting).2.toOption.map
        (fun told => (told.stepResults, told.status)) = some ([], .failed) := by
      decide +kernel
    obtain ⟨told, htold, heq⟩ := Option.map_eq_some_iff.mp hseen
    obtain ⟨hsteps, hstatus⟩ := Prod.mk.inj heq
    have hcourse := Dialogue.course_answered Dialogue.granting dialogue
    rw [Except.toOption_eq_some.mp htold] at hcourse
    exact ⟨_, told, .last hcourse, hsteps, hstatus⟩
  · have hplayed : (alone.play Dialogue.granting 6 [.go (some "each") [] true]
        (alone.opening d event "run-1" 0 : RunState Float)).map
        (fun (log, r, s) => ((Pass.visits log).length, r, s.stepResults))
        = some (1, .error (.surprise (.lookup (.badIndex "²"))), []) := by
      decide +kernel
    obtain ⟨⟨log, r, s'⟩, hplay, heq⟩ := Option.map_eq_some_iff.mp hplayed
    obtain ⟨hvisits, hrest⟩ := Prod.mk.inj heq
    obtain ⟨hr, hsteps⟩ := Prod.mk.inj hrest
    have hclock : Dialogue.granting .clock = (0 : Nat) := rfl
    have hentry : d.entry? = some _ := rfl
    refine ⟨_, Story.of_play hentry hclock (by decide) hplay, ?_, hsteps, hr⟩
    simpa [Segment.visits] using hvisits

end Engine

end Automation
