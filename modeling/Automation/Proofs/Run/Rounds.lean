import Automation.Proofs.Run.Halting
import Automation.Proofs.Run.Outputs

/-!
# Rounds of loops

A loop walks its body once for each element of a list, in order, and each time with locals of its own. A
failure inside the body is a step like others: the next round comes unless the run itself ends there. When
the rounds are over the walk goes on from the next node with the locals that the loop was visited with.
-/

namespace Automation

variable {τ : Type} {e : Engine} {s s' : RunState τ} {t : List Exchange}

/-! ## Locals of an iteration -/

/-- The locals of an iteration of a loop at a place: the element, its index and the path of the iteration
have their names, and every other name stands for what it stands for around the loop. -/
structure Iteration (place : List Nat) (locals : Entries Value) (index : Nat) (item : Value)
    (inner : Entries Value) : Prop where
  element : inner.get? "item" = some item
  position : inner.get? "index" = some (.int index)
  path : inner.get? "_iteration" = some (.text (Spot.placeText (place ++ [index])))
  others : ∀ name, name ∉ ["item", "index", "_iteration"] → inner.get? name = locals.get? name

namespace Around

variable {place : List Nat} {locals : Entries Value}

theorem iterationLocals (h : Around place locals) (index : Nat) (item : Value) :
    Iteration place locals index item (Engine.iterationLocals locals index item) := by
  refine ⟨?_, ?_, ?_, fun name hname => ?_⟩
  · simp [Engine.iterationLocals, Entries.merge, Entries.get?_set]
  · simp [Engine.iterationLocals, Entries.merge, Entries.get?_set]
  · rw [(h.inside index item).iteration, if_neg (by simp)]
  · obtain ⟨hitem, hindex, hpath⟩ : name ≠ "item" ∧ name ≠ "index" ∧ name ≠ "_iteration" := by
      simpa using hname
    simp [Engine.iterationLocals, Entries.merge, Entries.get?_set, hitem.symm, hindex.symm, hpath.symm]

/-- Outside all loops there is no path. -/
theorem eq_nil (h : Around place []) : place = [] := by
  by_contra hne
  have hpath := h.iteration
  rw [if_neg hne] at hpath
  cases hpath

/-- There is one iteration for each element, in order. -/
theorem loopLocals (h : Around place locals) (elements : List Value) :
    List.Forall₂ (fun (item, index) inner => Iteration place locals index item inner)
      elements.zipIdx (Engine.loopLocals locals elements) := by
  unfold Engine.loopLocals
  rw [List.forall₂_map_right_iff]
  exact List.forall₂_same.mpr fun (item, index) _ => h.iterationLocals index item

end Around

/-! ## Visits of loops -/

/-- A success is recorded where the index of the iteration can be told and nothing in the context stands
in the way. -/
theorem Visit.succeed_ok {v : Visit} {iteration : Option Int} {input output : Entries Value}
    {attempts : Int} {r : Except Halt Unit} (hv : v.iteration = .ok iteration)
    (hodd : s.context.odd = {}) (h : (v.succeed e input output attempts).Course s t r s') :
    r = .ok () := by
  have hfits : s.context.outputsMisfit = none := by rw [Context.outputsMisfit, hodd]; rfl
  rw [succeed] at h
  rcases Walk.course_recordOutput_bind.mp h with ⟨m, hm, -⟩ | ⟨-, h⟩
  · cases hfits.symm.trans hm
  · exact (record_of_ok (s := { s with
      context := s.context.recordOutput v.node.id (.object output) }) hv hodd h).1

namespace Engine

/-- A loop that has elements is a success, whatever they are. -/
theorem visitLoop_ok {v : Visit} {iteration : Option Int} {l : Loop} {elements : List Value}
    {r : Except Halt (List (Entries Value))} (hv : v.iteration = .ok iteration)
    (hodd : s.context.odd = {}) (hl : l.elements { s.context with locals := v.locals } = some elements)
    (h : (e.visitLoop v l).Course s t r s') : r = .ok (loopLocals v.locals elements) := by
  rw [visitLoop] at h
  dsimp only at h
  rw [Walk.course_contextWith_bind] at h
  dsimp only at h
  unfold Loop.elements at hl
  generalize Context.lookup { s.context with locals := v.locals }
    (Template.stripPlaceholder l.items) = found at h hl
  split at h
  · cases hl
  · cases hl
  · obtain rfl := Option.some.inj hl
    obtain ⟨r₀, rfl, hw⟩ := Walk.course_bind_pure.mp h
    rw [Visit.succeed_ok hv hodd hw]
    rfl
  · rename_i found hne
    cases found with
    | list items => exact absurd rfl (hne items)
    | _ => cases hl

variable [ActiveTime τ] {d : Definition}

theorem visit_loop {n : Node} {l : Loop} {locals : Entries Value} {top : Bool} {place : List Nat}
    {elements : List Value} {r : Except Halt (List (String × Entries Value))}
    (hwork : n.work = .loop l) (hplace : Around place locals) (hodd : s.context.odd = {})
    (hl : l.elements { s.context with locals } = some elements)
    (h : (e.visit n locals top).Course s t r s') :
    r = .ok ((loopLocals locals elements).map fun inner => (l.actionId, inner)) := by
  obtain ⟨started, t', rfl, hloop⟩ := Walk.course_clock_bind.mp h
  obtain ⟨iteration, hiteration⟩ : ∃ i, (Visit.mk n locals started).iteration = .ok i :=
    Visit.iteration_of_around hplace
  simp only [hwork, bind_pure_comp] at hloop
  obtain ⟨r₀, rfl, hw⟩ := Walk.course_map.mp hloop
  rw [visitLoop_ok hiteration hodd hl hw]
  rfl

/-- A visit of a loop that has elements leads to one walk of the body for each of them, and then to the
walk from the next node. -/
theorem Does.loops {p : Pass τ} {id : String} {locals : Entries Value} {top : Bool} {n : Node} {l : Loop}
    {place : List Nat} {elements : List Value} (h : e.Does p)
    (herrand : p.errand = .go (some id) locals top) (hstarts : p.Starts)
    (hn : p.before.workflow.node? id = some n) (hwork : n.work = .loop l)
    (hplace : Around place locals) (hodd : p.before.context.odd = {})
    (hl : l.elements { p.before.context with locals } = some elements) :
    p.result = .ok ((loopLocals locals elements).map (.enter l.actionId)
      ++ [.go n.nextAction locals top]) := by
  obtain ⟨errand, before, exchanges, result, after⟩ := p
  subst herrand
  change (e.step (.go (some id) locals top)).Course before exchanges result after at h
  change after.stepsVisited = before.stepsVisited + 1 at hstarts
  change before.workflow.node? id = some n at hn
  -- Counting the visit leaves the context as it is.
  have hvisit {t : List Exchange} {r : Except Halt (List (String × Entries Value))}
      (hv : (e.visit n locals top).Course before.counted t r after) :=
    visit_loop (s := before.counted) hwork hplace hodd hl hv
  cases step_cases h with
  | missing _ _ hnone =>
    rw [hn] at hnone
    cases hnone
  | stopped => omega
  | halted hn' hb hv =>
    obtain rfl := Option.some.inj (hn'.symm.trans hn)
    cases hvisit hv
  | visited hn' hb hv =>
    obtain rfl := Option.some.inj (hn'.symm.trans hn)
    obtain rfl := Except.ok.inj (hvisit hv)
    simp [errandsAfter]

/-! ## Halts inside a body -/

omit [ActiveTime τ] in
/-- How the run goes on at a node is no failure. -/
theorem proceed_ne_failed {n : Node} {c : Context} {top : Bool} {started : Nat} (message : String) :
    e.proceed n c top started ≠ .error (.failed message) := by
  intro h
  unfold proceed at h
  split at h
  · cases h
  · cases h
  · cases h
  · rename_i pause hwork
    cases hafter : e.afterDelay pause n.nextAction top started with
    | ok _ =>
      rw [hafter] at h
      cases h
    | error halt =>
      rw [hafter] at h
      cases h
      unfold afterDelay at hafter
      split at hafter
      · split at hafter <;> cases hafter
      · cases hafter

/-- What halts a run of a definition inside a loop: the step of a visit that ends the run, a stop or a budget
that is used up at a check between two nodes, a walk that is too deep, or an unexpected error. -/
inductive HaltsAt (e : Engine) (d : Definition) (p : Pass τ) : Halt → Prop where
  | step {step : StepResult} (hstep : p.Records step) (hends : step.Ends d) :
      HaltsAt e d p (.failed step.endError)
  | check {halt : Halt} (hb : Boundary e p.before p.exchanges (.error halt)) : HaltsAt e d p halt
  | tooDeep (hd : e.maxDepth ≤ p.before.depth) : HaltsAt e d p (.depthBudget e.maxDepth)
  | surprise (x : Surprise) : HaltsAt e d p (.surprise x)

end Engine

/-- An errand that does not belong to the walk at the top level. -/
def Errand.Inner : Errand → Prop
  | .enter _ _ | .leave => True
  | .go _ _ top => top = false

namespace Engine

variable [ActiveTime τ] {d : Definition}

/-- What an errand inside a walk leads to is inside as well. -/
theorem step_inner {errand : Errand} {more : List Errand} (hinner : errand.Inner)
    (h : (e.step errand).Course s t (.ok more) s') : ∀ x ∈ more, x.Inner := by
  cases step_cases h with
  | entered target locals hd =>
    exact List.forall_mem_cons.mpr ⟨rfl, List.forall_mem_singleton.mpr trivial⟩
  | left | ended => exact List.forall_mem_nil _
  | visited hn hb hv =>
    intro x hx
    rcases List.mem_append.mp hx with hx | hx
    · obtain ⟨walk, -, rfl⟩ := List.mem_map.mp hx
      trivial
    · obtain rfl := List.mem_singleton.mp hx
      exact hinner

/-- Inside a walk no pass suspends the run, so a halt is one of those. -/
theorem Does.haltsAt {p : Pass τ} {halt : Halt} (h : e.Does p) (hw : p.before.workflow = d)
    (hinner : p.errand.Inner) (hr : p.result = .error halt) : HaltsAt e d p halt := by
  obtain ⟨errand, before, exchanges, result, after⟩ := p
  change result = .error halt at hr
  subst hr
  change (e.step errand).Course before exchanges (.error halt) after at h
  change before.workflow = d at hw
  subst hw
  change errand.Inner at hinner
  cases step_cases h with
  | tooDeep target locals hd => exact .tooDeep hd
  | missing => exact .surprise _
  | stopped locals top hn hb => exact .check hb
  | @halted id n locals top t₁ t₂ _ _ hn hb hv =>
    obtain ⟨started, t', rfl, ⟨x, -, hr, -⟩ |
      ⟨o, ⟨_, iteration, finished, _, rfl, _, rfl⟩, -, hr, hne⟩⟩ := visit_cases hv
    · cases hr
      exact .surprise x
    · obtain ⟨-, hid⟩ := Definition.node?_some hn
      have hnode : before.workflow.node? n.id = some n := by rw [hid]; exact hn
      by_cases hends : ((⟨n, locals, started⟩ : Visit).result e o iteration finished).Ends before.workflow
      · rw [Outcome.verdict_ends (v := ⟨n, locals, started⟩) hnode hends] at hr
        cases hr
        exact .step ⟨id, locals, top, n, rfl, hn, hid, rfl, rfl⟩ hends
      · -- The step does not end the run, so what does is how the run would go on.
        rw [Outcome.verdict_ok (v := ⟨n, locals, started⟩) hnode hends] at hr
        have hproceed : e.proceed n _ top started = .error halt := hr.symm
        cases halt with
        | failed message => exact absurd hproceed (proceed_ne_failed message)
        | suspended next resumeAt =>
          obtain ⟨rfl, -⟩ := proceed_suspended hproceed
          cases hinner
        | surprise x => exact absurd rfl (hne x)
        | stepBudget | depthBudget | timeBudget | aborted => exact (proceed_halt hproceed).elim

theorem Passes.haltsAt {errands : List Errand} {log : List (Pass τ)} {halt : Halt}
    (h : e.Passes errands s log (.error halt) s') (hw : s.workflow = d)
    (hinner : ∀ x ∈ errands, x.Inner) : ∃ pre p, log = pre ++ [p] ∧ HaltsAt e d p halt := by
  obtain ⟨-, hlog⟩ := h.all_errands (P := Errand.Inner) (fun _ => step_inner) hw hinner
  obtain ⟨pre, p, rfl, hp, -, hr, -⟩ := h.halted_by
  obtain ⟨hworkflow, hlast⟩ := hlog p (List.mem_append_right _ (List.mem_singleton_self p))
  exact ⟨pre, p, rfl, hp.haltsAt hworkflow hlast hr⟩

/-! ## Rounds -/

/-- Errands that come before others are done first: they halt the run, or the others are done from where
they have come to. -/
theorem Passes.append_cases {first rest : List Errand} {log : List (Pass τ)} {r : Except Halt Unit}
    (h : e.Passes (first ++ rest) s log r s') :
    (∃ halt, r = .error halt ∧ e.Passes first s log (.error halt) s') ∨
      ∃ log₁ log₂ s₁, log = log₁ ++ log₂ ∧ e.Passes first s log₁ (.ok ()) s₁ ∧
        e.Passes rest s₁ log₂ r s' := by
  generalize herrands : first ++ rest = errands at h
  induction h generalizing first with
  | done s =>
    obtain ⟨rfl, rfl⟩ := List.append_eq_nil_iff.mp herrands
    exact .inr ⟨[], [], s, rfl, .done s, .done s⟩
  | @halted p halt rest' hp hr =>
    cases first with
    | nil =>
      obtain rfl : rest = p.errand :: rest' := herrands
      exact .inr ⟨[], [p], p.before, rfl, .done _, .halted rest' hp hr⟩
    | cons errand first =>
      obtain ⟨rfl, -⟩ := List.cons.inj herrands
      exact .inl ⟨halt, rfl, .halted first hp hr⟩
  | @passed p more rest' log r s' hp hr h ih =>
    cases first with
    | nil =>
      obtain rfl : rest = p.errand :: rest' := herrands
      exact .inr ⟨[], p :: log, p.before, rfl, .done _, .passed hp hr h⟩
    | cons errand first =>
      -- What the first pass leads to comes before what was to be done after it.
      obtain ⟨rfl, rfl⟩ := List.cons.inj herrands
      rcases ih (List.append_assoc more first rest) with ⟨halt, rfl, hfirst⟩ |
        ⟨log₁, log₂, s₁, rfl, hfirst, hrest⟩
      · exact .inl ⟨halt, rfl, .passed hp hr hfirst⟩
      · exact .inr ⟨p :: log₁, log₂, s₁, rfl, .passed hp hr hfirst, hrest⟩

/-- The body of a loop is walked to its end once with each of some locals, one after another. -/
inductive Rounds (e : Engine) (body : String) :
    List (Entries Value) → RunState τ → List (Pass τ) → RunState τ → Prop where
  | none (s : RunState τ) : Rounds e body [] s [] s
  | next {locals : Entries Value} {more : List (Entries Value)} {log log' : List (Pass τ)}
      {s s₁ s' : RunState τ} (hfirst : e.Passes [.enter body locals] s log (.ok ()) s₁)
      (hmore : Rounds e body more s₁ log' s') : Rounds e body (locals :: more) s (log ++ log') s'

/-- How a run goes on at the body of a loop that is to be walked with some locals: with one round for each,
and then with the rest; or with those rounds that come before one in which the run halts. -/
inductive RoundsThen (e : Engine) (d : Definition) (body : String) (inner : List (Entries Value))
    (rest : List Errand) (s : RunState τ) (log : List (Pass τ)) (r : Except Halt Unit)
    (s' : RunState τ) : Prop where
  | through {log₁ log₂ : List (Pass τ)} {s₁ : RunState τ} (hlog : log = log₁ ++ log₂)
      (hrounds : e.Rounds body inner s log₁ s₁) (hrest : e.Passes rest s₁ log₂ r s')
  | halted {before after : List (Entries Value)} {locals : Entries Value}
      {log₁ log₂ : List (Pass τ)} {last : Pass τ} {s₁ : RunState τ} {halt : Halt}
      (hinner : inner = before ++ locals :: after) (hlog : log = log₁ ++ (log₂ ++ [last]))
      (hrounds : e.Rounds body before s log₁ s₁)
      (hround : e.Passes [.enter body locals] s₁ (log₂ ++ [last]) (.error halt) s')
      (hlast : HaltsAt e d last halt) (hr : r = .error halt)

/-- The induction is on the rounds that are still to come. -/
theorem Passes.rounds {body : String} {inner : List (Entries Value)} {rest : List Errand}
    {log : List (Pass τ)} {r : Except Halt Unit} (hw : s.workflow = d)
    (h : e.Passes (inner.map (.enter body) ++ rest) s log r s') :
    e.RoundsThen d body inner rest s log r s' := by
  induction inner generalizing s log with
  | nil => exact .through (List.nil_append log).symm (.none s) h
  | cons locals more ih =>
    have hall : e.Passes ([.enter body locals] ++ (more.map (.enter body) ++ rest)) s log r s' := h
    rcases hall.append_cases with ⟨halt, rfl, hround⟩ | ⟨log₁, log₂, s₁, rfl, hfirst, hmore⟩
    · obtain ⟨log₂, last, rfl, hlast⟩ := hround.haltsAt hw (List.forall_mem_singleton.mpr trivial)
      exact .halted (List.nil_append _).symm (List.nil_append _).symm (.none s) hround hlast rfl
    · cases ih (hfirst.continues.workflow.trans hw) hmore with
      | through hlog hrounds hrest =>
        subst hlog
        exact .through (List.append_assoc _ _ _).symm (.next hfirst hrounds) hrest
      | halted hinner hlog hrounds hround hlast hr =>
        subst hlog hinner
        exact .halted rfl (List.append_assoc _ _ _).symm (.next hfirst hrounds) hround hlast hr

/-! ## Runs -/

/-- The segments of a story begin in settled states. -/
theorem Story.settled [ActiveTime.Storable τ] {event : Event} {runId : String}
    {story : List (Segment τ)} (hwell : d.WellFormed) (hevent : event.Storable)
    (h : e.Story d event runId story) : ∀ g ∈ story, g.before.Settled := by
  obtain ⟨entry, reading, -, hreading, hchain⟩ := h
  exact hchain.all (J := fun _ _ => True)
    (fun g _ hsettled _ => ⟨hsettled, fun _ _ _ _ _ => trivial⟩)
    (opening_settled hwell hevent hreading) trivial

/-- In every run of a definition without problems, at every visit of a loop that has elements, at whatever
depth, the body is walked once for each element, in order: with the element, its index and its path, and
with all other names as they are around the loop. After these rounds the run goes on from the next node with
the locals of the visit, and then with what was to be done before. The rounds break off only in the halt of
the run, at a step that ends it, a stop, a budget that is used up, or an unexpected error. -/
theorem loop_rounds [ActiveTime.Storable τ] {σ : Type} [Schema.Source σ] {x y : σ} {event : Event}
    {runId : String} (hd : Definition.codec.read x = .ok d) (hvalid : d.Valid)
    (hevent : Event.codec.read y = .ok event) :
    (∀ t (results : List (Except Escape (RunResult τ))), e.OnCalendar t →
      e.Stored (e.run d event runId) t results →
      ∃ story : List (Segment τ), e.Story d event runId story ∧
        List.Forall₂ Segment.Tells story results ∧ Exchange.deeds t = Segment.deeds story) ∧
    ∀ story : List (Segment τ), e.Story d event runId story → ∀ g ∈ story,
      ∀ pre p post id locals top n l elements, g.log = pre ++ p :: post →
        p.errand = .go (some id) locals top → p.Starts → d.node? id = some n → n.work = .loop l →
        l.elements { p.before.context with locals } = some elements →
        ∃ place inner rest, Around place locals ∧
          List.Forall₂ (fun (item, index) inner => Iteration place locals index item inner)
            elements.zipIdx inner ∧
          e.Passes (p.errand :: rest) p.before (p :: post) g.result g.after ∧
          e.RoundsThen d l.actionId inner (.go n.nextAction locals top :: rest) p.after post g.result
            g.after := by
  have hwell := Definition.codec_ensures.of_read x d hd
  have hstorable := Event.codec_ensures.of_read y event hevent
  refine ⟨fun t results ht h => stored_story hwell hvalid hstorable ht h, ?_⟩
  intro story hstory g hg pre p post id locals top n l elements hlog herrand hstarts hn hwork hl
  obtain ⟨hdoes, hw, -⟩ := hstory.endsLast hwell hstorable g hg
  have hp : p ∈ g.log := by simp [hlog]
  obtain ⟨hpdoes, hbefore⟩ := hdoes.passes.mem hp
  obtain ⟨place, hplace⟩ := (story_placed hwell hstorable hstory g hg p hp).2.2 locals
    (by rw [herrand]; rfl)
  have hworkflow : p.before.workflow = d := hbefore.workflow.trans hw
  have hodd : p.before.context.odd = {} :=
    hbefore.odd.trans (hstory.settled hwell hstorable g hg).regular
  have hresult := hpdoes.loops herrand hstarts (by rw [hworkflow]; exact hn) hwork hplace hodd hl
  have hpasses := hdoes.passes
  rw [hlog] at hpasses
  obtain ⟨rest, hfrom, hmore⟩ := hpasses.from_pass
  have hafter := hmore _ hresult
  rw [List.append_assoc] at hafter
  exact ⟨place, loopLocals locals elements, rest, hplace, hplace.loopLocals elements, hfrom,
    hafter.rounds ((step_continues hpdoes).workflow.trans hworkflow)⟩

end Engine

/-! ## A loop inside a loop -/

/-- A definition of a loop over teams, and in it of a loop over some items that adds a note for each of them.
After the inner loop there is a note about the team. -/
def Definition.teams (items : String) : Definition where
  name := "Teams"
  trigger := { kind := .manual }
  actions :=
    [{ id := "each", work := .loop { items := "teams", actionId := "team" } },
     { id := "team", nextAction := some "done", work := .loop { items, actionId := "note" } },
     { id := "note", work := .action (.addNote { targetId := "lead-1", text := "{{item}}" }) },
     { id := "done", work := .action (.addNote { targetId := "lead-1", text := "done" }) }]

theorem Definition.teams_wellFormed (items : String) : (Definition.teams items).WellFormed where
  name_ne := show 1 ≤ "Teams".length by decide
  name_le := show "Teams".length ≤ 255 by decide
  trigger := by rintro _ ⟨⟩
  nodes :=
    List.forall_mem_cons.mpr ⟨⟨show 1 ≤ "each".length by decide, trivial⟩,
      List.forall_mem_cons.mpr ⟨⟨show 1 ≤ "team".length by decide, trivial⟩,
        List.forall_mem_cons.mpr ⟨⟨show 1 ≤ "note".length by decide, trivial⟩,
          List.forall_mem_singleton.mpr ⟨show 1 ≤ "done".length by decide, trivial⟩⟩⟩⟩

/-- An event of two teams. -/
def Event.twoTeams : Event :=
  { Event.manual with payload := [("teams", .list [.texts ["Ada"], .texts ["Bob", "Eve"]])] }

namespace Engine

/-- Each team has its round, and the note about it is in this round after the rounds of the loop inside. -/
theorem teams_rounds :
    let d := Definition.teams "item"
    let event := Event.twoTeams
    Definition.codec.read (Definition.codec.write .wire d) = .ok d ∧ d.Valid ∧
      Event.codec.read (Event.codec.write .wire event) = .ok event ∧
      ∃ (g : Segment Float) (p : Pass Float) (post log₁ log₂ : List (Pass Float))
        (s : RunState Float) (inner : List (Entries Value)) (rest : List Errand),
        alone.Story d event "run-1" [g] ∧ g.log = p :: post ∧ p.errand = .go (some "each") [] true ∧
          g.after.stepResults.map (fun step => (step.nodeId, step.iteration)) =
            [("each", none), ("team", some 0), ("note", some 0), ("done", some 0), ("team", some 1),
              ("note", some 0), ("note", some 1), ("done", some 1)] ∧
          List.Forall₂ (fun (item, index) inner => Iteration [] [] index item inner)
            [(.texts ["Ada"], 0), (.texts ["Bob", "Eve"], 1)] inner ∧
          post = log₁ ++ log₂ ∧ alone.Rounds "team" inner p.after log₁ s ∧
          alone.Passes (.go none [] true :: rest) s log₂ (.ok ()) g.after := by
  intro d event
  have hread : Definition.codec.read (Definition.codec.write .wire d) = .ok d :=
    (Definition.codec_restores (d := d) (Definition.teams_wellFormed "item")).read
  have hvalid : d.Valid := by decide +kernel
  have hevent : Event.codec.read (Event.codec.write .wire event) = .ok event :=
    (Event.codec_restores (by rintro _ ⟨⟩)).read
  have hplayed : (alone.play Dialogue.granting 40 [.go (some "each") [] true]
      (alone.opening d event "run-1" 0 : RunState Float)).map
      (fun (_, r, s) => (r, s.stepResults.map fun step => (step.nodeId, step.iteration)))
      = some (.ok (), [("each", none), ("team", some 0), ("note", some 0), ("done", some 0),
          ("team", some 1), ("note", some 0), ("note", some 1), ("done", some 1)]) := by
    decide +kernel
  obtain ⟨⟨log, r, s'⟩, hplay, heq⟩ := Option.map_eq_some_iff.mp hplayed
  obtain ⟨rfl, hsteps⟩ := Prod.mk.inj heq
  have hclock : Dialogue.granting .clock = (0 : Nat) := rfl
  have hentry : d.entry? = some _ := rfl
  have hstory := Story.of_play hentry hclock (by decide) hplay
  obtain ⟨p, post, rfl, herrand, hbefore, hdoes, ⟨halt, -, -, hr, -⟩ | ⟨more, hmore, -⟩⟩ :=
    (play_passes hplay).1.cons_cases
  · cases hr
  have hstarts : p.Starts := by
    rcases hdoes.visits_cases with ⟨hstarts, -⟩ | ⟨-, -, hhalt⟩
    · exact hstarts
    · obtain ⟨halt, hhalt⟩ := hhalt _ _ _ herrand
      rw [hmore] at hhalt
      cases hhalt
  have helements : ({ items := "teams", actionId := "team" } : Loop).elements
      { p.before.context with locals := [] } = some [.texts ["Ada"], .texts ["Bob", "Eve"]] := by
    rw [hbefore]
    decide +kernel
  obtain ⟨place, inner, rest, hplace, hinner, -, hrounds⟩ :=
    (loop_rounds (e := alone) (τ := Float) hread hvalid hevent).2 _ hstory _
      (List.mem_singleton_self _) [] p post "each" [] true _ _ _ rfl herrand hstarts rfl rfl helements
  obtain rfl := hplace.eq_nil
  cases hrounds with
  | through hlog hrounds hrest =>
    exact ⟨hread, hvalid, hevent, _, p, post, _, _, _, inner, rest, hstory, rfl, herrand, hsteps, hinner,
      hlog, hrounds, hrest⟩
  | halted _ _ _ _ _ hr => cases hr

/-- A round can be cut short by what is not to end a run: the items of the loop inside are asked for at an
index that is a digit and no number. The body of the outer loop, which has two elements, is begun once. -/
theorem teams_cut_short :
    let d := Definition.teams "teams.²"
    let event := Event.twoTeams
    d.Valid ∧
      (∃ (t : List Exchange) (told : RunResult Float),
        alone.Stored (alone.run d event "run-1") t [.ok told] ∧
        told.stepResults.map (·.nodeId) = ["each"] ∧ told.status = .failed) ∧
      ∃ g : Segment Float, alone.Story d event "run-1" [g] ∧
        g.after.stepResults.map
            (fun step => (step.nodeId, step.status, step.output.bind (·.get? "item_count"))) =
          [("each", .success, some (.int 2))] ∧
        Pass.entered g.log = 1 ∧ g.result = .error (.surprise (.lookup (.badIndex "²"))) := by
  intro d event
  refine ⟨by decide +kernel, ?_, ?_⟩
  · let dialogue : Dialogue (Except Escape (RunResult Float)) := alone.run d event "run-1"
    have hseen : (dialogue.answered Dialogue.granting).2.toOption.map
        (fun told => (told.stepResults.map (·.nodeId), told.status)) = some (["each"], .failed) := by
      decide +kernel
    obtain ⟨told, htold, heq⟩ := Option.map_eq_some_iff.mp hseen
    obtain ⟨hsteps, hstatus⟩ := Prod.mk.inj heq
    have hcourse := Dialogue.course_answered Dialogue.granting dialogue
    rw [Except.toOption_eq_some.mp htold] at hcourse
    exact ⟨_, told, .last hcourse, hsteps, hstatus⟩
  · have hplayed : (alone.play Dialogue.granting 10 [.go (some "each") [] true]
        (alone.opening d event "run-1" 0 : RunState Float)).map
        (fun (log, r, s) => (s.stepResults.map
          (fun step => (step.nodeId, step.status, step.output.bind (·.get? "item_count"))),
          Pass.entered log, r))
        = some ([("each", .success, some (.int 2))], 1,
            .error (.surprise (.lookup (.badIndex "²")))) := by
      decide +kernel
    obtain ⟨⟨log, r, s'⟩, hplay, heq⟩ := Option.map_eq_some_iff.mp hplayed
    obtain ⟨hsteps, hrest⟩ := Prod.mk.inj heq
    obtain ⟨hentered, hr⟩ := Prod.mk.inj hrest
    have hclock : Dialogue.granting .clock = (0 : Nat) := rfl
    have hentry : d.entry? = some _ := rfl
    exact ⟨_, Story.of_play hentry hclock (by decide) hplay, hsteps, hentered, hr⟩

end Engine

end Automation
