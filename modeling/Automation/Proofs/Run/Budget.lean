import Automation.Proofs.Run.Check
import Automation.Proofs.Run.Reference
import Automation.Proofs.Run.World
import Mathlib.Order.WellFounded

/-!
# Budgets

A run ends whatever the graph of its definition looks like: each visit uses up one of the steps that
are left, and between two visits the errands that are to be done get less. The visits of all segments
together stay within the step budget, and the walks around a visit within the nesting budget.
-/

namespace Automation

variable {τ : Type} [ActiveTime τ] {e : Engine} {s s' : RunState τ} {t : List Exchange}

/-! ## Visits -/

instance : DecidablePred (Pass.Starts (τ := τ)) :=
  fun p => inferInstanceAs (Decidable (p.after.stepsVisited = p.before.stepsVisited + 1))

/-- The passes that visit nodes. -/
def Pass.visits (log : List (Pass τ)) : List (Pass τ) := log.filter (·.Starts)

omit [ActiveTime τ] in
@[simp] theorem Pass.visits_append (log log' : List (Pass τ)) :
    Pass.visits (log ++ log') = Pass.visits log ++ Pass.visits log' := List.filter_append log log'

/-- How much there is to an errand beside visits: a walk inside the walk is begun, walked and left. -/
def Errand.weight : Errand → Nat
  | .enter _ _ => 3
  | .leave | .go _ _ _ => 1

/-- The passes of some segments that visit nodes. -/
def Segment.visits (story : List (Segment τ)) : List (Pass τ) :=
  Pass.visits (story.flatMap (·.log))

/-- How many walks inside the walk some passes begin. -/
def Pass.entered (log : List (Pass τ)) : Nat :=
  log.countP fun p => match p.errand with
    | .enter _ _ => true
    | _ => false

/-- How many walks inside the walk some passes come back from. -/
def Pass.left (log : List (Pass τ)) : Nat := log.countP fun p => p.errand = .leave

namespace Engine

/-- A pass visits a node, which uses up one of the steps that are left, or it visits none. At a node
it visits none only if it halts. -/
theorem Does.visits_cases {p : Pass τ} (h : e.Does p) :
    (p.Starts ∧ p.before.stepsVisited < e.maxSteps ∧
        ∃ id locals top, p.errand = .go (some id) locals top) ∨
      (¬p.Starts ∧ p.after.stepsVisited = p.before.stepsVisited ∧
        ∀ id locals top, p.errand = .go (some id) locals top → ∃ halt, p.result = .error halt) := by
  obtain ⟨errand, before, exchanges, result, after⟩ := p
  change (e.step errand).Course before exchanges result after at h
  change (after.stepsVisited = before.stepsVisited + 1 ∧ _) ∨
    (¬after.stepsVisited = before.stepsVisited + 1 ∧ _)
  cases step_cases h with
  | tooDeep | entered | left | ended => exact .inr ⟨by simp, rfl, nofun⟩
  | missing | stopped => exact .inr ⟨by simp, rfl, fun _ _ _ _ => ⟨_, rfl⟩⟩
  | halted hn hb hv | visited hn hb hv =>
    have hvisited := (visit_depth hv).2
    cases hb with
    | passed reading hs ha => exact .inl ⟨hvisited, hs, _, _, _, rfl⟩

/-- The count of visits is that of the passes that visit nodes. -/
theorem Passes.visited {errands : List Errand} {log : List (Pass τ)} {r : Except Halt Unit}
    (h : e.Passes errands s log r s') :
    s'.stepsVisited = s.stepsVisited + (Pass.visits log).length := by
  have hcount : ∀ {p : Pass τ}, e.Does p →
      p.after.stepsVisited = p.before.stepsVisited + (Pass.visits [p]).length := by
    intro p hp
    rcases hp.visits_cases with ⟨hstarts, -⟩ | ⟨hstarts, hvisited, -⟩
    · rw [show Pass.visits [p] = [p] by simp [Pass.visits, hstarts]]
      exact hstarts
    · rw [show Pass.visits [p] = [] by simp [Pass.visits, hstarts]]
      simpa using hvisited
  induction h with
  | done s => simp [Pass.visits]
  | halted rest hp hr => exact hcount hp
  | @passed p more rest log r s' hp hr h ih =>
    have hfirst := hcount hp
    rw [← List.singleton_append, Pass.visits_append, List.length_append]
    omega

theorem Passes.visited_le {errands : List Errand} {log : List (Pass τ)} {r : Except Halt Unit}
    (h : e.Passes errands s log r s') (hs : s.stepsVisited ≤ e.maxSteps) :
    s'.stepsVisited ≤ e.maxSteps := by
  have hstep : ∀ {p : Pass τ}, e.Does p → p.before.stepsVisited ≤ e.maxSteps →
      p.after.stepsVisited ≤ e.maxSteps := by
    intro p hp hbefore
    rcases hp.visits_cases with ⟨hstarts, hlt, -⟩ | ⟨-, hsame, -⟩
    · have hvisited : p.after.stepsVisited = p.before.stepsVisited + 1 := hstarts
      omega
    · omega
  exact (h.all (I := (·.stepsVisited ≤ e.maxSteps)) (P := fun _ => True)
    (fun p hp hbefore _ => ⟨hstep hp hbefore, fun _ _ _ _ => trivial⟩) hs fun _ _ => trivial).1

/-! ## The end of all errands -/

/-- The machine goes on from some errands in a state to others in another by one pass. -/
def Follows (e : Engine) (now later : List Errand × RunState τ) : Prop :=
  ∃ errand more rest t, now.1 = errand :: rest ∧
    (e.step errand).Course now.2 t (.ok more) later.2 ∧ later.1 = more ++ rest

omit [ActiveTime τ] in
/-- The steps that are left, and how much there is to the errands. -/
def remains (e : Engine) (now : List Errand × RunState τ) : Nat × Nat :=
  ((e.maxSteps - now.2.stepsVisited).toNat, (now.1.map Errand.weight).sum)

/-- A visit uses up a step. Any other pass leaves less to do. -/
theorem Follows.remains {now later : List Errand × RunState τ} (h : e.Follows now later) :
    Prod.Lex (· < ·) (· < ·) (e.remains later) (e.remains now) := by
  obtain ⟨errands, s⟩ := now
  obtain ⟨errands', s'⟩ := later
  obtain ⟨errand, more, rest, t, rfl, hstep, rfl⟩ := h
  let p : Pass τ := ⟨errand, s, t, .ok more, s'⟩
  have hp : e.Does p := hstep
  rcases hp.visits_cases with ⟨hstarts, hlt, -⟩ | ⟨-, hsame, hgo⟩
  · have hvisited : s'.stepsVisited = s.stepsVisited + 1 := hstarts
    have hbudget : s.stepsVisited < e.maxSteps := hlt
    refine .left _ _ ?_
    change (e.maxSteps - s'.stepsVisited).toNat < (e.maxSteps - s.stepsVisited).toNat
    omega
  · have hvisited : s'.stepsVisited = s.stepsVisited := hsame
    unfold Engine.remains
    rw [hvisited]
    refine .right _ ?_
    dsimp only
    rw [List.map_append, List.sum_append, List.map_cons, List.sum_cons]
    refine Nat.add_lt_add_right ?_ _
    cases step_cases hstep with
    | entered => exact (by decide : 2 < 3)
    | left | ended => exact Nat.one_pos
    | visited hn hb hv =>
      -- A pass at a node that goes on has visited it.
      obtain ⟨halt, hhalt⟩ := hgo _ _ _ rfl
      cases hhalt

/-- The machine cannot go on for ever, whatever it is answered. -/
theorem follows_ends (f : Nat → List Errand × RunState τ) : ∃ i, ¬e.Follows (f i) (f (i + 1)) := by
  by_contra hall
  have hwf : WellFounded (Prod.Lex (· < ·) (· < ·) : Nat × Nat → Nat × Nat → Prop) :=
    (Prod.lex Nat.lt_wfRel Nat.lt_wfRel).wf
  obtain ⟨i, hi⟩ := @WellFounded.not_rel_apply_succ _ _ ⟨hwf⟩ fun i => e.remains (f i)
  refine hall ⟨i, fun hfollows => hi hfollows.remains⟩

/-- The fuel of a walk makes no difference if it suffices for the steps that are left. -/
theorem walk_of_fuel {fuel fuel' : Nat} {next : Option String} {locals : Entries Value} {top : Bool}
    {r : Except Halt Unit} (hfuel : e.maxSteps ≤ s.stepsVisited + fuel)
    (hfuel' : e.maxSteps ≤ s.stepsVisited + fuel')
    (h : (e.walk fuel next locals top).Course s t r s') :
    (e.walk fuel' next locals top).Course s t r s' := by
  obtain ⟨w, hw⟩ := World.exists_answers [] t
  let walk : Dialogue (Except Halt Unit × RunState τ) := (e.walk fuel' next locals top).run s
  have hcourse : (e.walk fuel' next locals top).Course s (walk.lived w []).1
    (walk.lived w []).2.1 (walk.lived w []).2.2 := Dialogue.lived_course w [] walk
  have hw' : w.Answers [] (walk.lived w []).1 := Dialogue.lived_answers w [] walk
  obtain ⟨log, s₁, hp, rfl, rfl, -⟩ := walk_simulates hfuel h
  obtain ⟨log', s₂, hp', htalk, hs₂, -⟩ := walk_simulates hfuel' hcourse
  rw [← htalk] at hw' hcourse
  obtain ⟨rfl, hr, rfl⟩ := hp.unique hp' hw hw'
  rw [hr, hs₂] at hcourse
  exact hcourse

/-- In every world the machine comes to the end of its errands, and so does the walk of the segment,
with whatever fuel that suffices. -/
theorem ends_in_world (w : World) (past : List Exchange) (s : RunState τ) (start : Option String) :
    ∃ log r s', e.Passes [.go start s.context.locals true] s log r s' ∧
      w.Answers past (Pass.talk log) ∧
      ∀ fuel : Nat, e.maxSteps ≤ s.stepsVisited + fuel →
        (e.walk fuel start s.context.locals true).Course s (Pass.talk log) r
          { s' with depth := s.depth } := by
  let walk : Dialogue (Except Halt Unit × RunState τ) :=
    (e.walk (e.fuel s.stepsVisited) start s.context.locals true).run s
  have hwalks : e.Walks s start (walk.lived w past).1 (walk.lived w past).2.1
    (walk.lived w past).2.2 := Dialogue.lived_course w past walk
  have hanswers : w.Answers past (walk.lived w past).1 := Dialogue.lived_answers w past walk
  obtain ⟨log, s', hp, htalk, hs'⟩ := walks_passes hwalks
  rw [← htalk] at hwalks hanswers
  rw [hs'] at hwalks
  have hfuel : e.maxSteps ≤ s.stepsVisited + e.fuel s.stepsVisited := by
    unfold fuel
    omega
  exact ⟨log, _, s', hp, hanswers, fun fuel hfuel' => walk_of_fuel hfuel hfuel' hwalks⟩

/-! ## Walks inside the walk -/

omit [ActiveTime τ] in
/-- However a walk inside the walk ends, the depth is the old one again. -/
theorem walkNested_depth {walk : Walk τ Unit} {r : Except Halt Unit}
    (hwalk : ∀ {s s' : RunState τ} {t r}, walk.Course s t r s' → s'.depth = s.depth)
    (h : (e.walkNested walk).Course s t r s') : s'.depth = s.depth := by
  unfold walkNested at h
  rw [Walk.course_get_bind] at h
  split at h
  · obtain ⟨rfl, rfl, rfl⟩ := Walk.course_throw.mp h
    rfl
  · obtain ⟨s₁, rfl, hw⟩ := Walk.course_nested.mp h
    have hdepth : s₁.depth = s.depth + 1 := hwalk hw
    change s₁.depth - 1 = s.depth
    omega

/-- The induction is on the fuel, for all walks that begin with less of it. -/
theorem walk_depth {fuel : Nat} {next : Option String} {locals : Entries Value} {top : Bool}
    {r : Except Halt Unit} (h : (e.walk fuel next locals top).Course s t r s') :
    s'.depth = s.depth := by
  induction fuel using Nat.strongRecOn generalizing s s' t r next locals top with
  | ind fuel ih =>
  cases next with
  | none =>
    obtain ⟨rfl, rfl, rfl⟩ := walk_none_cases h
    rfl
  | some id =>
    rcases walk_some_cases h with ⟨halt, rfl, hstep⟩ | ⟨rfl, -, rfl⟩ |
      ⟨fuel, n, inner, t₁, t₂, s₁, rfl, rfl, hstep, hrest⟩
    · exact step_go_depth hstep
    · rfl
    · have hless : fuel < fuel + 1 := Nat.lt_succ_self fuel
      have hinner : ∀ {inner : List (String × Entries Value)} {s s' : RunState τ} {t r},
          Walk.Course (inner.forM fun entry =>
            e.walkNested (e.walk fuel (some entry.1) entry.2 false)) s t r s' →
          s'.depth = s.depth := by
        intro inner
        induction inner with
        | nil =>
          intro s s' t r h
          obtain ⟨rfl, rfl, rfl⟩ := Walk.course_pure.mp h
          rfl
        | cons entry inner ihinner =>
          intro s s' t r h
          rcases Walk.course_bind.mp h with ⟨halt, rfl, hw⟩ | ⟨⟨⟩, t₁, t₂, s₁, rfl, hw, hrest⟩
          · exact walkNested_depth (ih fuel hless) hw
          · exact (ihinner hrest).trans (walkNested_depth (ih fuel hless) hw)
      rw [← step_go_depth hstep]
      rcases Walk.course_bind.mp hrest with ⟨halt, rfl, hw⟩ | ⟨⟨⟩, t₃, t₄, s₂, rfl, hw, hnext⟩
      · exact hinner hw
      · exact (ih fuel hless hnext).trans (hinner hw)

omit [ActiveTime τ] in
theorem errandsAfter_leave (n : Node) (locals : Entries Value) (top : Bool)
    (inner : List (String × Entries Value)) : (errandsAfter n locals top inner).count .leave = 0 := by
  rw [List.count_eq_zero]
  unfold errandsAfter
  intro hmem
  rcases List.mem_append.mp hmem with hmem | hmem
  · obtain ⟨_, -, heq⟩ := List.mem_map.mp hmem
    cases heq
  · cases List.mem_singleton.mp hmem

/-- One pass keeps the depth within the nesting budget, and the walks that are to be left within the
depth. -/
theorem Does.nesting {p : Pass τ} {more rest : List Errand} (h : e.Does p) (hr : p.result = .ok more)
    (hleave : (p.errand :: rest).count .leave ≤ p.before.depth)
    (hdepth : p.before.depth ≤ e.maxDepth) :
    (more ++ rest).count .leave ≤ p.after.depth ∧ p.after.depth ≤ e.maxDepth ∧
      p.before.depth + Pass.entered [p] = p.after.depth + Pass.left [p] := by
  obtain ⟨errand, before, exchanges, result, after⟩ := p
  change result = _ at hr
  subst hr
  change (e.step errand).Course before exchanges (.ok more) after at h
  change (errand :: rest).count .leave ≤ before.depth at hleave
  change before.depth ≤ e.maxDepth at hdepth
  change (more ++ rest).count .leave ≤ after.depth ∧ after.depth ≤ e.maxDepth ∧
    before.depth + _ = after.depth + _
  rw [List.count_append]
  cases step_cases h with
  | entered target locals hlt =>
    have hone : [Errand.go (some target) locals false, .leave].count .leave = 1 := by simp
    rw [List.count_cons_of_ne (by simp)] at hleave
    refine ⟨?_, ?_, rfl⟩
    · change _ ≤ before.depth + 1
      omega
    · change ((before.depth + 1 : Nat) : Int) ≤ e.maxDepth
      omega
  | left =>
    -- The walk that is left is among those that the depth counts, so the depth is not zero.
    rw [List.count_cons_self] at hleave
    refine ⟨?_, ?_, ?_⟩
    · change 0 + rest.count .leave ≤ before.depth - 1
      omega
    · change ((before.depth - 1 : Nat) : Int) ≤ e.maxDepth
      omega
    · change before.depth + 0 = before.depth - 1 + 1
      omega
  | ended =>
    rw [List.count_cons_of_ne (by simp)] at hleave
    exact ⟨by simpa using hleave, hdepth, rfl⟩
  | visited hn hb hv =>
    have hsame : after.depth = before.depth := (visit_depth hv).1
    rw [List.count_cons_of_ne (by simp)] at hleave
    rw [errandsAfter_leave, hsame]
    exact ⟨by omega, hdepth, rfl⟩

/-- Around each pass there are as many walks as were begun and not left, and no more than the
nesting budget has. -/
theorem Passes.nesting {errands : List Errand} {log : List (Pass τ)} {r : Except Halt Unit}
    (h : e.Passes errands s log r s') (hleave : errands.count .leave ≤ s.depth)
    (hdepth : s.depth ≤ e.maxDepth) {pre post : List (Pass τ)} {p : Pass τ}
    (hlog : log = pre ++ p :: post) :
    s.depth + Pass.entered pre = p.before.depth + Pass.left pre ∧ p.before.depth ≤ e.maxDepth := by
  induction h generalizing pre with
  | done s => simp at hlog
  | @halted q halt rest hq hr =>
    obtain ⟨rfl, rfl⟩ : pre = [] ∧ q = p := by
      cases pre with
      | nil => exact ⟨rfl, (List.cons.inj hlog).1⟩
      | cons q' pre => simp at hlog
    exact ⟨rfl, hdepth⟩
  | @passed q more rest log r s' hq hr h ih =>
    cases pre with
    | nil =>
      obtain ⟨rfl, -⟩ := List.cons.inj hlog
      exact ⟨rfl, hdepth⟩
    | cons q' pre =>
      obtain ⟨rfl, hrest⟩ := List.cons.inj hlog
      obtain ⟨hleave', hdepth', hbalance⟩ := hq.nesting hr hleave hdepth
      obtain ⟨hbalance', hbound⟩ := ih hleave' hdepth' hrest
      refine ⟨?_, hbound⟩
      unfold Pass.entered Pass.left at *
      rw [← List.singleton_append, List.countP_append, List.countP_append]
      omega

/-! ## Budgets that are used up -/

/-- The step budget ends a run when it is used up, and only then. -/
theorem Passes.stepBudget {errands : List Errand} {log : List (Pass τ)} {limit : Int}
    (h : e.Passes errands s log (.error (.stepBudget limit)) s') :
    limit = e.maxSteps ∧ e.maxSteps ≤ s'.stepsVisited := by
  obtain ⟨pre, ⟨errand, before, exchanges, result, after⟩, -, hp, -, hr, rfl⟩ := h.halted_by
  change result = _ at hr
  subst hr
  change (e.step errand).Course before exchanges _ after at hp
  cases step_cases hp with
  | stopped locals top hn hb =>
    cases hb with
    | stepBudget hs => exact ⟨rfl, hs⟩
  | halted hn hb hv => exact (visit_halt hv).elim

/-- The segments of a run keep within the budgets. -/
structure Within (e : Engine) (story : List (Segment τ)) : Prop where
  /-- What is counted are the visits of all segments so far. -/
  counted : ∀ (pre : List (Segment τ)) (g : Segment τ) (post : _), story = pre ++ g :: post →
    g.after.stepsVisited = (Segment.visits (pre ++ [g])).length
  steps : ∀ g ∈ story, g.after.stepsVisited ≤ e.maxSteps
  /-- Around each pass there are as many walks as were begun and not left. -/
  nested : ∀ g ∈ story, ∀ pre p post, g.log = pre ++ p :: post →
    Pass.entered pre = p.before.depth + Pass.left pre ∧ p.before.depth ≤ e.maxDepth
  /-- A run that ends for want of steps has used them all. -/
  usedUp : ∀ g ∈ story, ∀ limit, g.result = .error (.stepBudget limit) →
    limit = e.maxSteps ∧ g.after.stepsVisited = e.maxSteps

theorem Chain.counted [ActiveTime.Storable τ] {start : Option String}
    {story : List (Segment τ)} (h : e.Chain s start story) (hs : s.Settled)
    {pre post : List (Segment τ)} {g : Segment τ} (hstory : story = pre ++ g :: post) :
    g.after.stepsVisited = s.stepsVisited + (Segment.visits (pre ++ [g])).length :=
  h.prefixes (F := fun s log _ s' => s'.stepsVisited = s.stepsVisited + (Pass.visits log).length)
    (fun g hg => hg.passes.visited)
    (fun {s₁ s₂ s₃ log log' r next resumeAt} suspended woken hfirst hrest => by
      have hkept : (s₂.revive suspended woken).stepsVisited = s₂.stepsVisited := rfl
      rw [Pass.visits_append, List.length_append]
      omega)
    hs hstory

theorem Story.within [ActiveTime.Storable τ] {d : Definition} {event : Event} {runId : String}
    {story : List (Segment τ)} (hwell : d.WellFormed) (hevent : event.Storable)
    (hsteps : 1 ≤ e.maxSteps) (hdepth : 1 ≤ e.maxDepth) (h : e.Story d event runId story) :
    e.Within story := by
  obtain ⟨entry, reading, -, hreading, hchain⟩ := h
  have hsettled : (e.opening d event runId reading : RunState τ).Settled :=
    opening_settled hwell hevent hreading
  have hall := hchain.all
    (J := fun s _ => s.stepsVisited ≤ e.maxSteps ∧ s.depth = 0)
    (Q := fun g => e.DoesSegment g ∧ g.before.depth = 0 ∧ g.after.stepsVisited ≤ e.maxSteps)
    (fun g hg _ hj => by
      have hvisited := hg.passes.visited_le hj.1
      exact ⟨⟨hg, hj.2, hvisited⟩, fun next resumeAt _ suspended woken => ⟨hvisited, rfl⟩⟩)
    hsettled ⟨show (0 : Int) ≤ e.maxSteps by omega, rfl⟩
  constructor
  · intro pre g post hstory
    rw [hchain.counted hsettled hstory]
    exact Int.zero_add _
  · exact fun g hg => (hall g hg).2.2
  · intro g hg pre p post hlog
    obtain ⟨hdoes, hzero, -⟩ := hall g hg
    have hnesting := hdoes.passes.nesting (by simp) (by rw [hzero]; omega) hlog
    rw [hzero, Nat.zero_add] at hnesting
    exact hnesting
  · intro g hg limit hr
    obtain ⟨hdoes, -, hle⟩ := hall g hg
    have hpasses := hdoes.passes
    rw [hr] at hpasses
    obtain ⟨rfl, hge⟩ := hpasses.stepBudget
    exact ⟨rfl, by omega⟩

/-- Every run ends within its budgets. Whatever is answered, the machine cannot go on for ever, and
the walk of each segment ends as the machine does, for any fuel that suffices. The depth is the old
one after every walk inside the walk. All segments of a run keep within the budgets. -/
theorem run_within_budgets [ActiveTime.Storable τ] {σ : Type} [Schema.Source σ] {x y : σ}
    {d : Definition} {event : Event} {runId : String} (hd : Definition.codec.read x = .ok d)
    (hvalid : d.Valid) (hevent : Event.codec.read y = .ok event) (hsteps : 1 ≤ e.maxSteps)
    (hdepth : 1 ≤ e.maxDepth) :
    (∀ f : Nat → List Errand × RunState τ, ∃ i, ¬e.Follows (f i) (f (i + 1))) ∧
    (∀ (w : World) (past : List Exchange) (s : RunState τ) (start : Option String),
      ∃ log r s', e.Passes [.go start s.context.locals true] s log r s' ∧
        w.Answers past (Pass.talk log) ∧
        ∀ fuel : Nat, e.maxSteps ≤ s.stepsVisited + fuel →
          (e.walk fuel start s.context.locals true).Course s (Pass.talk log) r
            { s' with depth := s.depth }) ∧
    (∀ (fuel : Nat) (target : String) (locals : Entries Value) (s : RunState τ) t r s',
      (e.walkNested (e.walk fuel (some target) locals false)).Course s t r s' →
        s'.depth = s.depth) ∧
    (∀ t results, e.OnCalendar t → e.Stored (e.run d event runId) t results →
      ∃ story : List (Segment τ), e.Story d event runId story ∧
        List.Forall₂ Segment.Tells story results ∧ Exchange.deeds t = Segment.deeds story) ∧
    ∀ story : List (Segment τ), e.Story d event runId story → e.Within story := by
  have hwell := Definition.codec_ensures.of_read x d hd
  have hstorable := Event.codec_ensures.of_read y event hevent
  exact ⟨follows_ends, ends_in_world, fun fuel target locals s t r s' h =>
    walkNested_depth walk_depth h, fun t results ht h => stored_story hwell hvalid hstorable ht h,
    fun story hstory => hstory.within hwell hstorable hsteps hdepth⟩

/-- A pause that comes after itself, in a run of three steps. -/
theorem pauseBefore_within_budgets :
    let e : Engine := { alone with maxSteps := 3 }
    let d := Definition.pauseBefore "wait"
    Definition.codec.read (Definition.codec.write .wire d) = .ok d ∧ d.Valid ∧
      Event.codec.read (Event.codec.write .wire .manual) = .ok .manual ∧ 1 ≤ e.maxSteps ∧
      1 ≤ e.maxDepth ∧
      ∃ g : Segment Float, e.Story d .manual "run-1" [g] ∧ e.Within [g] ∧
        g.result = .error (.stepBudget 3) ∧ g.after.stepsVisited = 3 := by
  intro e d
  have hread : Definition.codec.read (Definition.codec.write .wire d) = .ok d :=
    (Definition.codec_restores (pauseBefore_wellFormed "wait")).read
  have hvalid : d.Valid := by decide +kernel
  have hevent : Event.codec.read (Event.codec.write .wire .manual) = .ok .manual :=
    (Event.codec_restores (by rintro _ ⟨⟩)).read
  let s : RunState Float := e.opening d .manual "run-1" 0
  have hplayed : (e.play Dialogue.still 4 [.go (some "wait") [] true] s).map (·.2.1)
      = some (.error (.stepBudget 3)) := by
    decide +kernel
  obtain ⟨⟨log, r, s'⟩, hplay, rfl⟩ := Option.map_eq_some_iff.mp hplayed
  have hentry : d.entry? = some _ := rfl
  have hstory := Story.of_play hentry (show Dialogue.still .clock = (0 : Nat) from rfl) (by decide)
    hplay
  have hwithin := (run_within_budgets (τ := Float) (e := e) hread hvalid hevent (by decide)
    (by decide)).2.2.2.2 _ hstory
  exact ⟨hread, hvalid, hevent, by decide, by decide, _, hstory, hwithin, rfl,
    (hwithin.usedUp _ (List.mem_singleton_self _) 3 rfl).2⟩

end Engine

end Automation
