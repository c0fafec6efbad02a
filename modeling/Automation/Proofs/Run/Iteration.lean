import Automation.Proofs.Run.Rounds

/-!
# Names of iterations

A visit inside loops is named by the path of its iteration, a text that each loop puts together from that
of the loop around it. Where a visit is can also be told without the locals, from the passes of its segment
alone: the walks that a loop begins are its iterations, counted from zero, and whatever else a pass leads to
is where the pass is. The two agree, so the visits of a node have the same path, and their writes the same
key, exactly if they are in iterations of the same indices.
-/

namespace Automation

variable {τ : Type} {e : Engine} {s s' : RunState τ} {t : List Exchange}

/-! ## Places of passes -/

/-- A node that is a loop. -/
def Node.loops (n : Node) : Bool :=
  match n.work with
  | .loop _ => true
  | _ => false

/-- An errand that is at a loop of a definition. -/
def Errand.loops (d : Definition) : Errand → Bool
  | .go (some id) _ _ => (d.node? id).any Node.loops
  | _ => false

/-- An errand that begins a walk inside the walk. -/
def Errand.enters : Errand → Bool
  | .enter _ _ => true
  | _ => false

/-- Where an errand is that comes at an index of those that an errand at a place leads to. The walks that
a loop begins are its iterations, counted from zero; everything else is where it comes from. -/
def Errand.placeOf (d : Definition) (errand : Errand) (place : List Nat) (index : Nat)
    (next : Errand) : List Nat :=
  if errand.loops d && next.enters then place ++ [index] else place

/-- The places of the errands that a pass at a place leads to. -/
def Pass.placesAfter (d : Definition) (p : Pass τ) (place : List Nat) : List (List Nat) :=
  match p.result with
  | .error _ => []
  | .ok more => more.mapIdx (p.errand.placeOf d place)

/-- Some passes with their places, if those of the errands at first are given. -/
def Pass.located (d : Definition) : List (List Nat) → List (Pass τ) → List (Pass τ × List Nat)
  | place :: rest, p :: log => (p, place) :: located d (p.placesAfter d place ++ rest) log
  | _, _ => []

/-- The passes of a segment with their places. A segment begins outside all loops. -/
def Segment.located (d : Definition) (g : Segment τ) : List (Pass τ × List Nat) :=
  Pass.located d [[]] g.log

/-! ## Locals of places -/

/-- An errand whose locals are those of a place. -/
def Errand.At (place : List Nat) (errand : Errand) : Prop :=
  ∀ locals ∈ errand.locals?, Around place locals

namespace Engine

/-- The walks inside a loop have the locals of its iterations, and those inside another node have its
own. -/
theorem proceed_at {n : Node} {c : Context} {top : Bool} {started : Nat} {place : List Nat}
    {inner : List (String × Entries Value)} (hc : Around place c.locals)
    (h : e.proceed n c top started = .ok inner) (i : Nat) (hi : i < inner.length) :
    Around (if n.loops then place ++ [i] else place) inner[i].2 := by
  unfold proceed at h
  unfold Node.loops
  split at h
  · obtain rfl := Except.ok.inj h
    cases hi
  · rename_i b hwork
    obtain rfl := Except.ok.inj h
    simpa [hwork] using hc
  · rename_i l hwork
    obtain rfl := Except.ok.inj h
    simpa [hwork, loopLocals] using hc.inside i _
  · obtain ⟨_, -, rfl⟩ := Except.map_eq_ok.mp h
    cases hi

variable [ActiveTime τ] {d : Definition}

/-- What an errand leads to has the locals of its place, if the errand has those of its own. -/
theorem step_at {errand : Errand} {place : List Nat} {more : List Errand} (hw : s.workflow = d)
    (hat : errand.At place) (h : (e.step errand).Course s t (.ok more) s') (i : Nat)
    (hi : i < more.length) : more[i].At (errand.placeOf d place i more[i]) := by
  subst hw
  cases step_cases h with
  | left | ended => cases hi
  | entered target locals hd =>
    have hall : ∀ x ∈ [Errand.go (some target) locals false, .leave], x.At place :=
      List.forall_mem_cons.mpr ⟨hat, List.forall_mem_singleton.mpr nofun⟩
    exact hall _ (List.getElem_mem hi)
  | @visited id n locals top t₁ t₂ inner s' hn hb hv =>
    obtain ⟨started, hproceed⟩ := visit_inner hv
    have haround : Around place locals := hat locals rfl
    have hloops : (Errand.go (some id) locals top).loops s.workflow = n.loops := by
      simp [Errand.loops, hn]
    unfold Errand.placeOf
    rw [hloops]
    -- The walks inside the node come first, and then the walk from the next one.
    by_cases hinner : i < inner.length
    · have hnext : (errandsAfter n locals top inner)[i] = .enter inner[i].1 inner[i].2 := by
        simp [errandsAfter, hinner]
      rw [hnext]
      rintro locals' ⟨⟩
      simpa [Errand.enters] using proceed_at haround hproceed i hinner
    · have hlast : i = inner.length := by
        simp only [errandsAfter, List.length_append, List.length_map, List.length_singleton] at hi
        omega
      subst hlast
      have hnext : (errandsAfter n locals top inner)[inner.length] = .go n.nextAction locals top := by
        simp [errandsAfter]
      rw [hnext]
      rintro locals' ⟨⟩
      simpa [Errand.enters] using haround

theorem Does.placesAfter {p : Pass τ} {place : List Nat} {more : List Errand} (h : e.Does p)
    (hw : p.before.workflow = d) (hat : p.errand.At place) (hr : p.result = .ok more) :
    List.Forall₂ Errand.At (p.placesAfter d place) more := by
  unfold Does at h
  rw [hr] at h
  rw [Pass.placesAfter, hr]
  refine List.forall₂_iff_get.mpr ⟨List.length_mapIdx, fun i _ hi => ?_⟩
  simpa using step_at hw hat h i hi

/-- Each pass has a place, and its errand has the locals of this place. -/
theorem Passes.located {errands : List Errand} {places : List (List Nat)} {log : List (Pass τ)}
    {r : Except Halt Unit} (h : e.Passes errands s log r s') (hw : s.workflow = d)
    (hat : List.Forall₂ Errand.At places errands) :
    (Pass.located d places log).map Prod.fst = log ∧
      ∀ x ∈ Pass.located d places log, x.1.errand.At x.2 := by
  -- The places go along with the errands: those of what a pass leads to come before the others.
  induction h generalizing places with
  | done s => simp [Pass.located]
  | @halted p halt rest hp hr =>
    obtain ⟨place, places, hfirst, -, rfl⟩ := List.forall₂_cons_right_iff.mp hat
    simpa [Pass.located] using hfirst
  | @passed p more rest log r s' hp hr h ih =>
    obtain ⟨place, places, hfirst, hrest, rfl⟩ := List.forall₂_cons_right_iff.mp hat
    have hmore := hp.placesAfter hw hfirst hr
    obtain ⟨hpasses, hplaces⟩ :=
      ih ((step_continues hp).workflow.trans hw) (List.rel_append hmore hrest)
    rw [Pass.located, List.map_cons, hpasses]
    exact ⟨rfl, List.forall_mem_cons.mpr ⟨hfirst, hplaces⟩⟩

theorem DoesSegment.located {g : Segment τ} (hg : e.DoesSegment g) (hs : g.before.Settled)
    (hw : g.before.workflow = d) :
    (g.located d).map Prod.fst = g.log ∧ ∀ x ∈ g.located d, x.1.errand.At x.2 := by
  have hstart : (Errand.go g.start g.before.context.locals true).At [] := by
    rintro locals ⟨⟩
    rw [hs.locals]
    exact .outside
  exact hg.passes.located hw (.cons hstart .nil)

end Engine

/-! ## Paths and keys of visits -/

theorem Around.iteration_eq_iff {place place' : List Nat} {locals locals' : Entries Value}
    (h : Around place locals) (h' : Around place' locals') :
    locals.get? "_iteration" = locals'.get? "_iteration" ↔ place = place' := by
  rw [h.iteration, h'.iteration]
  by_cases hplace : place = [] <;> by_cases hplace' : place' = []
  · simp [hplace, hplace']
  · simp [hplace, hplace', eq_comm]
  · simp [hplace, hplace']
  · simp only [hplace, hplace', if_false, Option.some.injEq, Value.text.injEq]
    exact ⟨Spot.placeText_injective hplace hplace', congrArg Spot.placeText⟩

/-- A spot does not shadow another at its own node: its id is not longer than itself. -/
theorem Spot.not_shadows {node : String} {place place' : List Nat} :
    ¬(Spot.mk node place).Shadows ⟨node, place'⟩ := by
  rintro ⟨-, -, heq⟩
  have hchars := congrArg String.toList heq
  simp [String.append_assoc] at hchars

theorem Spot.key_same_node (runId node : String) (place place' : List Nat) :
    key runId ⟨node, place⟩ = key runId ⟨node, place'⟩ ↔ place = place' := by
  rw [key_eq_iff]
  constructor
  · rintro (h | h | h)
    · exact congrArg Spot.place h
    · exact absurd h not_shadows
    · exact absurd h not_shadows
  · rintro rfl
    exact .inl rfl

/-- A pass of a segment is at a node, in the iterations of a place and with some locals. -/
structure Segment.Visits (d : Definition) (g : Segment τ) (p : Pass τ) (id : String) (place : List Nat)
    (locals : Entries Value) : Prop where
  located : (p, place) ∈ g.located d
  errand : ∃ top, p.errand = .go (some id) locals top

/-- The key of the writes of a pass that is at a node with some locals. -/
def Pass.key (p : Pass τ) (id : String) (locals : Entries Value) : String :=
  { p.before.context with locals }.idempotencyKey id

namespace Engine

variable [ActiveTime τ] [ActiveTime.Storable τ] {d : Definition} {event : Event} {runId : String}
  {story : List (Segment τ)}

theorem Story.located (hwell : d.WellFormed) (hevent : event.Storable)
    (h : e.Story d event runId story) : ∀ g ∈ story,
      (g.located d).map Prod.fst = g.log ∧ ∀ x ∈ g.located d, x.1.errand.At x.2 := by
  intro g hg
  obtain ⟨hdoes, hw, -⟩ := h.endsLast hwell hevent g hg
  exact hdoes.located (h.settled hwell hevent g hg) hw

/-- What a visit in a story has: the locals of its place, and with them the key of its spot. -/
theorem Story.visits (hwell : d.WellFormed) (hevent : event.Storable)
    (h : e.Story d event runId story) {g : Segment τ} (hg : g ∈ story) {p : Pass τ} {id : String}
    {place : List Nat} {locals : Entries Value} (hv : g.Visits d p id place locals) :
    Around place locals ∧ p.key id locals = Spot.key runId ⟨id, place⟩ ∧
      ∀ key ∈ p.writeKeys, key = p.key id locals := by
  obtain ⟨hlog, hat⟩ := h.located hwell hevent g hg
  obtain ⟨top, herrand⟩ := hv.errand
  have hp : p ∈ g.log := hlog ▸ List.mem_map_of_mem hv.located
  obtain ⟨hdoes, hrun, -⟩ := story_placed hwell hevent h g hg p hp
  have haround : Around place locals := hat _ hv.located locals (by rw [herrand]; rfl)
  refine ⟨haround, ?_, fun key hkey => ?_⟩
  · exact Around.idempotencyKey (c := { p.before.context with locals }) haround hrun id
  · obtain ⟨id', locals', top', herrand', rfl⟩ := hdoes.writeKey hkey
    rw [herrand] at herrand'
    cases herrand'
    rfl

/-- In every run, in all of its segments, two visits of a node have the same iteration path exactly if
they are in iterations of the same indices, the outermost first, and just then all their writes carry one
key. A visit outside all loops never has the key of one inside. A run of a definition with problems visits
nothing. -/
theorem iterations_named {σ : Type} [Schema.Source σ] {x y : σ}
    (hd : Definition.codec.read x = .ok d) (hevent : Event.codec.read y = .ok event) :
    (∀ t (results : List (Except Escape (RunResult τ))), e.OnCalendar t →
      e.Stored (e.run d event runId) t results →
      (∃ story : List (Segment τ), e.Story d event runId story ∧
        List.Forall₂ Segment.Tells story results ∧ Exchange.deeds t = Segment.deeds story) ∨
      ∀ told, .ok told ∈ results → told.stepResults = []) ∧
    ∀ story : List (Segment τ), e.Story d event runId story →
      (∀ g ∈ story, (g.located d).map Prod.fst = g.log) ∧
      ∀ g ∈ story, ∀ g' ∈ story, ∀ p p' id place place' locals locals',
        g.Visits d p id place locals → g'.Visits d p' id place' locals' →
        (locals.get? "_iteration" = locals'.get? "_iteration" ↔ place = place') ∧
        (p.key id locals = p'.key id locals' ↔ place = place') ∧
        (place = [] → place' ≠ [] → p.key id locals ≠ p'.key id locals') ∧
        ∀ key ∈ p.writeKeys, key = p.key id locals := by
  have hwell := Definition.codec_ensures.of_read x d hd
  have hstorable := Event.codec_ensures.of_read y event hevent
  refine ⟨fun t results ht h => ?_, fun story hstory => ⟨fun g hg => ?_, ?_⟩⟩
  · by_cases hvalid : d.Valid
    · exact .inl (stored_story hwell hvalid hstorable ht h)
    · exact .inr (stored_invalid hvalid h)
  · exact (hstory.located hwell hstorable g hg).1
  · intro g hg g' hg' p p' id place place' locals locals' hv hv'
    obtain ⟨haround, hkey, hwrites⟩ := hstory.visits hwell hstorable hg hv
    obtain ⟨haround', hkey', -⟩ := hstory.visits hwell hstorable hg' hv'
    have hsame : p.key id locals = p'.key id locals' ↔ place = place' := by
      rw [hkey, hkey']
      exact Spot.key_same_node runId id place place'
    refine ⟨haround.iteration_eq_iff haround', hsame, ?_, hwrites⟩
    rintro rfl hinside heq
    exact hinside (hsame.mp heq).symm

/-- The two elements of the second team have paths and keys of their own. -/
theorem teams_named :
    let d := Definition.teams "item"
    let event := Event.twoTeams
    Definition.codec.read (Definition.codec.write .wire d) = .ok d ∧
      Event.codec.read (Event.codec.write .wire event) = .ok event ∧
      ∃ (g : Segment Float) (p p' : Pass Float) (locals locals' : Entries Value),
        alone.Story d event "run-1" [g] ∧
        g.Visits d p "note" [1, 0] locals ∧ g.Visits d p' "note" [1, 1] locals' ∧
        p.writeKeys = ["run-1:note:1.0"] ∧ p'.writeKeys = ["run-1:note:1.1"] ∧
        locals.get? "_iteration" ≠ locals'.get? "_iteration" ∧
        p.key "note" locals ≠ p'.key "note" locals' := by
  intro d event
  have hread : Definition.codec.read (Definition.codec.write .wire d) = .ok d :=
    (Definition.codec_restores (Definition.teams_wellFormed "item")).read
  have hevent : Event.codec.read (Event.codec.write .wire event) = .ok event :=
    (Event.codec_restores (by rintro _ ⟨⟩)).read
  let second := iterationLocals [] 1 (.texts ["Bob", "Eve"])
  let bob := iterationLocals second 0 (.text "Bob")
  let eve := iterationLocals second 1 (.text "Eve")
  have hplayed : (alone.play Dialogue.granting 40 [.go (some "each") [] true]
      (alone.opening d event "run-1" 0 : RunState Float)).map
      (fun (log, _) => [13, 17].map fun i =>
        ((Pass.located d [[]] log)[i]?).map fun (p, place) => (p.errand, place, p.writeKeys))
      = some [some (.go (some "note") bob false, [1, 0], ["run-1:note:1.0"]),
          some (.go (some "note") eve false, [1, 1], ["run-1:note:1.1"])] := by
    decide +kernel
  obtain ⟨⟨log, r, s'⟩, hplay, heq⟩ := Option.map_eq_some_iff.mp hplayed
  obtain ⟨hbob, hrest⟩ := List.cons.inj heq
  obtain ⟨heve, -⟩ := List.cons.inj hrest
  obtain ⟨⟨p, place⟩, hp, hpeq⟩ := Option.map_eq_some_iff.mp hbob
  obtain ⟨⟨p', place'⟩, hp', hpeq'⟩ := Option.map_eq_some_iff.mp heve
  obtain ⟨herrand, rfl, hkeys⟩ : p.errand = _ ∧ place = _ ∧ p.writeKeys = _ := by
    simpa using hpeq
  obtain ⟨herrand', rfl, hkeys'⟩ : p'.errand = _ ∧ place' = _ ∧ p'.writeKeys = _ := by
    simpa using hpeq'
  have hclock : Dialogue.granting .clock = (0 : Nat) := rfl
  have hentry : d.entry? = some _ := rfl
  have hstory := Story.of_play hentry hclock (by decide) hplay
  let g : Segment Float := ⟨some "each", alone.opening d event "run-1" 0, log, r, s'⟩
  have hv : g.Visits d p "note" [1, 0] bob := ⟨List.mem_of_getElem? hp, false, herrand⟩
  have hv' : g.Visits d p' "note" [1, 1] eve := ⟨List.mem_of_getElem? hp', false, herrand'⟩
  obtain ⟨-, hnamed⟩ := (iterations_named (e := alone) (τ := Float) hread hevent).2 _ hstory
  obtain ⟨hpath, hkey, -⟩ :=
    hnamed g (List.mem_singleton_self g) g (List.mem_singleton_self g) p p' _ _ _ _ _ hv hv'
  have hne : [1, 0] ≠ [1, 1] := by decide
  exact ⟨hread, hevent, g, p, p', bob, eve, hstory, hv, hv', hkeys, hkeys', fun h => hne (hpath.mp h),
    fun h => hne (hkey.mp h)⟩

end Engine

end Automation
