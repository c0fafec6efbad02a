import Automation.Proofs.Run.Suspension

/-!
# Stories

The story of a run is what the machine does in all of its segments, each restored from what was
stored at the end of the one before. Every run that is stored at its suspensions has a story with
the same exchanges, so what holds of all stories holds of all runs.
-/

namespace Automation

variable {τ : Type} [ActiveTime τ] {e : Engine} {s s' : RunState τ} {t : List Exchange}

/-! ## Invariants of passes -/

/-- What holds of the errands at first and of all that any of them leads to holds of all that are
done, in states of which something holds. -/
theorem Engine.Passes.all {I : RunState τ → Prop} {P : Errand → Prop} {errands : List Errand}
    {log : List (Pass τ)} {r : Except Halt Unit}
    (hstep : ∀ p : Pass τ, e.Does p → I p.before → P p.errand →
      I p.after ∧ ∀ more, p.result = .ok more → ∀ x ∈ more, P x)
    (h : e.Passes errands s log r s') (hs : I s) (herrands : ∀ x ∈ errands, P x) :
    I s' ∧ ∀ p ∈ log, I p.before ∧ P p.errand := by
  induction h with
  | done s => exact ⟨hs, fun _ hp => absurd hp List.not_mem_nil⟩
  | @halted p halt rest hp hr =>
    have hfirst := herrands p.errand List.mem_cons_self
    refine ⟨(hstep p hp hs hfirst).1, fun q hq => ?_⟩
    obtain rfl := List.mem_singleton.mp hq
    exact ⟨hs, hfirst⟩
  | @passed p more rest log r s' hp hr h ih =>
    have hfirst := herrands p.errand List.mem_cons_self
    obtain ⟨hafter, hmore⟩ := hstep p hp hs hfirst
    obtain ⟨hend, hlog⟩ := ih hafter fun x hx => by
      rcases List.mem_append.mp hx with hx | hx
      · exact hmore more hr x hx
      · exact herrands x (List.mem_cons_of_mem _ hx)
    exact ⟨hend, List.forall_mem_cons.mpr ⟨⟨hs, hfirst⟩, hlog⟩⟩

/-- In a run of one definition, what errands are at first and lead to from step to step is what all of
them are. -/
theorem Engine.Passes.all_errands {d : Definition} {P : Errand → Prop} {errands : List Errand}
    {log : List (Pass τ)} {r : Except Halt Unit}
    (hstep : ∀ {s s' : RunState τ} {t errand more}, s.workflow = d → P errand →
      (e.step errand).Course s t (.ok more) s' → ∀ x ∈ more, P x)
    (h : e.Passes errands s log r s') (hw : s.workflow = d) (herrands : ∀ x ∈ errands, P x) :
    s'.workflow = d ∧ ∀ p ∈ log, p.before.workflow = d ∧ P p.errand := by
  refine h.all (I := (·.workflow = d)) (fun p hp hbefore herrand => ?_) hw herrands
  refine ⟨(step_continues hp).workflow.trans hbefore, fun more hr => ?_⟩
  unfold Does at hp
  rw [hr] at hp
  exact hstep hbefore herrand hp

/-! ## Segments of stories -/

/-- A segment as the machine does it. -/
structure Segment (τ : Type) where
  start : Option String
  before : RunState τ
  log : List (Pass τ)
  result : Except Halt Unit
  after : RunState τ

namespace Engine

/-- The machine can do a segment. -/
structure DoesSegment (e : Engine) (g : Segment τ) : Prop where
  passes : e.Passes [.go g.start g.before.context.locals true] g.before g.log g.result g.after
  onCalendar : e.OnCalendar (Pass.talk g.log)

/-- The segments of a run that goes on in a state at a node. Each after the first is restored from
the continuation that was stored at the end of the one before. -/
inductive Chain (e : Engine) : RunState τ → Option String → List (Segment τ) → Prop where
  | last {g : Segment τ} (hg : e.DoesSegment g) : Chain e g.before g.start [g]
  | resumed {g : Segment τ} {more : List (Segment τ)} {s' : RunState τ} {c : Continuation τ}
      {next : Option String} {resumeAt : Time.Stamp} {suspended woken : Nat}
      (hg : e.DoesSegment g) (hr : g.result = .error (.suspended next resumeAt))
      (hc : (continuationOf g.after next resumeAt suspended).reload = .ok c)
      (hs : restore c woken = .ok s') (hmore : Chain e s' c.resumeNode more) :
      Chain e g.before g.start (g :: more)

/-- The state that is restored is the one that was stored. -/
theorem DoesSegment.restored [ActiveTime.Storable τ] {g : Segment τ} {c : Continuation τ}
    {next : Option String} {resumeAt : Time.Stamp} {suspended woken : Nat}
    (hg : e.DoesSegment g) (hsettled : g.before.Settled)
    (hr : g.result = .error (.suspended next resumeAt))
    (hc : (continuationOf g.after next resumeAt suspended).reload = .ok c)
    (hs : restore c woken = .ok s') :
    s' = g.after.revive suspended woken ∧ s'.Settled ∧ c.resumeNode = next := by
  have hpasses := hr ▸ hg.passes
  have hafter := hpasses.settled hsettled hg.onCalendar
  have hreload : (continuationOf g.after next resumeAt suspended).reload
      = .ok (continuationOf g.after next resumeAt suspended) :=
    reload_continuationOf hafter.startedAt hpasses.suspended.1
  obtain rfl := Schema.Checked.ok.inj (hreload.symm.trans hc)
  have hrestore : restore (continuationOf g.after next resumeAt suspended) woken
      = .ok (g.after.revive suspended woken) :=
    restore_continuationOf hafter.toStorable hafter.locals
  obtain rfl := Except.ok.inj (hrestore.symm.trans hs)
  exact ⟨rfl, hafter.revive suspended woken, rfl⟩

/-- What holds where a chain begins, and after each segment that ends in a suspension, holds where
each segment begins, and what it entails of each segment holds of all. -/
theorem Chain.all [ActiveTime.Storable τ] {J : RunState τ → Option String → Prop}
    {Q : Segment τ → Prop} {start : Option String} {story : List (Segment τ)}
    (hsegment : ∀ g : Segment τ, e.DoesSegment g → g.before.Settled → J g.before g.start →
      Q g ∧ ∀ next resumeAt, g.result = .error (.suspended next resumeAt) →
        ∀ suspended woken, J (g.after.revive suspended woken) next)
    (h : e.Chain s start story) (hs : s.Settled) (hj : J s start) : ∀ g ∈ story, Q g := by
  induction h with
  | last hg =>
    intro g' hg'
    obtain rfl := List.mem_singleton.mp hg'
    exact (hsegment _ hg hs hj).1
  | @resumed g more s' c next resumeAt suspended woken hg hr hc hrestore hmore ih =>
    obtain ⟨hq, hnext⟩ := hsegment g hg hs hj
    obtain ⟨rfl, hsettled, rfl⟩ := hg.restored hs hr hc hrestore
    exact List.forall_mem_cons.mpr ⟨hq, ih hsettled (hnext _ _ hr suspended woken)⟩

/-- What holds of each segment, and of two parts of a chain together if it holds of each, holds of a
chain up to the end of any of its segments. -/
theorem Chain.prefixes [ActiveTime.Storable τ]
    {F : RunState τ → List (Pass τ) → Except Halt Unit → RunState τ → Prop}
    {start : Option String} {story : List (Segment τ)}
    (hsegment : ∀ g : Segment τ, e.DoesSegment g → F g.before g.log g.result g.after)
    (hjoin : ∀ {s₁ s₂ s₃ : RunState τ} {log log' : List (Pass τ)} {r next resumeAt}
      (suspended woken : Nat), F s₁ log (.error (.suspended next resumeAt)) s₂ →
      F (s₂.revive suspended woken) log' r s₃ → F s₁ (log ++ log') r s₃)
    (h : e.Chain s start story) (hs : s.Settled) {pre post : List (Segment τ)} {g : Segment τ}
    (hstory : story = pre ++ g :: post) :
    F s ((pre ++ [g]).flatMap (·.log)) g.result g.after := by
  induction h generalizing pre with
  | @last g' hg' =>
    obtain ⟨rfl, rfl⟩ : pre = [] ∧ g' = g := by
      cases pre with
      | nil => exact ⟨rfl, (List.cons.inj hstory).1⟩
      | cons g'' pre => simp at hstory
    simpa using hsegment g' hg'
  | @resumed g' more s' c next resumeAt suspended woken hg' hr hc hrestore hmore ih =>
    have hfirst := hsegment g' hg'
    cases pre with
    | nil =>
      obtain ⟨rfl, -⟩ := List.cons.inj hstory
      simpa using hfirst
    | cons g'' pre =>
      -- The rest of the chain begins in what is restored of the end of the first segment.
      obtain ⟨rfl, hrest⟩ := List.cons.inj hstory
      obtain ⟨rfl, hsettled, -⟩ := hg'.restored hs hr hc hrestore
      rw [hr] at hfirst
      rw [List.cons_append, List.flatMap_cons]
      exact hjoin suspended woken hfirst (ih hsettled hrest)

/-- The story of a run of a definition. -/
def Story (e : Engine) (d : Definition) (event : Event) (runId : String)
    (story : List (Segment τ)) : Prop :=
  ∃ (entry : Node) (reading : Nat), d.entry? = some entry ∧
    Time.Stamp.InCalendar (e.stamp reading).wall ∧
    e.Chain (e.opening d event runId reading) (some entry.id) story

/-- What is played from the opening of a run is a story of it, in a world whose clock stands. -/
theorem Story.of_play {world : (r : Request) → r.Answer} {count reading : Nat} {d : Definition}
    {event : Event} {runId : String} {entry : Node} {log : List (Pass τ)} {r : Except Halt Unit}
    (hentry : d.entry? = some entry) (hclock : world .clock = reading)
    (hreading : Time.Stamp.InCalendar (e.stamp reading).wall)
    (hplay : e.play world count [.go (some entry.id) [] true] (e.opening d event runId reading)
      = some (log, r, s')) :
    e.Story d event runId [⟨some entry.id, e.opening d event runId reading, log, r, s'⟩] := by
  obtain ⟨hpasses, htalk⟩ := play_passes hplay
  have hcalendar := OnCalendar.of_world hclock hreading htalk
  let g : Segment τ := ⟨some entry.id, e.opening d event runId reading, log, r, s'⟩
  exact ⟨entry, reading, hentry, hreading, .last (g := g) ⟨hpasses, hcalendar⟩⟩

end Engine

/-! ## Every run has a story -/

/-- The exchanges that do something: the readings of the clock are left out. -/
def Exchange.deeds (t : List Exchange) : List Exchange :=
  t.filter fun x => match x.request with
    | .clock => false
    | _ => true

theorem Exchange.deeds_append (t₁ t₂ : List Exchange) :
    Exchange.deeds (t₁ ++ t₂) = Exchange.deeds t₁ ++ Exchange.deeds t₂ :=
  List.filter_append t₁ t₂

theorem Exchange.deeds_clock (reading : Nat) (t : List Exchange) :
    Exchange.deeds (⟨.clock, reading⟩ :: t) = Exchange.deeds t := rfl

namespace Segment

/-- How the run stands at the end of a segment, and the error that is told. -/
def verdict (g : Segment τ) : RunStatus × Option String :=
  match g.result with
  | .ok _ => (.success, none)
  | .error (.suspended _ _) => (.suspended, none)
  | .error halt => (.failed, some halt.message)

/-- What is told of a segment. -/
def Tells (g : Segment τ) (result : Except Escape (RunResult τ)) : Prop :=
  ∃ told, result = .ok told ∧ told.stepResults = g.after.stepResults ∧
    (told.status, told.error) = g.verdict

/-- The exchanges of some segments that do something. -/
def deeds (story : List (Segment τ)) : List Exchange :=
  story.flatMap fun g => Exchange.deeds (Pass.talk g.log)

end Segment

namespace Engine

variable {start : Option String} {result : Except Escape (RunResult τ)} {held : Option (Held τ)}

/-- A walk that is closed with the verdict on it is told of what the machine does. -/
theorem walks_segment {r : Except Halt Unit} (hw : e.Walks s start t r s') (hs : s.Settled)
    (ht : e.OnCalendar t) :
    ∃ g : Segment τ, e.DoesSegment g ∧ g.start = start ∧ g.before = s ∧ g.result = r ∧
      Pass.talk g.log = t ∧ s' = { g.after with depth := s.depth } ∧
      ∀ {status error continuation t'}, (status, error) = g.verdict →
        (e.close s' status error continuation).Course t' result →
          g.Tells result ∧ Exchange.deeds t' = [] := by
  have hsettled := walks_settled hw hs ht
  obtain ⟨log, s₁, hp, rfl, rfl⟩ := walks_passes hw
  refine ⟨⟨start, s, log, r, s₁⟩, ⟨hp, ht⟩, rfl, rfl, rfl, rfl, rfl, fun hverdict hc => ?_⟩
  obtain ⟨reading, told, rfl, hresult, -, hstatus, herror, hsteps⟩ :=
    close_result hsettled.offset hc
  exact ⟨⟨told, hresult, hsteps, by rw [hstatus, herror, hverdict]⟩, rfl⟩

/-- What a segment comes to is told of what the machine does. The exchanges after its passes are
readings of the clock, the first of them that of the suspension if there is one. -/
theorem Goes.segment (h : e.Goes s start t result held) (hs : s.Settled) (ht : e.OnCalendar t) :
    ∃ (g : Segment τ) (closing : List Exchange), e.DoesSegment g ∧ g.start = start ∧
      g.before = s ∧ g.Tells result ∧ t = Pass.talk g.log ++ closing ∧
      Exchange.deeds closing = [] ∧
      ∀ h ∈ held, g.result = .error (.suspended h.next h.resumeAt) ∧
        h.state = { g.after with depth := s.depth } ∧
        ∃ rest, closing = ⟨.clock, h.suspended⟩ :: rest := by
  cases h with
  | @finished _ _ t' _ hw hc =>
    obtain ⟨g, hg, hstart, hbefore, hr, rfl, -, hclose⟩ := walks_segment hw hs ht.left
    obtain ⟨htells, hclock⟩ := hclose (by rw [Segment.verdict, hr]) hc
    exact ⟨g, t', hg, hstart, hbefore, htells, rfl, hclock, by rintro _ ⟨⟩⟩
  | @failed s' t t' _ halt hw hne hc =>
    obtain ⟨g, hg, hstart, hbefore, hr, rfl, -, hclose⟩ := walks_segment hw hs ht.left
    have hverdict : (RunStatus.failed, some halt.message) = g.verdict := by
      rw [Segment.verdict, hr]
      cases halt with
      | suspended next resumeAt => exact absurd rfl (hne next resumeAt)
      | _ => rfl
    obtain ⟨htells, hclock⟩ := hclose hverdict hc
    exact ⟨g, t', hg, hstart, hbefore, htells, rfl, hclock, by rintro _ ⟨⟩⟩
  | @suspended h t t' _ hw hc =>
    obtain ⟨g, hg, hstart, hbefore, hr, rfl, hstate, hclose⟩ := walks_segment hw hs ht.left
    obtain ⟨htells, hclock⟩ := hclose (by rw [Segment.verdict, hr]) hc
    refine ⟨g, _, hg, hstart, hbefore, htells, rfl, hclock, ?_⟩
    rintro _ ⟨⟩
    exact ⟨hr, hstate, t', rfl⟩

/-- A chain goes on from what was held of a segment. Nothing of the depth is stored, so the machine,
which stops inside, leaves the same as the walk. -/
theorem Chain.of_held [ActiveTime.Storable τ] {g : Segment τ} {more : List (Segment τ)}
    {held : Held τ} {woken depth : Nat} (hg : e.DoesSegment g)
    (hr : g.result = .error (.suspended held.next held.resumeAt))
    (hstate : held.state = { g.after with depth }) (hs : held.state.Settled)
    (hresume : held.resumeAt.Storable) (hmore : e.Chain (held.revive woken) held.next more) :
    e.Chain g.before g.start (g :: more) := by
  have hsame : held.continuation.reload = .ok held.continuation :=
    reload_continuationOf hs.startedAt hresume
  have hrestored : restore held.continuation woken = .ok (held.revive woken) :=
    restore_continuationOf hs.toStorable hs.locals
  have hcontinuation : held.continuation
      = continuationOf g.after held.next held.resumeAt held.suspended := by
    rw [Held.continuation, hstate]
    rfl
  rw [hcontinuation] at hsame hrestored
  exact .resumed hg hr hsame hrestored hmore

/-- A run that is stored at its suspensions does what a chain of segments does. The induction is on
the results, one for each segment. -/
theorem stored_chain [ActiveTime.Storable τ] {results : List (Except Escape (RunResult τ))}
    (hs : s.Settled) (ht : e.OnCalendar t) (h : e.Stored (e.execute s start) t results) :
    ∃ story, e.Chain s start story ∧ List.Forall₂ Segment.Tells story results ∧
      Exchange.deeds t = Segment.deeds story := by
  induction results generalizing s start t with
  | nil => cases h
  | cons result results ih =>
    cases h with
    | last h =>
      obtain ⟨held, hgoes⟩ := execute_course.mp h
      obtain ⟨g, closing, hg, rfl, rfl, htells, rfl, hdeeds, -⟩ := hgoes.segment hs ht
      refine ⟨[g], .last hg, .cons htells .nil, ?_⟩
      rw [Exchange.deeds_append, hdeeds]
      rfl
    | resumed h hc hreload hrest =>
      obtain ⟨held, woken, t'', hgoes, hsettled, hresume, rfl, htail, hrest⟩ :=
        stored_resumed hs ht h hc hreload hrest
      obtain ⟨g, closing, hg, rfl, rfl, htells, rfl, hdeeds, hlast⟩ := hgoes.segment hs ht.left
      obtain ⟨hr, hstate, -⟩ := hlast held rfl
      obtain ⟨story, hchain, htold, hrestdeeds⟩ := ih (hsettled.revive held.suspended woken) htail hrest
      refine ⟨g :: story, .of_held hg hr hstate hsettled hresume hchain, .cons htells htold, ?_⟩
      rw [Exchange.deeds_append, Exchange.deeds_append, Exchange.deeds_clock, hdeeds, hrestdeeds,
        List.append_nil]
      rfl

/-- Every run of a definition without problems has a story: with the same exchanges beside readings
of the clock, and told by its results. -/
theorem stored_story [ActiveTime.Storable τ] {d : Definition} {event : Event} {runId : String}
    {results : List (Except Escape (RunResult τ))} (hd : d.WellFormed) (hvalid : d.Valid)
    (hevent : event.Storable) (ht : e.OnCalendar t)
    (h : e.Stored (e.run d event runId) t results) :
    ∃ story, e.Story d event runId story ∧ List.Forall₂ Segment.Tells story results ∧
      Exchange.deeds t = Segment.deeds story := by
  obtain ⟨entry, hentry⟩ := hvalid.sound.exists_entry
  rw [run_valid hvalid hentry, stored_clock] at h
  obtain ⟨reading, t', rfl, h⟩ := h
  have hreading := ht reading List.mem_cons_self
  obtain ⟨story, hchain, htold, hdeeds⟩ :=
    stored_chain (opening_settled hd hevent hreading) ht.tail h
  exact ⟨story, ⟨entry, reading, hentry, hreading, hchain⟩, htold, hdeeds⟩

end Engine

end Automation
