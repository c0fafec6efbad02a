import Automation.Proofs.Action.Address
import Automation.Proofs.Run.Performed

/-!
# Requests in runs

A request to an address that does not pass the check of addresses is never sent. If the address can
be cut, the step is fatal and the run ends with it; if it cannot, the step is an ordinary failed one
and the run goes on (`Engine.malformed_addresses`).
-/

namespace Automation

variable {τ : Type} [ActiveTime τ] {e : Engine} {s : RunState τ}

namespace Engine

variable {p : Pass τ} {n : Node} {c : Context} {a : Action} {step : StepResult} {address : String}

/-! ## Calls of actions -/

/-- The calls of a pass that comes to an action are those that the action plans. -/
theorem Does.calls_planned (h : e.Does p) (ha : p.Resolves n c a) :
    ∀ call ∈ p.calls, ∃ now plan, a.plan n.id c e.places now = .ok plan ∧ call = plan.call := by
  obtain ⟨id, locals, top, a₀, herrand, hnode, hwork, rfl, hresolved⟩ := ha
  obtain ⟨errand, before, exchanges, result, after⟩ := p
  subst herrand
  change (e.step (.go (some id) locals top)).Course before exchanges result after at h
  change before.workflow.node? id = some n at hnode
  dsimp only at hresolved ⊢
  intro call hcall
  obtain ⟨x, hx, hxcall⟩ := List.mem_filterMap.mp hcall
  change x ∈ exchanges at hx
  -- Only the visit calls, and it calls for what its configuration is filled in to.
  have hvisit {t r} (hv : (e.visit n locals top).Course before.counted t r after) (hx : x ∈ t) :
      ∃ now plan, a.plan n.id { before.context with locals } e.places now = .ok plan ∧
        call = plan.call := by
    have hasks := visit_asksAt hv x hx
    obtain ⟨request, answer⟩ := x
    cases request with
    | clock | aborted runId | sleep seconds => cases hxcall
    | call made timeout =>
      cases hxcall
      obtain ⟨a₁, a', reading, plan, hwork', hresolved', hplan, hmade, -⟩ := hasks
      rw [hwork] at hwork'
      obtain rfl := Work.action.inj hwork'
      obtain rfl : a = a' := Schema.Checked.ok.inj (Except.ok.inj (hresolved.symm.trans hresolved'))
      exact ⟨_, plan, hplan, hmade⟩
  cases step_cases h with
  | missing => cases hx
  | stopped locals top hn hb => exact absurd hxcall (by simp [hb.call? x hx])
  | @halted _ n' _ _ _ _ halt _ hn hb hv | @visited _ n' _ _ _ _ inner _ hn hb hv =>
    obtain rfl : n' = n := Option.some.inj (hn.symm.trans hnode)
    rcases List.mem_append.mp hx with hx | hx
    · exact absurd hxcall (by simp [hb.call? x hx])
    · exact hvisit hv hx

/-- A request to an address that does not pass is not sent. -/
theorem Does.calls_eq_nil {fault : Fault} (h : e.Does p) (ha : p.Resolves n c a)
    (haddress : a.address? = some address) (hurl : Check.url a.kind.name address = .error fault) :
    p.calls = [] := by
  refine List.eq_nil_iff_forall_not_mem.mpr fun call hcall => ?_
  obtain ⟨now, plan, hplan, -⟩ := h.calls_planned ha call hcall
  rw [Action.plan_of_url_error haddress hurl] at hplan
  cases hplan

/-! ## Requests that are turned down -/

/-- A pass that comes to an action that is never planned, for a fault after which it is not tried
again, is stopped by the check before it, or it visits the action with the fault for an outcome, or
without anything that carries it out. -/
theorem Does.turned_down {fault : Fault} {timeout : Float} (h : e.Does p) (ha : p.Resolves n c a)
    (htimeout : a.timeout = .ok timeout)
    (hplan : ∀ now, a.plan n.id c e.places now = .error fault)
    (hfault : fault.isTransient = false) :
    (∃ halt, p.result = .error halt ∧ Boundary e p.before p.exchanges (.error halt) ∧
        p.after = p.before) ∨
      ∃ started locals top t r o, p.result = r.map (fun _ => errandsAfter n locals top []) ∧
        Visit.EndsWith e ⟨n, locals, started⟩ o p.before.counted t r p.after ∧
        (e.missing.contains a.kind.name = true ∧ o = .missing a ∨
          e.missing.contains a.kind.name = false ∧ o = .performed a (.error fault) 1) := by
  rcases h.resolved ha with hstopped |
    ⟨asked, started, locals, top, t, r, -, -, hresult, hvisits⟩
  · exact .inl hstopped
  · refine .inr ⟨started, locals, top, ?_⟩
    cases hvisits with
    | missing hmissing hends => exact ⟨_, _, _, hresult, hends, .inl ⟨hmissing, rfl⟩⟩
    | performed hmissing hperform hends =>
      obtain ⟨rfl, rfl⟩ := Action.perform_of_plan_error htimeout hplan hfault hperform
      exact ⟨_, _, _, hresult, hends, .inr ⟨hmissing, rfl⟩⟩

end Engine

/-! ## Ends of runs -/

/-- What a pass leaves to do does not decide whether the run goes on. -/
theorem goesOn_map {α β : Type} {f : α → β} {r : Except Halt α} : GoesOn (r.map f) ↔ GoesOn r := by
  cases r with
  | ok => exact Iff.rfl
  | error halt => cases halt <;> exact Iff.rfl

omit [ActiveTime τ] in
/-- A run that does not go on has failed. -/
theorem Segment.verdict_of_end {g : Segment τ} (h : ¬GoesOn g.result) : g.verdict.1 = .failed := by
  unfold verdict
  cases hresult : g.result with
  | ok =>
    rw [hresult] at h
    exact absurd trivial h
  | error halt =>
    rw [hresult] at h
    cases halt with
    | suspended next resumeAt => exact absurd trivial h
    | _ => rfl

theorem Outcome.verdict_of_fatal {o : Outcome} {n : Node} (hstatus : o.status = .failed)
    (hkind : o.errorKind = some "fatal") : o.verdict n = .error (.failed (o.error.getD "")) := by
  unfold verdict
  rw [hstatus]
  simp [hkind]

omit [ActiveTime τ] in
/-- A run does not go on after a visit with a fatal outcome. -/
theorem Visit.EndsWith.ends_of_fatal {v : Visit} {o : Outcome} {s' : RunState τ}
    {t : List Exchange} {r : Except Halt Unit} (h : v.EndsWith e o s t r s')
    (hstatus : o.status = .failed) (hkind : o.errorKind = some "fatal") : ¬GoesOn r := by
  rcases h with ⟨x, -, rfl, -⟩ | ⟨finished, iteration, -, -, rfl, -⟩
  · exact id
  · rw [Outcome.verdict_of_fatal hstatus hkind]
    exact id

namespace Engine

variable {d : Definition} {event : Event} {runId : String} {story : List (Segment τ)}
  {g : Segment τ} {p : Pass τ}

theorem Boundary.ends {α : Type} {t : List Exchange} {halt : Halt}
    (h : Boundary e s t (.error halt)) : ¬GoesOn (.error halt : Except Halt α) := by
  cases h <;> exact id

/-- Only the last segment ends the run. -/
theorem Chain.getLast?_eq {start : Option String} (h : e.Chain s start story) (hg : g ∈ story)
    (hr : ¬GoesOn g.result) : story.getLast? = some g := by
  induction h with
  | last hlast =>
    obtain rfl := List.mem_singleton.mp hg
    rfl
  | @resumed g' more _ _ next resumeAt _ _ hg' hr' hc hs hmore ih =>
    rcases List.mem_cons.mp hg with rfl | hg
    · rw [hr'] at hr
      exact absurd trivial hr
    · have hlast := ih hg
      rw [List.getLast?_cons, hlast]
      rfl

/-- A pass after which its run does not go on is the last one of its story. -/
theorem Story.ends {pre post : List (Pass τ)} (h : e.Story d event runId story) (hg : g ∈ story)
    (hlog : g.log = pre ++ p :: post)
    (hpasses : e.Passes [.go g.start g.before.context.locals true] g.before g.log g.result g.after)
    (hr : ¬GoesOn p.result) :
    post = [] ∧ g.result = p.result.map (fun _ => ()) ∧ story.getLast? = some g := by
  rw [hlog] at hpasses
  obtain ⟨rest, hfrom, -⟩ := hpasses.from_pass
  obtain ⟨q, log', hq, -, -, -, ⟨halt, hhalt, rfl, hresult, -⟩ | ⟨more, hmore, -⟩⟩ :=
    hfrom.cons_cases
  · obtain ⟨rfl, rfl⟩ := List.cons.inj hq
    obtain ⟨entry, reading, -, -, hchain⟩ := h
    have hend : g.result = p.result.map fun _ => () := by
      rw [hhalt]
      exact hresult
    exact ⟨rfl, hend, hchain.getLast?_eq hg (by rwa [hend, goesOn_map])⟩
  · obtain ⟨rfl, -⟩ := List.cons.inj hq
    rw [hmore] at hr
    exact absurd trivial hr

/-! ## Addresses that do not pass -/

section Address

variable {n : Node} {c : Context} {a : Action} {address : String} {timeout : Float}
  {fault : Url.Fault} {step : StepResult}

/-- A request to an address that can be cut, but that no request can be sent to, ends the run, and
its step is fatal. -/
theorem Does.ends_of_malformed (h : e.Does p) (ha : p.Resolves n c a)
    (haddress : a.address? = some address) (htimeout : a.timeout = .ok timeout)
    (husable : ¬Url.IsUsable (Text.strip address))
    (hcut : ∀ fault, ¬Url.Uncut (Text.strip address) fault) :
    ¬GoesOn p.result ∧ ∀ step, p.Records step → step.status = .failed ∧
      step.errorKind = some "fatal" ∧ ∃ message, step.error = some message ∧
        p.result = .error (.failed message) ∧
        (e.missing.contains a.kind.name = false → step.attempts = 1 ∧ message =
          Failure.message ⟨.fatal, a.kind.name, s!"Malformed URL '{Text.strip address}'"⟩) := by
  have hurl : Check.url a.kind.name address = .error (.failure
      ⟨.fatal, a.kind.name, s!"Malformed URL '{Text.strip address}'"⟩) :=
    Check.url_eq_failure.mpr ⟨rfl, husable, hcut⟩
  rcases h.turned_down ha htimeout (Action.plan_of_url_error haddress hurl) rfl with
    ⟨halt, hresult, hb, hafter⟩ | ⟨started, locals, top, t, r, o, hresult, hends, ho⟩
  · refine ⟨?_, ?_⟩
    · rw [hresult]
      exact hb.ends
    · rintro step ⟨_, _, _, _, _, _, _, _, hadded⟩
      rw [hafter] at hadded
      simp at hadded
  · obtain ⟨hstatus, hkind, message, herror, hmessage⟩ : o.status = .failed ∧
        o.errorKind = some "fatal" ∧ ∃ message, o.error = some message ∧
          (e.missing.contains a.kind.name = false → o.attempts = 1 ∧ message =
            Failure.message ⟨.fatal, a.kind.name, s!"Malformed URL '{Text.strip address}'"⟩) := by
      rcases ho with ⟨hcontains, rfl⟩ | ⟨-, rfl⟩
      · refine ⟨rfl, rfl, _, rfl, fun hmissing => ?_⟩
        rw [hmissing] at hcontains
        cases hcontains
      · exact ⟨rfl, rfl, _, rfl, fun _ => ⟨rfl, rfl⟩⟩
    refine ⟨?_, ?_⟩
    · rw [hresult, goesOn_map]
      exact hends.ends_of_fatal hstatus hkind
    · rintro step ⟨_, _, _, _, _, _, _, _, hadded⟩
      obtain ⟨finished, iteration, -, rfl, rfl⟩ := hends.recorded hadded
      refine ⟨hstatus, hkind, message, herror, ?_, hmessage⟩
      rw [hresult, Outcome.verdict_of_fatal hstatus hkind, herror]
      rfl

/-- A request to an address that cannot be cut is an ordinary failed step. -/
theorem Does.passes_of_uncut (h : e.Does p) (ha : p.Resolves n c a)
    (haddress : a.address? = some address) (htimeout : a.timeout = .ok timeout)
    (hmissing : e.missing.contains a.kind.name = false)
    (huncut : Url.Uncut (Text.strip address) fault) (hstep : p.Records step) :
    step.status = .failed ∧ step.errorKind = some "permanent" ∧ step.error = some fault.message ∧
      step.attempts = 1 ∧ (n.abortOnFailure = false →
        ∃ locals top, p.result = .ok (errandsAfter n locals top [])) := by
  have hurl : Check.url a.kind.name address = .error (.defect (.url fault)) :=
    Check.url_eq_uncut.mpr ⟨fault, huncut, rfl⟩
  obtain ⟨_, _, _, _, _, _, _, _, hadded⟩ := hstep
  rcases h.turned_down ha htimeout (Action.plan_of_url_error haddress hurl) rfl with
    ⟨halt, -, -, hafter⟩ | ⟨started, locals, top, t, r, o, hresult, hends, ho⟩
  · rw [hafter] at hadded
    simp at hadded
  · obtain ⟨finished, iteration, -, rfl, rfl⟩ := hends.recorded hadded
    rcases ho with ⟨hcontains, -⟩ | ⟨-, rfl⟩
    · rw [hmissing] at hcontains
      cases hcontains
    · refine ⟨rfl, rfl, rfl, rfl, fun habort => ⟨locals, top, ?_⟩⟩
      rw [hresult]
      change n.abortOnFailure = false at habort
      simp [Outcome.verdict, Outcome.performed, faultKind, habort, Except.map]

end Address

/-- The check of addresses lets through, without the white space around it, just what a request can be
sent to; it turns down as fatal what can be cut but cannot be used, and it comes to a defect on what
cannot be cut. In every run of a definition without problems, in all of its segments, no request is
sent to an address that does not pass. If the address can be cut, the run ends there and fails with
the error of the step. If it cannot, the step is an ordinary failed one, after which the run goes on
unless its node aborts on failure. -/
theorem malformed_addresses [ActiveTime.Storable τ] {σ : Type} [Schema.Source σ] {x y : σ}
    {d : Definition} {event : Event} {runId : String} (hd : Definition.codec.read x = .ok d)
    (hvalid : d.Valid) (hevent : Event.codec.read y = .ok event) :
    (∀ kind s,
      (∀ v, Check.url kind s = .ok v ↔ v = Text.strip s ∧ Url.IsUsable (Text.strip s)) ∧
      (∀ f, Check.url kind s = .error (.failure f) ↔
        f = ⟨.fatal, kind, s!"Malformed URL '{Text.strip s}'"⟩ ∧
          ¬Url.IsUsable (Text.strip s) ∧ ∀ fault, ¬Url.Uncut (Text.strip s) fault) ∧
      ∀ defect, Check.url kind s = .error (.defect defect) ↔
        ∃ fault, Url.Uncut (Text.strip s) fault ∧ defect = .url fault) ∧
    (∀ t results, e.OnCalendar t → e.Stored (e.run d event runId) t results →
      ∃ story : List (Segment τ), e.Story d event runId story ∧
        List.Forall₂ Segment.Tells story results ∧ Exchange.deeds t = Segment.deeds story) ∧
    ∀ story : List (Segment τ), e.Story d event runId story → ∀ g ∈ story,
      ∀ pre p post, g.log = pre ++ p :: post → ∀ n c a address, p.Resolves n c a →
        a.address? = some address → ¬Url.IsUsable (Text.strip address) →
        p.calls = [] ∧ ∀ timeout, a.timeout = .ok timeout →
          ((∀ fault, ¬Url.Uncut (Text.strip address) fault) →
            post = [] ∧ story.getLast? = some g ∧ g.verdict.1 = .failed ∧
            ∀ step, p.Records step → step.status = .failed ∧ step.errorKind = some "fatal" ∧
              g.verdict = (.failed, step.error) ∧
              (e.missing.contains a.kind.name = false → step.attempts = 1 ∧ step.error = some
                (Failure.message ⟨.fatal, a.kind.name,
                  s!"Malformed URL '{Text.strip address}'"⟩))) ∧
          ∀ fault, Url.Uncut (Text.strip address) fault →
            e.missing.contains a.kind.name = false → ∀ step, p.Records step →
              step.status = .failed ∧ step.errorKind = some "permanent" ∧
              step.error = some fault.message ∧ step.attempts = 1 ∧
              (n.abortOnFailure = false → ∃ locals top rest,
                e.Passes (errandsAfter n locals top [] ++ rest) p.after post g.result g.after) := by
  have hwell := Definition.codec_ensures.of_read x d hd
  have hstorable := Event.codec_ensures.of_read y event hevent
  refine ⟨fun kind s => ⟨fun v => Check.url_eq_ok, fun f => Check.url_eq_failure,
    fun defect => Check.url_eq_uncut⟩, fun t results ht h => stored_story hwell hvalid hstorable ht h,
    ?_⟩
  intro story hstory g hg pre p post hlog n c a address ha haddress husable
  have hpasses := (hstory.endsLast hwell hstorable g hg).1.passes
  have hp : e.Does p := (hpasses.mem (by simp [hlog])).1
  refine ⟨?_, fun timeout htimeout => ⟨fun hcut => ?_, fun fault huncut hmissing step hstep => ?_⟩⟩
  · cases hurl : Check.url a.kind.name address with
    | ok v => exact absurd (Check.url_eq_ok.mp hurl).2 husable
    | error fault => exact hp.calls_eq_nil ha haddress hurl
  · obtain ⟨hends, hsteps⟩ := hp.ends_of_malformed ha haddress htimeout husable hcut
    obtain ⟨hpost, hresult, hlast⟩ := hstory.ends hg hlog hpasses hends
    refine ⟨hpost, hlast, ?_, fun step hstep => ?_⟩
    · exact Segment.verdict_of_end (by rwa [hresult, goesOn_map])
    · obtain ⟨hstatus, hkind, message, herror, hfailed, hmessage⟩ := hsteps step hstep
      rw [hfailed] at hresult
      refine ⟨hstatus, hkind, ?_, fun hmissing => ?_⟩
      · rw [Segment.verdict, hresult, herror]
        rfl
      · obtain ⟨hattempts, rfl⟩ := hmessage hmissing
        exact ⟨hattempts, herror⟩
  · obtain ⟨hstatus, hkind, herror, hattempts, hgoes⟩ :=
      hp.passes_of_uncut ha haddress htimeout hmissing huncut hstep
    refine ⟨hstatus, hkind, herror, hattempts, fun habort => ?_⟩
    obtain ⟨locals, top, hresult⟩ := hgoes habort
    rw [hlog] at hpasses
    obtain ⟨rest, -, hmore⟩ := hpasses.from_pass
    exact ⟨locals, top, rest, hmore _ hresult⟩

end Engine

/-! ## A request before a note -/

/-- A request to an address with nothing in it. -/
def HttpAction.bare (address : String) : HttpAction where
  url := address
  method := "POST"
  headers := []
  body := none
  timeoutMs := none

/-- A definition of a request to an address and a note after it. -/
def Definition.hook (address : String) : Definition where
  name := "Hook"
  trigger := { kind := .manual }
  actions :=
    [{ id := "hook", nextAction := some "note", work := .action (.webhook (.bare address)) },
     { id := "note", work := .action (.addNote { targetId := "lead-1", text := "hello" }) }]

theorem Definition.hook_wellFormed (address : String) : (Definition.hook address).WellFormed where
  name_ne := show 1 ≤ "Hook".length by decide
  name_le := show "Hook".length ≤ 255 by decide
  trigger := by rintro _ ⟨⟩
  nodes := List.forall_mem_cons.mpr ⟨⟨show 1 ≤ "hook".length by decide, by rintro _ ⟨⟩⟩,
    List.forall_mem_singleton.mpr ⟨show 1 ≤ "note".length by decide, trivial⟩⟩

namespace Engine

/-- A request to what is no address ends its run. -/
theorem hook_ends :
    let d := Definition.hook "not a url"
    let event := Event.manual
    Definition.codec.read (Definition.codec.write .wire d) = .ok d ∧ d.Valid ∧
      Event.codec.read (Event.codec.write .wire event) = .ok event ∧
      ∃ (g : Segment Float) (p : Pass Float) (step : StepResult),
        alone.Story d event "run-1" [g] ∧ g.log = [p] ∧ p.Records step ∧ p.calls = [] ∧
        step.errorKind = some "fatal" ∧ g.verdict = (.failed, step.error) := by
  intro d event
  have hread : Definition.codec.read (Definition.codec.write .wire d) = .ok d :=
    (Definition.codec_restores (Definition.hook_wellFormed _)).read
  have hvalid : d.Valid := by decide +kernel
  have hevent : Event.codec.read (Event.codec.write .wire event) = .ok event :=
    (Event.codec_restores (by rintro _ ⟨⟩)).read
  refine ⟨hread, hvalid, hevent, ?_⟩
  have hplayed : (alone.play Dialogue.granting 1 [.go (some "hook") [] true]
      (alone.opening d event "run-1" 0 : RunState Float)).map
      (fun (log, _) => log.map fun p => p.after.stepResults.map fun step =>
        (step.nodeId, step.nodeKind)) = some [[("hook", "webhook")]] := by
    decide +kernel
  obtain ⟨⟨log, r, s'⟩, hplay, heq⟩ := Option.map_eq_some_iff.mp hplayed
  have hclock : Dialogue.granting .clock = (0 : Nat) := rfl
  have hentry : d.entry? = some _ := rfl
  have hstory := Story.of_play hentry hclock (by decide) hplay
  obtain ⟨p, log', rfl, herrand, hbefore, -, -⟩ := (play_passes hplay).1.cons_cases
  obtain ⟨step, hstep, hfields⟩ := List.map_eq_singleton_iff.mp (List.cons.inj heq).1
  obtain ⟨hid, hkind⟩ := Prod.mk.inj hfields
  have hrecords : p.Records step := by
    refine ⟨"hook", [], true, d.actions[0], herrand, ?_, hid, hkind, ?_⟩
    · rw [hbefore]
      rfl
    · rw [hstep, hbefore]
      rfl
  have hresolves : p.Resolves d.actions[0] p.before.context (.webhook (.bare "not a url")) := by
    refine ⟨"hook", [], true, _, herrand, ?_, rfl, ?_, ?_⟩ <;> rw [hbefore] <;> rfl
  have husable : ¬Url.IsUsable (Text.strip "not a url") := fun h => absurd h.1 (by decide +kernel)
  have hcut : ∀ fault, ¬Url.Uncut (Text.strip "not a url") fault := by
    intro fault huncut
    have hok : (Url.cut (Text.strip "not a url")).toOption.isSome = true := by decide +kernel
    rw [Url.cut_eq_error.mpr huncut] at hok
    cases hok
  obtain ⟨-, -, hstories⟩ := malformed_addresses (e := alone) (τ := Float) hread hvalid hevent
  obtain ⟨hcalls, hends⟩ := hstories _ hstory _ List.mem_cons_self [] p log' rfl _ _ _ _ hresolves
    rfl husable
  obtain ⟨⟨rfl, -, -, hsteps⟩, -⟩ := And.imp_left (· hcut) (hends _ rfl)
  obtain ⟨-, hfatal, hverdict, -⟩ := hsteps step hrecords
  exact ⟨_, p, step, hstory, rfl, hrecords, hcalls, hfatal, hverdict⟩

/-- A bracket without its partner cannot be cut: the step fails, and the note is added. -/
theorem hook_goes_on :
    let d := Definition.hook "http://[::1"
    let event := Event.manual
    Definition.codec.read (Definition.codec.write .wire d) = .ok d ∧ d.Valid ∧
      Event.codec.read (Event.codec.write .wire event) = .ok event ∧
      Check.url "webhook" "http://[::1" = .error (.defect (.url .brackets)) ∧
      ∃ (t : List Exchange) (told : RunResult Float), alone.OnCalendar t ∧
        alone.Stored (alone.run d event "run-1") t [.ok told] ∧ told.status = .success ∧
        told.stepResults.map (fun step => (step.nodeId, step.errorKind))
          = [("hook", some "permanent"), ("note", none)] := by
  intro d event
  have hread : Definition.codec.read (Definition.codec.write .wire d) = .ok d :=
    (Definition.codec_restores (Definition.hook_wellFormed _)).read
  have hevent : Event.codec.read (Event.codec.write .wire event) = .ok event :=
    (Event.codec_restores (by rintro _ ⟨⟩)).read
  have hbrackets : Check.url "webhook" "http://[::1" = .error (.defect (.url .brackets)) := by
    rfl
  refine ⟨hread, by decide +kernel, hevent, hbrackets, ?_⟩
  let dialogue : Dialogue (Except Escape (RunResult Float)) := alone.run d event "run-1"
  have hseen : (dialogue.answered Dialogue.granting).2.toOption.map
      (fun told => (told.status, told.stepResults.map fun step => (step.nodeId, step.errorKind)))
      = some (.success, [("hook", some "permanent"), ("note", none)]) := by
    decide +kernel
  obtain ⟨told, htold, hfields⟩ := Option.map_eq_some_iff.mp hseen
  obtain ⟨hstatus, hsteps⟩ := Prod.mk.inj hfields
  have hcourse := Dialogue.course_answered Dialogue.granting dialogue
  rw [Except.toOption_eq_some.mp htold] at hcourse
  have hcalendar := OnCalendar.of_world (e := alone)
    (show Dialogue.granting .clock = (0 : Nat) from rfl) (by decide)
    fun x hx => Dialogue.answered_mem (d := dialogue) hx
  exact ⟨_, told, hcalendar, .last hcourse, hstatus, hsteps⟩

end Engine

end Automation
