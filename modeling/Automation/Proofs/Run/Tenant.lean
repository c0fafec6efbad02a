import Automation.Proofs.Run.Key
import Automation.Proofs.Run.Told
import Mathlib.Data.List.Infix

/-!
# Tenants of runs

The calls of a run carry the tenant of its definition: in a field of their own, in the body or in the
address. Only the plain request of an action that is no more than this goes out as its configuration
says. A run that is suspended keeps its tenant, so what is said of a run when it starts is said of
all of it (`Dialogue.KeepsTo`).
-/

namespace Automation

variable {τ : Type} {tenant : String} {d : Definition} {c : Context}

/-! ## Calls -/

/-- Where the sheets of a tenant are, behind the address of the service that holds them. -/
def sheetsPath (tenant : String) : String := "/api/v1/tenants/" ++ tenant ++ "/google-sheets/"

namespace Call

/-- The tenant that a call names. A plain request may name one in its body. -/
def tenant? : Call → Option Value
  | .sendSms t _ _ | .sendEmail t _ _ _ _ | .postSlackMessage t _ _ | .placeCall t _ _
  | .createRecord t _ _ _ | .updateRecord t _ _ _ _ | .addNote t _ _ _
  | .createEvent t _ _ _ _ _ _ _ => some t
  | .request _ _ _ body _ => body.field? "tenant_id"

/-- The address that a call goes to, if it is a plain request. -/
def url? : Call → Option String
  | .request _ url _ _ _ => some url
  | _ => none

/-- A call carries a tenant: it names the tenant, or it goes to the tenant's sheets. -/
def Carries (tenant : String) (call : Call) : Prop :=
  call.tenant? = some (.text tenant) ∨
    ∃ url ∈ call.url?, (sheetsPath tenant).toList <:+: url.toList

instance (tenant : String) (call : Call) : Decidable (call.Carries tenant) :=
  inferInstanceAs (Decidable (_ ∨ _))

end Call


/-- The call is the plain request of an action of a definition, and it goes out as the configuration
of the action says when all that is known of a run is filled in. -/
def Definition.Requests (d : Definition) (call : Call) : Prop :=
  ∃ n ∈ d.actions, ∃ (a a' : HttpAction) (c : Context) (places : Places) (now : Time.Stamp)
    (plan : Plan), n.work = .action (.apiCall a) ∧
      Engine.resolveConfig (.apiCall a) c = .ok (.ok (.apiCall a')) ∧
      (Action.apiCall a').plan n.id c places now = .ok plan ∧ call = plan.call

/-- A call that a run of a definition may make for a tenant. -/
def Definition.Calls (d : Definition) (tenant : String) (call : Call) : Prop :=
  call.Carries tenant ∨ d.Requests call

/-- What a run of a definition may ask for a tenant. -/
def Definition.Asks (d : Definition) (tenant : String) : Request → Prop
  | .call call _ => d.Calls tenant call
  | _ => True

/-! ## Visits -/

/-- The calls of an action carry the tenant of its context, unless the action is a plain request. -/
theorem Action.Calls.carries {nodeId : String} {a : Action} {call : Call}
    (h : a.Calls nodeId c call) (hc : c.tenantId = .text tenant) :
    call.Carries tenant ∨ ∃ request, a = .apiCall request := by
  cases h with
  | addSheetRow a base sheet headers body timeoutMs =>
    refine .inl (.inr ⟨_, rfl, base.toList, (sheet ++ "/rows").toList, ?_⟩)
    rw [hc, sheetsPath]
    simp only [Value.display, String.toList_append, List.append_assoc]
  | webhook a method url headers now timeoutMs =>
    refine .inl (.inl ?_)
    rw [← hc]
    rfl
  | apiCall a => exact .inr ⟨a, rfl⟩
  | _ => exact .inl (.inl (congrArg some hc))

/-- An action stays of its kind when its configuration is filled in. -/
theorem ActionKind.readConfig_kind {σ : Type} [Schema.Source σ] {kind : ActionKind} {x : σ}
    {a : Action} (h : kind.readConfig x = .ok a) : a.kind = kind := by
  cases kind <;> obtain ⟨c, -, rfl⟩ := Schema.Checked.map_eq_ok.mp h <;> rfl

theorem Engine.resolveConfig_kind {a a' : Action} (h : resolveConfig a c = .ok (.ok a')) :
    a'.kind = a.kind := by
  obtain ⟨resolved, -, hread⟩ := Except.bind_eq_ok.mp h
  exact ActionKind.readConfig_kind (Except.ok.inj hread)

namespace Engine

variable {e : Engine}

/-- What the visit of a node asks is asked for the tenant of the context. -/
theorem AsksAt.asks_for {n : Node} {r : Request} (h : e.AsksAt n c r) (hn : n ∈ d.actions)
    (hc : c.tenantId = .text tenant) : d.Asks tenant r := by
  cases r with
  | clock | sleep seconds | aborted runId => trivial
  | call call timeout =>
    obtain ⟨a, a', reading, plan, hwork, hresolved, hplan, rfl, -⟩ := h
    rcases (a'.plan_calls n.id c e.places _ plan hplan).carries hc with hcarries | ⟨request', rfl⟩
    · exact .inl hcarries
    · have hkind := resolveConfig_kind hresolved
      cases a with
      | apiCall request =>
        exact .inr ⟨n, hn, request, request', c, e.places, _, plan, hwork, hresolved, hplan, rfl⟩
      | _ => cases hkind

variable [ActiveTime τ] {s s' : RunState τ} {t : List Exchange} {start : Option String}

/-- Before a visit nothing is called. -/
theorem Boundary.asks_for {r : Except Halt Unit} (h : Boundary e s t r) :
    ∀ x ∈ t, d.Asks tenant x.request := by
  intro x hx
  have hcall := h.call? x hx
  obtain ⟨request, answer⟩ := x
  cases request with
  | call call timeout => cases hcall
  | clock | sleep seconds | aborted runId => trivial

/-- A pass asks for the tenant of its run. -/
theorem Does.asks_for {p : Pass τ} (h : e.Does p)
    (hp : p.before.context.tenantId = .text tenant) :
    ∀ x ∈ p.exchanges, p.before.workflow.Asks tenant x.request := by
  obtain ⟨errand, before, exchanges, result, after⟩ := p
  change (e.step errand).Course before exchanges result after at h
  cases step_cases h with
  | tooDeep | entered | left | ended | missing => exact List.forall_mem_nil _
  | stopped locals top hn hb => exact hb.asks_for
  | halted hn hb hv | visited hn hb hv =>
    intro x hx
    rcases List.mem_append.mp hx with hx | hx
    · exact hb.asks_for x hx
    · exact (visit_asksAt hv x hx).asks_for (Definition.node?_some hn).1 hp

/-! ## Segments -/

/-- What is said in a walk is asked for the tenant of the run, and the run stays the tenant's. -/
theorem walks_ask_for {r : Except Halt Unit} (h : e.Walks s start t r s')
    (hs : s.context.tenantId = .text tenant) :
    (∀ x ∈ t, s.workflow.Asks tenant x.request) ∧ s'.context.tenantId = .text tenant := by
  obtain ⟨log, s'', hp, rfl, rfl⟩ := walks_passes h
  constructor
  · intro x hx
    obtain ⟨p, hmem, hx⟩ := List.mem_flatMap.mp hx
    obtain ⟨hdoes, _, _, _, _, _, -, hbefore⟩ := hp.mem hmem
    have hworkflow : p.before.workflow = s.workflow := by rw [hbefore]
    exact hworkflow ▸ hdoes.asks_for (by rw [hbefore]; exact hs) x hx
  · obtain ⟨_, _, _, _, _, -, rfl⟩ := hp.continues
    exact hs

end Engine

/-- A run that is carried out for a tenant: it asks for what a run of the definition may ask for the
tenant, and what is left of it is the tenant's too. -/
structure Dialogue.KeepsTo (d : Definition) (tenant : String)
    (x : Dialogue (Except Escape (RunResult τ))) : Prop where
  asks : x.Only (d.Asks tenant)
  left : ∀ t told, x.Course t (.ok told) → ∀ c ∈ told.continuation,
    c.context.get? "tenant_id" = some (.text tenant)

namespace Dialogue

/-- It stays so as it goes on. -/
theorem KeepsTo.reaches {x y : Dialogue (Except Escape (RunResult τ))} {t : List Exchange}
    (h : x.KeepsTo d tenant) (hy : x.Reaches t y) : y.KeepsTo d tenant :=
  ⟨h.asks.reaches hy, fun _ told hc => h.left _ told (hy.course hc)⟩

theorem keepsTo_escape (cause : Escape) :
    (pure (.error cause) : Dialogue (Except Escape (RunResult τ))).KeepsTo d tenant := by
  refine ⟨.done _, fun t told hc => ?_⟩
  obtain ⟨-, h⟩ := course_pure.mp hc
  cases h

theorem keepsTo_clock {f : Nat → Dialogue (Except Escape (RunResult τ))}
    (h : ∀ reading, (f reading).KeepsTo d tenant) : (clock >>= f).KeepsTo d tenant := by
  refine ⟨(only_request (by trivial)).bind fun reading => (h reading).asks, fun t told hc => ?_⟩
  obtain ⟨reading, t₁, t₂, rfl, -, hrest⟩ := course_bind.mp hc
  exact (h reading).left t₂ told hrest

end Dialogue

open Dialogue (keepsTo_escape keepsTo_clock)

namespace Engine

variable {e : Engine}

/-- To tell how a run ended takes a look at the clock. -/
theorem finish_keepsTo {runId : String} {workflowId error : Option String}
    {startedAt : Time.Stamp} {steps : List StepResult} {status : RunStatus}
    {continuation : Option (Continuation τ)}
    (h : ∀ c ∈ continuation, c.context.get? "tenant_id" = some (.text tenant)) :
    (e.finish runId workflowId startedAt steps status error continuation).KeepsTo d tenant := by
  refine ⟨(Dialogue.only_request (by trivial)).bind fun reading => .done _, fun t told hc => ?_⟩
  obtain ⟨-, -, -, hleft⟩ := (finish_course hc).2 told rfl
  rwa [hleft]

variable [ActiveTime τ] {s : RunState τ} {start : Option String}

/-- A segment of a run is carried out for the tenant of the run. -/
theorem execute_keepsTo (hd : s.workflow = d) (hs : s.context.tenantId = .text tenant) :
    (e.execute s start).KeepsTo d tenant := by
  subst hd
  have hnone : ∀ c ∈ (none : Option (Continuation τ)),
      c.context.get? "tenant_id" = some (.text tenant) := by
    rintro c ⟨⟩
  have hcourses : ∀ t result, (e.execute s start).Course t result →
      (∀ x ∈ t, s.workflow.Asks tenant x.request) ∧ ∀ told, result = .ok told →
        ∀ c ∈ told.continuation, c.context.get? "tenant_id" = some (.text tenant) := by
    intro t result hc
    obtain ⟨held, hgoes⟩ := execute_course.mp hc
    cases hgoes with
    | finished hw hc | failed hw hne hc =>
      obtain ⟨hasks, hleft⟩ : Dialogue.KeepsTo s.workflow tenant _ := finish_keepsTo hnone
      refine ⟨fun x hx => ?_, fun told htold => hleft _ told (htold ▸ hc)⟩
      exact (List.mem_append.mp hx).elim ((walks_ask_for hw hs).1 x) (hasks.mem hc x)
    | suspended held hw hc =>
      obtain ⟨hasked, hheld⟩ := walks_ask_for hw hs
      have hclose : (e.close held.state .suspended none (some held.continuation)).KeepsTo
          s.workflow tenant := by
        refine finish_keepsTo ?_
        rintro c ⟨⟩
        exact congrArg some hheld
      obtain ⟨hasks, hleft⟩ := hclose
      refine ⟨fun x hx => ?_, fun told htold => hleft _ told (htold ▸ hc)⟩
      rcases List.mem_append.mp hx with hx | hx
      · exact hasked x hx
      · rcases List.mem_cons.mp hx with rfl | hx
        · trivial
        · exact hasks.mem hc x hx
  exact ⟨Dialogue.only_of_courses fun t result hc => (hcourses t result hc).1,
    fun t told hc => (hcourses t _ hc).2 told rfl⟩

/-- A run of a definition is carried out for the tenant of the definition. -/
theorem run_keepsTo (hd : d.tenantId = some tenant) (event : Event) (runId : String) :
    (e.run d event runId : Dialogue (Except Escape (RunResult τ))).KeepsTo d tenant := by
  refine keepsTo_clock fun reading => ?_
  dsimp only
  split
  · exact keepsTo_escape _
  · exact execute_keepsTo rfl (congrArg Value.optText hd)
  · refine finish_keepsTo ?_
    rintro c ⟨⟩

omit [ActiveTime τ] in
theorem restoredContext_tenantId {data : Entries Value} (h : restoredContext data = .ok c) :
    c.tenantId = (data.get? "tenant_id").getD .null := by
  have hc : Context.ofEntries data = .ok c := by
    unfold restoredContext at h
    split at h <;> cases h
    assumption
  unfold Context.ofEntries at hc
  split at hc
  · cases hc
  · dsimp only at hc
    split at hc <;> cases hc
    rfl

/-- A suspended run goes on for its tenant. -/
theorem resume_keepsTo {c : Continuation τ}
    (hread : Definition.codec.read (Value.object c.workflow) = .ok d)
    (hc : c.context.get? "tenant_id" = some (.text tenant)) :
    (e.resume c).KeepsTo d tenant := by
  unfold resume
  refine keepsTo_clock fun reading => ?_
  split
  · rename_i s hrestore
    refine execute_keepsTo (restore_workflow hrestore hread) ?_
    obtain ⟨workflow, -, h⟩ := Except.bind_eq_ok.mp hrestore
    obtain ⟨context, hcontext, h⟩ := Except.bind_eq_ok.mp h
    obtain ⟨steps, -, h⟩ := Except.bind_eq_ok.mp h
    obtain rfl := Except.ok.inj h
    have htenant := restoredContext_tenantId hcontext
    rwa [hc] at htenant
  · exact keepsTo_escape _
  · split
    · exact keepsTo_escape _
    · refine finish_keepsTo ?_
      rintro c ⟨⟩

end Engine

end Automation
