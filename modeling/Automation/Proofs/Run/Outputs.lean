import Automation.Context.Stack
import Automation.Proofs.Run.Record

/-!
# Outputs

The outputs that a run can look up are what its successful steps have left, each node's latest. They
are put into the store with a suspended run and read from there, apart from the steps; a loop's body
has a context of its own, which shares them with the contexts around it.
-/

namespace Automation

variable {τ : Type} {e : Engine} {s s' : RunState τ} {t : List Exchange}

/-! ## Names -/

namespace Entries

variable {α : Type}

theorem mem_keys {name : String} {entries : Entries α} :
    name ∈ entries.keys ↔ (entries.get? name).isSome := by
  induction entries with
  | nil => simp [keys]
  | cons entry rest ih =>
    obtain ⟨key, value⟩ := entry
    change name ∈ key :: keys rest ↔ _
    rw [List.mem_cons, ih, get?_cons]
    by_cases h : key = name
    · simp [h]
    · simp [h, Ne.symm h]

theorem keys_set_nodup {entries : Entries α} (h : entries.keys.Nodup) (name : String) (value : α) :
    (entries.set name value).keys.Nodup := by
  rw [keys_set]
  split
  · exact h
  · rename_i hnew
    have hone : [name].Nodup := by simp
    refine List.nodup_append.mpr ⟨h, hone, fun key hkey other hother => ?_⟩
    obtain rfl := List.mem_singleton.mp hother
    rintro rfl
    exact hnew (mem_keys.mp hkey)

end Entries

/-! ## Outputs of steps -/

namespace StepResult

/-- The outputs after a step: a success sets that of its node, a failure none. -/
def keep (outputs : Entries Value) (step : StepResult) : Entries Value :=
  match step.status with
  | .success => outputs.set step.nodeId (.object (step.output.getD []))
  | .failed => outputs

/-- The outputs that some steps leave, one after another. -/
def outputs (steps : List StepResult) : Entries Value := steps.foldl keep []

/-- A success of a node. -/
def Succeeds (nodeId : String) (step : StepResult) : Prop :=
  step.nodeId = nodeId ∧ step.status = .success

instance (nodeId : String) (step : StepResult) : Decidable (step.Succeeds nodeId) :=
  inferInstanceAs (Decidable (_ ∧ _))

/-- The latest success of a node. -/
def latest? (nodeId : String) (steps : List StepResult) : Option StepResult :=
  steps.reverse.find? fun step => step.Succeeds nodeId

variable {steps : List StepResult} {step : StepResult} {nodeId : String}

theorem outputs_concat (steps : List StepResult) (step : StepResult) :
    outputs (steps ++ [step]) = keep (outputs steps) step := by
  simp [outputs]

theorem latest?_concat (nodeId : String) (steps : List StepResult) (step : StepResult) :
    latest? nodeId (steps ++ [step]) =
      if step.Succeeds nodeId then some step else latest? nodeId steps := by
  simp only [latest?, List.reverse_append, List.reverse_singleton, List.singleton_append,
    List.find?_cons]
  by_cases h : step.Succeeds nodeId <;> simp [h]

theorem get?_keep (outputs : Entries Value) (step : StepResult) (nodeId : String) :
    (keep outputs step).get? nodeId =
      if step.Succeeds nodeId then some (.object (step.output.getD [])) else outputs.get? nodeId := by
  unfold keep
  split <;> rename_i hstatus
  · simp [Succeeds, hstatus, Entries.get?_set]
  · simp [Succeeds, hstatus]

theorem keys_keep_nodup {outputs : Entries Value} (h : outputs.keys.Nodup) (step : StepResult) :
    (keep outputs step).keys.Nodup := by
  unfold keep
  cases step.status with
  | failed => exact h
  | success => exact Entries.keys_set_nodup h _ _

/-- Each node has the output of its latest success. -/
theorem get?_outputs (nodeId : String) (steps : List StepResult) :
    (outputs steps).get? nodeId =
      (latest? nodeId steps).map fun step => .object (step.output.getD []) := by
  induction steps using List.reverseRecOn with
  | nil => rfl
  | append_singleton steps step ih =>
    rw [outputs_concat, latest?_concat, get?_keep, ih]
    split <;> rfl

theorem keys_outputs_nodup (steps : List StepResult) : (outputs steps).keys.Nodup := by
  induction steps using List.reverseRecOn with
  | nil => exact List.nodup_nil
  | append_singleton steps step ih =>
    rw [outputs_concat]
    exact keys_keep_nodup ih step

theorem latest?_isSome : (latest? nodeId steps).isSome ↔ ∃ step ∈ steps, step.Succeeds nodeId := by
  simp [latest?]

theorem mem_of_latest? (h : latest? nodeId steps = some step) :
    step ∈ steps ∧ step.Succeeds nodeId := by
  have hmem := List.mem_of_find?_eq_some h
  have hfound := List.find?_some h
  exact ⟨List.mem_reverse.mp hmem, of_decide_eq_true hfound⟩

end StepResult

/-! ## The outputs of a run -/

/-- The outputs of a run are exactly those of its steps: there is one for each node that has
succeeded, and it is that of the node's latest success. -/
structure RunState.HoldsLatest (s : RunState τ) : Prop where
  fold : s.context.outputs = StepResult.outputs s.stepResults
  nodup : s.context.outputs.keys.Nodup
  ids : ∀ nodeId, nodeId ∈ s.context.outputs.keys ↔
    ∃ step ∈ s.stepResults, step.nodeId = nodeId ∧ step.status = .success
  latest : ∀ nodeId, s.context.outputs.get? nodeId =
    ((StepResult.latest? nodeId s.stepResults).bind (·.output)).map .object

/-- The outputs of a run are those of its steps, and each success has an output. Nothing stands in
the way of further ones. -/
structure RunState.Accounted (s : RunState τ) : Prop where
  regular : s.context.odd = {}
  fold : s.context.outputs = StepResult.outputs s.stepResults
  filled : ∀ step ∈ s.stepResults, step.status = .success → ∃ output, step.output = some output

namespace RunState.Accounted

theorem holdsLatest (h : s.Accounted) : s.HoldsLatest := by
  have hlatest (nodeId : String) : s.context.outputs.get? nodeId =
      ((StepResult.latest? nodeId s.stepResults).bind (·.output)).map .object := by
    rw [h.fold, StepResult.get?_outputs]
    cases hfound : StepResult.latest? nodeId s.stepResults with
    | none => rfl
    | some step =>
      obtain ⟨hmem, -, hsuccess⟩ := StepResult.mem_of_latest? hfound
      obtain ⟨output, houtput⟩ := h.filled step hmem hsuccess
      simp [houtput]
  refine ⟨h.fold, ?_, fun nodeId => ?_, hlatest⟩
  · rw [h.fold]
    exact StepResult.keys_outputs_nodup _
  · rw [Entries.mem_keys, h.fold, StepResult.get?_outputs, Option.isSome_map]
    exact StepResult.latest?_isSome

/-- A further step, with what it leaves. -/
theorem add {step : StepResult} {outputs : Entries Value} (h : s.Accounted)
    (houtputs : outputs = StepResult.keep s.context.outputs step)
    (hfilled : step.status = .success → ∃ output, step.output = some output)
    {s' : RunState τ} (hcontext : s'.context = { s.context with outputs })
    (hsteps : s'.stepResults = s.stepResults ++ [step]) : s'.Accounted := by
  refine ⟨by rw [hcontext]; exact h.regular, ?_, fun x hx => ?_⟩
  · rw [hcontext, hsteps, StepResult.outputs_concat, houtputs, h.fold]
  · rw [hsteps] at hx
    rcases List.mem_append.mp hx with hx | hx
    · exact h.filled x hx
    · obtain rfl := List.mem_singleton.mp hx
      exact hfilled

end RunState.Accounted

/-! ## Walks that keep something -/

namespace Walk

variable {α β : Type} {P : RunState τ → Prop} {w : Walk τ α}

/-- What holds before a walk holds after it, however it ends. -/
def Keeps (P : RunState τ → Prop) (w : Walk τ α) : Prop :=
  ∀ ⦃s t r s'⦄, P s → w.Course s t r s' → P s'

theorem keeps_pure (a : α) : Keeps P (pure a : Walk τ α) := by
  intro s t r s' hs h
  obtain ⟨-, -, rfl⟩ := course_pure.mp h
  exact hs

theorem keeps_throw (halt : Halt) : Keeps P (throw halt : Walk τ α) := by
  intro s t r s' hs h
  obtain ⟨-, -, rfl⟩ := course_throw.mp h
  exact hs

theorem keeps_modify {f : RunState τ → RunState τ} (hf : ∀ s, P s → P (f s)) :
    Keeps P (modify f : Walk τ PUnit) := by
  intro s t r s' hs h
  obtain ⟨-, -, rfl⟩ := course_modify.mp h
  exact hf s hs

theorem keeps_lift (d : Dialogue α) : Keeps P (liftM d : Walk τ α) := by
  intro s t r s' hs h
  obtain ⟨_, -, rfl, -⟩ := course_lift.mp h
  exact hs

theorem keeps_request (q : Request) : Keeps P (request q : Walk τ q.Answer) :=
  keeps_lift (Dialogue.request q)

theorem keeps_contextWith (locals : Entries Value) :
    Keeps P (contextWith locals : Walk τ Context) := by
  intro s t r s' hs h
  obtain ⟨-, -, rfl⟩ := course_contextWith.mp h
  exact hs

theorem Keeps.bind {f : α → Walk τ β} (hw : Keeps P w) (hf : ∀ a, Keeps P (f a)) :
    Keeps P (w >>= f) := by
  intro s t r s' hs h
  rcases course_bind.mp h with ⟨halt, rfl, hfirst⟩ | ⟨a, t₁, t₂, s₁, rfl, hfirst, hrest⟩
  · exact hw hs hfirst
  · exact hf a (hw hs hfirst) hrest

theorem Keeps.map {f : α → β} (hw : Keeps P w) : Keeps P (f <$> w) := by
  intro s t r s' hs h
  obtain ⟨_, -, h⟩ := course_map.mp h
  exact hw hs h

end Walk

/-! ## Visits -/

open Walk (Keeps keeps_pure keeps_throw keeps_modify keeps_request keeps_lift keeps_contextWith)

namespace Visit

variable {v : Visit} {iteration : Option Int}

/-- The index of the iteration can be told wherever the locals are those of loops. -/
theorem iteration_of_around {n : Node} {place : List Nat} {locals : Entries Value} {started : Nat}
    (h : Around place locals) :
    ∃ iteration, (Visit.mk n locals started).iteration = .ok iteration := by
  cases h with
  | outside => exact ⟨none, rfl⟩
  | @inside _ locals index item h =>
    refine ⟨some index, ?_⟩
    have hindex : (Engine.iterationLocals locals index item).get? "index" = some (.int index) := by
      simp [Engine.iterationLocals, Entries.merge, Entries.get?_set]
    unfold Visit.iteration
    dsimp only
    rw [hindex]
    rfl

theorem record_of_ok {o : Outcome} {r : Except Halt Unit} (hv : v.iteration = .ok iteration)
    (hodd : s.context.odd = {}) (h : (v.record e o).Course s t r s') :
    r = .ok () ∧ ∃ finished, s' =
      { s with stepResults := s.stepResults ++ [v.result e o iteration finished] } := by
  have hfits : s.context.localsMisfit = none := by rw [Context.localsMisfit, hodd]; rfl
  rcases Walk.course_unlessMisfit_bind.mp h with ⟨m, hm, -⟩ | ⟨-, h⟩
  · cases hfits.symm.trans hm
  obtain ⟨finished, t', rfl, hrest⟩ := Walk.course_clock_bind.mp h
  rw [hv] at hrest
  obtain ⟨rfl, rfl, rfl⟩ := Walk.course_modify.mp hrest
  exact ⟨rfl, finished, rfl⟩

/-- Output and result of a success come one after the other. In between the two do not fit, but
nothing can break off there. -/
theorem succeed_accounted (hv : v.iteration = .ok iteration) (input output : Entries Value)
    (attempts : Int) :
    Keeps RunState.Accounted (v.succeed e input output attempts : Walk τ Unit) := by
  intro s t r s' hs h
  have hfits : s.context.outputsMisfit = none := by rw [Context.outputsMisfit, hs.regular]; rfl
  rw [succeed] at h
  rcases Walk.course_recordOutput_bind.mp h with ⟨m, hm, -⟩ | ⟨-, h⟩
  · cases hfits.symm.trans hm
  obtain ⟨-, finished, rfl⟩ := record_of_ok (s := { s with
    context := s.context.recordOutput v.node.id (.object output) }) hv hs.regular h
  exact hs.add rfl (fun _ => ⟨output, rfl⟩) rfl rfl

theorem fail_accounted (hv : v.iteration = .ok iteration) (error errorKind : String)
    (input : Option (Entries Value)) (attempts : Int) (fatal : Bool) :
    Keeps RunState.Accounted (v.fail e error errorKind input attempts fatal : Walk τ Unit) := by
  have hrest : ∀ message : String, Keeps RunState.Accounted
      (if v.node.abortOnFailure = true then throw (.failed message) else pure () : Walk τ Unit) := by
    intro message
    split
    · exact keeps_throw _
    · exact keeps_pure _
  refine .bind ?_ fun _ => ?_
  · intro s t r s' hs h
    obtain ⟨-, finished, rfl⟩ := record_of_ok hv hs.regular h
    refine hs.add rfl (fun hstatus => ?_) rfl rfl
    cases hstatus
  · dsimp only
    split
    · exact .bind (keeps_throw _) fun _ => hrest _
    · exact hrest _

end Visit

namespace Engine

section Visits

variable {v : Visit} {iteration : Option Int}

theorem visitAction_accounted (hv : v.iteration = .ok iteration) (a : Action) :
    Keeps RunState.Accounted (e.visitAction v a : Walk τ Unit) := by
  unfold visitAction
  refine (keeps_contextWith _).bind fun c => ?_
  split
  · exact keeps_throw _
  · exact Visit.fail_accounted hv _ _ _ _ _
  · dsimp only
    split
    · exact Visit.fail_accounted hv _ _ _ _ _
    · refine (keeps_lift _).bind fun performed => ?_
      obtain ⟨result, attempts⟩ := performed
      dsimp only
      split
      · exact Visit.succeed_accounted hv _ _ _
      · exact Visit.fail_accounted hv _ _ _ _ _
      · exact Visit.fail_accounted hv _ _ _ _ _

theorem visitBranch_accounted (hv : v.iteration = .ok iteration) (b : Branch) :
    Keeps RunState.Accounted (e.visitBranch v b : Walk τ (List String)) := by
  unfold visitBranch
  refine (keeps_contextWith _).bind fun c => ?_
  dsimp only
  split
  · exact (Visit.succeed_accounted hv _ _ _).bind fun _ => keeps_pure _
  · exact (Visit.fail_accounted hv _ _ _ _ _).bind fun _ => keeps_pure _
  · exact (Visit.fail_accounted hv _ _ _ _ _).bind fun _ => keeps_pure _
  · exact keeps_throw _
  · exact keeps_throw _

theorem visitLoop_accounted (hv : v.iteration = .ok iteration) (l : Loop) :
    Keeps RunState.Accounted (e.visitLoop v l : Walk τ (List (Entries Value))) := by
  unfold visitLoop
  generalize Template.stripPlaceholder l.items = path
  refine (keeps_contextWith _).bind fun c => ?_
  split
  · exact keeps_throw _
  · exact (Visit.fail_accounted hv _ _ _ _ _).bind fun _ => keeps_pure _
  · exact (Visit.succeed_accounted hv _ _ _).bind fun _ => keeps_pure _
  · exact (Visit.fail_accounted hv _ _ _ _ _).bind fun _ => keeps_pure _

variable [ActiveTime τ]

theorem wait_accounted (seconds : Float) :
    Keeps RunState.Accounted (Walk.wait seconds : Walk τ Unit) := by
  refine (keeps_request _).bind fun start => ?_
  refine (keeps_request _).bind fun waited => ?_
  split
  · exact keeps_throw _
  · exact (keeps_request _).bind fun finish => keeps_modify fun s hs => ⟨hs.regular, hs.fold, hs.filled⟩

theorem visitDelay_accounted (hv : v.iteration = .ok iteration) (d : Delay) (top : Bool) :
    Keeps RunState.Accounted (e.visitDelay v d top : Walk τ Unit) := by
  unfold visitDelay
  dsimp only
  split
  · split
    · exact keeps_throw _
    · exact (Visit.succeed_accounted hv _ _ _).bind fun _ => keeps_throw _
  · split
    · exact Visit.succeed_accounted hv _ _ _
    · exact (wait_accounted _).bind fun _ => Visit.succeed_accounted hv _ _ _

/-- Outputs and steps fit after a visit if they fit before it. A visit that leaves no result leaves
no output. -/
theorem visit_accounted {n : Node} {locals : Entries Value} {place : List Nat}
    (hplace : Around place locals) (top : Bool) :
    Keeps RunState.Accounted (e.visit n locals top) (τ := τ) := by
  refine (keeps_request _).bind fun started => ?_
  obtain ⟨iteration, hv⟩ : ∃ i, (Visit.mk n locals started).iteration = .ok i :=
    Visit.iteration_of_around hplace
  dsimp only
  split
  · exact (visitAction_accounted hv _).bind fun _ => keeps_pure _
  · exact (visitBranch_accounted hv _).bind fun _ => keeps_pure _
  · exact (visitLoop_accounted hv _).bind fun _ => keeps_pure _
  · exact (visitDelay_accounted hv _ _).bind fun _ => keeps_pure _

theorem step_accounted {errand : Errand} {r : Except Halt (List Errand)} (hplaced : errand.Placed)
    (hs : s.Accounted) (h : (e.step errand).Course s t r s') : s'.Accounted := by
  cases step_cases h with
  | tooDeep | ended | missing | stopped => exact hs
  | entered | left => exact ⟨hs.regular, hs.fold, hs.filled⟩
  | halted hn hb hv | visited hn hb hv =>
    obtain ⟨place, hplace⟩ := hplaced _ rfl
    have hcounted : s.counted.Accounted := ⟨hs.regular, hs.fold, hs.filled⟩
    exact visit_accounted hplace _ hcounted hv

end Visits

end Engine

/-! ## Contexts of loop bodies -/

namespace Context.Stack

/-- A context and the contexts of loop bodies inside it, each the child of the one before. -/
def nest (c : Context) (bindings : List (Entries Value)) : Stack :=
  bindings.foldl (fun s b => s.pushChild (s.members.length - 1) b) (({} : Stack).push c)

/-- What a step leaves in the context at a position. -/
def keep (s : Stack) (position : Nat) (step : StepResult) : Stack :=
  match step.status with
  | .success => s.recordOutput position step.nodeId (.object (step.output.getD []))
  | .failed => s

/-- Contexts inside each other: they share their outputs, and the innermost has all bindings. -/
structure Nested (s : Stack) (c : Context) (bindings : List (Entries Value)) : Prop where
  length : s.members.length = bindings.length + 1
  shared : ∀ member ∈ s.members, member.1 = 0 ∧ member.2.outputs = c.outputs
  innermost : s.members[bindings.length]? = some (0, bindings.foldl Context.child c)

theorem Nested.pushChild {s : Stack} {c : Context} {bindings : List (Entries Value)}
    (h : s.Nested c bindings) (b : Entries Value) :
    (s.pushChild bindings.length b).Nested c (bindings ++ [b]) := by
  have hmem := h.shared _ (List.mem_of_getElem? h.innermost)
  have hmembers : (s.pushChild bindings.length b).members =
      s.members ++ [(0, (bindings.foldl Context.child c).child b)] := by
    unfold Stack.pushChild
    rw [h.innermost]
  refine ⟨by simp [hmembers, h.length], fun member hmember => ?_, ?_⟩
  · rw [hmembers] at hmember
    rcases List.mem_append.mp hmember with hold | hnew
    · exact h.shared member hold
    · obtain rfl := List.mem_singleton.mp hnew
      exact hmem
  · rw [hmembers, List.length_append, List.length_singleton, ← h.length]
    simp

theorem nest_nested (c : Context) (bindings : List (Entries Value)) :
    (nest c bindings).Nested c bindings := by
  induction bindings using List.reverseRecOn with
  | nil => exact ⟨rfl, by simp [nest, push], rfl⟩
  | append_singleton bindings b ih =>
    have hnest : nest c (bindings ++ [b]) = (nest c bindings).pushChild bindings.length b := by
      unfold nest
      rw [List.foldl_append, List.foldl_cons, List.foldl_nil]
      congr 1
      exact Nat.sub_eq_of_eq_add ih.length
    rw [hnest]
    exact ih.pushChild b

/-- What a step leaves in the innermost context, all of them have. -/
theorem Nested.keep {s : Stack} {c : Context} {bindings : List (Entries Value)}
    (h : s.Nested c bindings) (step : StepResult) :
    ∀ member ∈ (s.keep bindings.length step).members, member.2.outputs = step.keep c.outputs := by
  unfold Stack.keep StepResult.keep
  split
  · unfold recordOutput
    rw [h.innermost]
    intro member hmember
    obtain ⟨⟨group, old⟩, hold, rfl⟩ := List.mem_map.mp hmember
    obtain ⟨hgroup, houtputs⟩ := h.shared _ hold
    dsimp only
    rw [if_pos hgroup]
    exact congrArg (Entries.set step.nodeId _) houtputs
  · exact fun member hmember => (h.shared member hmember).2

end Context.Stack

/-- The locals of loops are the bindings of their iterations, one after another. -/
theorem Around.bindings {place : List Nat} {locals : Entries Value} (h : Around place locals) :
    ∃ bindings : List (Entries Value), ∀ c : Context, c.locals = [] →
      bindings.foldl Context.child c = { c with locals } := by
  induction h with
  | outside =>
    refine ⟨[], fun c hc => ?_⟩
    rw [← hc]
    rfl
  | @inside place locals index item h ih =>
    obtain ⟨bindings, hbindings⟩ := ih
    refine ⟨bindings ++ [[("item", item), ("index", .int index),
      ("_iteration", .text (Engine.iterationPath locals index))]], fun c hc => ?_⟩
    rw [List.foldl_append, hbindings c hc]
    rfl

/-- The visit of a pass is in the innermost of contexts that share their outputs, and what its step
leaves there is what the run has after it. -/
def Pass.InSharedContext (p : Pass τ) : Prop :=
  ∀ id locals top, p.errand = .go (some id) locals top →
    ∃ bindings : List (Entries Value),
      let contexts := Context.Stack.nest p.before.context bindings
      contexts.get? bindings.length = some { p.before.context with locals } ∧
      ∀ step, p.Records step → ∀ member ∈ (contexts.keep bindings.length step).members,
        member.2.outputs = p.after.context.outputs

/-! ## Runs -/

variable [ActiveTime τ]

namespace Engine

/-- What a step leaves that a pass has recorded. -/
theorem Does.keep {p : Pass τ} {step : StepResult} (h : e.Does p) (hplaced : p.errand.Placed)
    (hs : p.before.Accounted) (hstep : p.Records step) :
    p.after.context.outputs = step.keep p.before.context.outputs := by
  obtain ⟨_, _, _, _, _, _, _, _, hadded⟩ := hstep
  have hafter := step_accounted hplaced hs h
  rw [hafter.fold, hadded, StepResult.outputs_concat, hs.fold]

theorem Does.inSharedContext {p : Pass τ} (h : e.Does p) (hplaced : p.errand.Placed)
    (hs : p.before.Accounted) (hlocals : p.before.context.locals = []) : p.InSharedContext := by
  intro id locals top herrand
  obtain ⟨place, hplace⟩ := hplaced locals (by rw [herrand]; rfl)
  obtain ⟨bindings, hbindings⟩ := hplace.bindings
  have hnested := Context.Stack.nest_nested p.before.context bindings
  refine ⟨bindings, ?_, fun step hstep member hmember => ?_⟩
  · unfold Context.Stack.get?
    rw [hnested.innermost, hbindings _ hlocals]
    rfl
  · rw [h.keep hplaced hs hstep]
    exact hnested.keep step member hmember

/-- What holds of the outputs in a pass: at both of its ends they are those of the steps so far; its
visit sees and sets them, at whatever depth it is; and a failed step leaves them as they are. -/
structure OutputsIn (p : Pass τ) : Prop where
  before : p.before.HoldsLatest
  after : p.after.HoldsLatest
  shared : p.InSharedContext
  failed : ∀ step, p.Records step → step.status = .failed →
    p.after.context.outputs = p.before.context.outputs

theorem Does.outputsIn {p : Pass τ} (h : e.Does p) (hplaced : p.errand.Placed)
    (hs : p.before.Accounted) (hlocals : p.before.context.locals = []) : OutputsIn p := by
  refine ⟨hs.holdsLatest, (step_accounted hplaced hs h).holdsLatest,
    h.inSharedContext hplaced hs hlocals, fun step hstep hstatus => ?_⟩
  rw [h.keep hplaced hs hstep, StepResult.keep, hstatus]

/-- One segment: the induction is on its passes, and the locals of their errands are those of
loops. -/
theorem DoesSegment.outputs {g : Segment τ} (hg : e.DoesSegment g) (hs : g.before.Settled)
    (hfirst : g.before.Accounted) : g.after.Accounted ∧ ∀ p ∈ g.log, OutputsIn p := by
  have hstart : ∀ x ∈ [Errand.go g.start g.before.context.locals true], x.Placed := by
    refine List.forall_mem_singleton.mpr ?_
    rintro locals ⟨⟩
    exact ⟨[], hs.locals ▸ .outside⟩
  obtain ⟨hafter, hlog⟩ := hg.passes.all (I := RunState.Accounted) (P := Errand.Placed)
    (fun p hp hbefore hplaced => ⟨step_accounted hplaced hbefore hp, fun more hmore => by
      unfold Does at hp
      rw [hmore] at hp
      exact step_placed hplaced hp⟩)
    hfirst hstart
  refine ⟨hafter, fun p hp => ?_⟩
  obtain ⟨hdoes, _, _, _, _, _, _, hbefore⟩ := hg.passes.mem hp
  have hlocals : p.before.context.locals = [] := by
    rw [hbefore]
    exact hs.locals
  exact hdoes.outputsIn (hlog p hp).2 (hlog p hp).1 hlocals

/-- A run of a definition with problems leaves no step, and it is over. -/
theorem run_invalid {d : Definition} {event : Event} {runId : String}
    {result : Except Escape (RunResult τ)} (hd : ¬d.Valid)
    (h : (e.run d event runId).Course t result) :
    ∀ told, result = .ok told → told.stepResults = [] ∧ told.continuation = none := by
  obtain ⟨reading, t', rfl, hrest⟩ := Dialogue.course_ask.mp h
  have hfinish : ∀ {t : List Exchange} {error : Option String},
      (e.finish runId d.id (e.stamp reading) [] .failed error none).Course t result →
      ∀ told, result = .ok told → told.stepResults = [] ∧ told.continuation = none := by
    intro t error hc told htold
    obtain ⟨_, _, _, -, -, hpure⟩ := Dialogue.course_bind.mp hc
    obtain ⟨-, rfl⟩ := Dialogue.course_pure.mp hpure
    obtain ⟨durationMs, -, rfl⟩ := Except.map_eq_ok.mp htold
    exact ⟨rfl, rfl⟩
  dsimp only at hrest
  split at hrest
  · obtain ⟨-, rfl⟩ := Dialogue.course_done.mp hrest
    intro told htold
    cases htold
  · rename_i hproblems _
    exact absurd hproblems hd
  · exact hfinish hrest

theorem stored_invalid {d : Definition} {event : Event} {runId : String}
    {results : List (Except Escape (RunResult τ))} (hd : ¬d.Valid)
    (h : e.Stored (e.run d event runId) t results) :
    ∀ told, .ok told ∈ results → told.stepResults = [] := by
  cases h with
  | last h =>
    intro told htold
    obtain rfl := List.mem_singleton.mp htold
    exact (run_invalid hd h told rfl).1
  | resumed h hc =>
    have hnone := (run_invalid hd h _ rfl).2
    rw [hc] at hnone
    cases hnone

/-- At both ends of every pass of every run, at whatever depth and after any number of suspensions,
the outputs are exactly those of the steps so far: each node that has succeeded has that of its
latest success. A failed step changes none, and the contexts of loop bodies see and set the same
outputs as those around them. A run of a definition with problems has no steps. -/
theorem outputs_hold_latest [ActiveTime.Storable τ] {σ : Type} [Schema.Source σ] {x y : σ}
    {d : Definition} {event : Event} {runId : String} (hd : Definition.codec.read x = .ok d)
    (hevent : Event.codec.read y = .ok event) :
    (∀ t (results : List (Except Escape (RunResult τ))), e.OnCalendar t →
      e.Stored (e.run d event runId) t results →
      (∃ story : List (Segment τ), e.Story d event runId story ∧
        List.Forall₂ Segment.Tells story results ∧ Exchange.deeds t = Segment.deeds story) ∨
      ∀ told, .ok told ∈ results → told.stepResults = []) ∧
    ∀ story : List (Segment τ), e.Story d event runId story → ∀ g ∈ story,
      g.before.HoldsLatest ∧ g.after.HoldsLatest ∧ ∀ p ∈ g.log, OutputsIn p := by
  have hwell := Definition.codec_ensures.of_read x d hd
  have hstorable := Event.codec_ensures.of_read y event hevent
  refine ⟨fun t results ht h => ?_, ?_⟩
  · by_cases hvalid : d.Valid
    · exact .inl (stored_story hwell hvalid hstorable ht h)
    · exact .inr (stored_invalid hvalid h)
  · rintro story ⟨entry, reading, -, hreading, hchain⟩
    -- What is restored of a segment has its outputs and its steps, so the two still fit.
    refine hchain.all (J := fun s _ => s.Accounted) (fun g hg hs hfirst => ?_)
      (opening_settled hwell hstorable hreading) ⟨rfl, rfl, fun _ h => absurd h List.not_mem_nil⟩
    obtain ⟨hafter, hlog⟩ := hg.outputs hs hfirst
    exact ⟨⟨hfirst.holdsLatest, hafter.holdsLatest, hlog⟩,
      fun next resumeAt _ suspended woken => ⟨hafter.regular, hafter.fold, hafter.filled⟩⟩

/-- A node that has succeeded twice has one output, beside that of the loop around it. -/
theorem notesOn_outputs :
    let d := Definition.notesOn "people"
    let event : Event := { Event.manual with payload := [("people", .texts ["Ada", "Bob"])] }
    Definition.codec.read (Definition.codec.write .wire d) = .ok d ∧
      Event.codec.read (Event.codec.write .wire event) = .ok event ∧
      ∃ g : Segment Float, alone.Story d event "run-1" [g] ∧
        g.after.stepResults.map (·.nodeId) = ["each", "note", "note"] ∧
        g.after.context.outputs.keys = ["each", "note"] ∧ g.after.HoldsLatest ∧
        ∀ p ∈ g.log, OutputsIn p := by
  intro d event
  have hread : Definition.codec.read (Definition.codec.write .wire d) = .ok d :=
    (Definition.codec_restores (Definition.notesOn_wellFormed "people")).read
  have hevent : Event.codec.read (Event.codec.write .wire event) = .ok event :=
    (Event.codec_restores (by rintro _ ⟨⟩)).read
  have hplayed : (alone.play Dialogue.granting 10 [.go (some "each") [] true]
      (alone.opening d event "run-1" 0 : RunState Float)).map
      (fun (_, _, s) => (s.stepResults.map (·.nodeId), s.context.outputs.keys))
      = some (["each", "note", "note"], ["each", "note"]) := by
    decide +kernel
  obtain ⟨⟨log, r, s'⟩, hplay, heq⟩ := Option.map_eq_some_iff.mp hplayed
  obtain ⟨hids, hkeys⟩ := Prod.mk.inj heq
  have hclock : Dialogue.granting .clock = (0 : Nat) := rfl
  have hentry : d.entry? = some _ := rfl
  have hstory := Story.of_play hentry hclock (by decide) hplay
  obtain ⟨-, hafter, hlog⟩ := (outputs_hold_latest (e := alone) (τ := Float) hread hevent).2 _ hstory
    _ (List.mem_singleton_self _)
  exact ⟨hread, hevent, _, hstory, hids, hkeys, hafter, hlog⟩

end Engine

end Automation
