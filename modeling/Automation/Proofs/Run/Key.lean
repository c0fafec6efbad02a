import Automation.Proofs.Run.Reference

/-!
# Keys of writes

Every write to the record store carries a key, made from the id of the run, the id of the node and
the indices of the loop iterations around the visit. All attempts of a visit carry one key. Two
visits carry the same key if they are at the same node in iterations of the same indices, and beyond
that only where the id of one node is that of the other with a place behind it.
-/

namespace Automation

variable {τ : Type} [ActiveTime τ] {e : Engine} {s s' : RunState τ} {t : List Exchange}

/-! ## Spots -/

/-- Where a node is visited: the indices of the iterations around the visit, the outermost first. -/
structure Spot where
  node : String
  place : List Nat
deriving DecidableEq, Repr

namespace Spot

/-- A place in words. -/
def placeText (place : List Nat) : String := Text.join "." (place.map toString)

/-- The key of the writes of a run at a spot. -/
def key (runId : String) (a : Spot) : String :=
  runId ++ ":" ++ a.node ++ if a.place = [] then "" else ":" ++ placeText a.place

/-- A spot outside all loops, at a node whose id ends like the key of a spot inside some. -/
def Shadows (a b : Spot) : Prop :=
  a.place = [] ∧ b.place ≠ [] ∧ a.node = b.node ++ ":" ++ placeText b.place

variable {place place' : List Nat}

theorem placeText_concat (index : Nat) (h : place ≠ []) :
    placeText (place ++ [index]) = placeText place ++ "." ++ toString index := by
  have hmap : place.map toString ≠ [] := by simpa using h
  unfold placeText Text.join
  rw [List.map_append, List.map_singleton,
    String.intercalate_append_of_ne_nil hmap (List.cons_ne_nil _ _), String.intercalate_singleton]

theorem placeText_toList (place : List Nat) :
    (placeText place).toList = ['.'].intercalate (place.map (Nat.toDigits 10)) := by
  unfold placeText Text.join
  rw [String.toList_intercalate, List.map_map]
  congr 1
  refine List.map_congr_left fun n _ => ?_
  rw [Function.comp_apply, Nat.toString_eq_repr, Nat.toList_repr]

theorem not_mem_toDigits {n : Nat} {c : Char} (h : c.isDigit = false) : c ∉ Nat.toDigits 10 n := by
  intro hmem
  rw [Nat.isDigit_of_mem_toDigits (by decide) (by decide) hmem] at h
  cases h

theorem splitOn_placeText (h : place ≠ []) :
    (placeText place).toList.splitOn '.' = place.map (Nat.toDigits 10) := by
  rw [placeText_toList]
  apply List.splitOn_intercalate
  · intro digits hdigits
    obtain ⟨n, -, rfl⟩ := List.mem_map.mp hdigits
    exact not_mem_toDigits (by decide)
  · simpa using h

theorem placeText_injective (h : place ≠ []) (h' : place' ≠ [])
    (heq : placeText place = placeText place') : place = place' := by
  have hsplit := splitOn_placeText h
  rw [heq, splitOn_placeText h'] at hsplit
  refine (List.map_inj_right fun n m hnm => ?_).mp hsplit.symm
  have hread := congrArg Text.natOfDigits? hnm
  simpa only [Text.natOfDigits?_toDigits, Option.some.injEq] using hread

/-- There is no colon in the words of a place. -/
theorem colon_not_mem (place : List Nat) : ':' ∉ (placeText place).toList := by
  rw [placeText_toList]
  -- A place is written in digits with dots between them.
  induction place with
  | nil => exact List.not_mem_nil
  | cons n rest ih =>
    have hdigits : ':' ∉ Nat.toDigits 10 n := not_mem_toDigits (by decide)
    cases rest with
    | nil => simpa using hdigits
    | cons m rest =>
      rw [List.map_cons] at ih ⊢
      rw [List.map_cons, List.intercalate_cons_cons]
      simp only [List.mem_append, List.mem_singleton, not_or]
      exact ⟨⟨hdigits, by decide⟩, ih⟩

/-- Two lists that end in the same way from the last of some letter on are the same before it. -/
theorem append_cons_inj {α : Type} {xs ys xs' ys' : List α} {c : α} (h : c ∉ ys) (h' : c ∉ ys')
    (heq : xs ++ c :: ys = xs' ++ c :: ys') : xs = xs' ∧ ys = ys' := by
  rcases List.append_eq_append_iff.mp heq with ⟨more, rfl, hmore⟩ | ⟨more, rfl, hmore⟩
  · cases more with
    | nil => simpa using hmore
    | cons first more =>
      obtain ⟨rfl, rfl⟩ := List.cons.inj hmore
      exact absurd (List.mem_append_right more List.mem_cons_self) h
  · cases more with
    | nil => simpa using hmore.symm
    | cons first more =>
      obtain ⟨rfl, rfl⟩ := List.cons.inj hmore
      exact absurd (List.mem_append_right more List.mem_cons_self) h'

theorem node_place_inj {node node' : String} (h : place ≠ []) (h' : place' ≠ [])
    (heq : node ++ (":" ++ placeText place) = node' ++ (":" ++ placeText place')) :
    node = node' ∧ place = place' := by
  have hchars : node.toList ++ ':' :: (placeText place).toList
      = node'.toList ++ ':' :: (placeText place').toList := by
    simpa using congrArg String.toList heq
  obtain ⟨hnode, hplace⟩ := append_cons_inj (colon_not_mem place) (colon_not_mem place') hchars
  exact ⟨String.toList_inj.mp hnode, placeText_injective h h' (String.toList_inj.mp hplace)⟩

/-- Two spots have the same key only if they are the same or one shadows the other. -/
theorem key_eq_iff (runId : String) (a b : Spot) :
    a.key runId = b.key runId ↔ a = b ∨ a.Shadows b ∨ b.Shadows a := by
  obtain ⟨node, place⟩ := a
  obtain ⟨node', place'⟩ := b
  simp only [key, Shadows, String.append_assoc, String.append_right_inj]
  -- Behind the id of the run a key is the id of the node, or this with a colon and a place after it.
  by_cases h : place = [] <;> by_cases h' : place' = []
  · simp [h, h']
  · simp [h, h', eq_comm]
  · simp [h, h', eq_comm]
  · simp only [h, h', if_false, false_and, or_false, Spot.mk.injEq]
    constructor
    · exact node_place_inj h h'
    · rintro ⟨rfl, rfl⟩
      rfl

end Spot

/-! ## Places of locals -/

/-- The locals of a visit, with the indices of the iterations that have set them. -/
inductive Around : List Nat → Entries Value → Prop where
  | outside : Around [] []
  | inside {place : List Nat} {locals : Entries Value} (index : Nat) (item : Value)
      (h : Around place locals) : Around (place ++ [index]) (Engine.iterationLocals locals index item)

/-- The locals remember the place. -/
theorem Around.iteration {place : List Nat} {locals : Entries Value} (h : Around place locals) :
    locals.get? "_iteration" = if place = [] then none else some (.text (Spot.placeText place)) := by
  induction h with
  | outside => rfl
  | @inside place locals index item h ih =>
    -- The loop reads the indices so far from the locals around it, and adds its own at the end.
    have hset : (Engine.iterationLocals locals index item).get? "_iteration"
        = some (.text (Engine.iterationPath locals index)) := by
      simp [Engine.iterationLocals, Entries.merge, Entries.get?_set]
    rw [hset, if_neg (by simp), Engine.iterationPath, ih]
    by_cases hplace : place = []
    · rw [if_pos hplace, hplace]
      rfl
    · rw [if_neg hplace, Spot.placeText_concat index hplace]
      rfl

theorem Around.idempotencyKey {place : List Nat} {c : Context} {runId : String}
    (h : Around place c.locals) (hrun : c.runId = .text runId) (nodeId : String) :
    c.idempotencyKey nodeId = Spot.key runId ⟨nodeId, place⟩ := by
  unfold Context.idempotencyKey Spot.key
  rw [h.iteration, hrun]
  by_cases hplace : place = []
  · rw [if_pos hplace, if_pos hplace]
    exact String.append_empty.symm
  · rw [if_neg hplace, if_neg hplace]
    exact String.append_assoc

/-! ## Writes -/

/-- The key that a call carries, if it is a write. -/
def Call.writeKey? : Call → Option String
  | .createRecord _ _ _ key | .updateRecord _ _ _ _ key | .addNote _ _ _ key => some key
  | _ => none

/-- The call of an exchange, if it is one. -/
def Exchange.call? (x : Exchange) : Option Call :=
  match x.request with
  | .call c _ => some c
  | _ => none

/-- The calls of a pass. -/
def Pass.calls (p : Pass τ) : List Call := p.exchanges.filterMap Exchange.call?

/-- The keys of the writes of a pass. -/
def Pass.writeKeys (p : Pass τ) : List String := p.calls.filterMap Call.writeKey?

/-- A pass visits a node at a spot. -/
def Pass.At (p : Pass τ) (a : Spot) : Prop :=
  ∃ locals top, p.errand = .go (some a.node) locals top ∧ Around a.place locals

/-- The locals that an errand takes along. -/
def Errand.locals? : Errand → Option (Entries Value)
  | .enter _ locals | .go _ locals _ => some locals
  | .leave => none

/-- An errand whose locals have a place. -/
def Errand.Placed (errand : Errand) : Prop :=
  ∀ locals ∈ errand.locals?, ∃ place, Around place locals

/-! ### Plans -/

/-- A plan that is there makes a call of some kind. -/
def Plan.Makes (P : Call → Prop) (made : Except Fault Plan) : Prop :=
  ∀ plan, made = .ok plan → P plan.call

namespace Plan.Makes

variable {P : Call → Prop}

theorem error (fault : Fault) : Makes P (.error fault) := by
  rintro _ ⟨⟩

theorem ok {plan : Plan} (h : P plan.call) : Makes P (.ok plan) := by
  rintro _ ⟨⟩
  exact h

theorem bind {α : Type} {x : Except Fault α} {f : α → Except Fault Plan}
    (h : ∀ a, Makes P (f a)) : Makes P (x >>= f) := by
  intro plan hplan
  obtain ⟨a, -, hf⟩ := Except.bind_eq_ok.mp hplan
  exact h a plan hf

/-- A check that can fail before a plan. -/
theorem check {b : Prop} [Decidable b] {fault : Fault} {made : Except Fault Plan}
    (h : Makes P made) :
    Makes P (if b then (Except.error fault : Except Fault PUnit) >>= fun _ => made else made) := by
  split
  · exact .bind fun _ => h
  · exact h

end Plan.Makes

open Plan (Makes)

/-- The calls that an action at a node can plan. -/
inductive Action.Calls (nodeId : String) (c : Context) : Action → Call → Prop where
  | sendSms (a : SendSms) (recipient body : String) :
      Calls nodeId c (.sendSms a) (.sendSms c.tenantId recipient body)
  | sendEmail (a : SendEmail) (recipient : String) :
      Calls nodeId c (.sendEmail a) (.sendEmail c.tenantId recipient a.subject a.body a.attachments)
  | makeCall (a : MakeCall) (agent phone : String) :
      Calls nodeId c (.makeCall a) (.placeCall c.tenantId agent phone)
  | sendSlack (a : SendSlack) (channel : String) :
      Calls nodeId c (.sendSlack a) (.postSlackMessage c.tenantId channel a.text)
  | createRecord (a : Action) (kind : String) (fields : Entries Value) :
      Calls nodeId c a (.createRecord c.tenantId kind fields (c.idempotencyKey nodeId))
  | updateRecord (a : Action) (kind id : String) (fields : Entries Value) :
      Calls nodeId c a (.updateRecord c.tenantId kind id fields (c.idempotencyKey nodeId))
  | addNote (a : AddNote) (target : String) :
      Calls nodeId c (.addNote a) (.addNote c.tenantId target a.text (c.idempotencyKey nodeId))
  | createEvent (a : Action) (calendar title : String) (description : Option String)
      (start finish : String) (attendees : List String) (invites : Bool) :
      Calls nodeId c a
        (.createEvent c.tenantId calendar title description start finish attendees invites)
  | addSheetRow (a : SheetRow) (base sheet : String) (headers : Entries String) (body : Value)
      (timeoutMs : Int) :
      Calls nodeId c (.addSheetRow a) (.request "POST"
        (base ++ "/api/v1/tenants/" ++ c.tenantId.display ++ "/google-sheets/" ++ sheet ++ "/rows")
        headers body timeoutMs)
  | webhook (a : HttpAction) (method url : String) (headers : Entries String) (now : Time.Stamp)
      (timeoutMs : Int) :
      Calls nodeId c (.webhook a) (.request method url headers (webhookBody a.body c now) timeoutMs)
  | apiCall (a : HttpAction) (method url : String) (headers : Entries String) (timeoutMs : Int) :
      Calls nodeId c (.apiCall a)
        (.request method url headers (Value.ofOption .object a.body) timeoutMs)

section Plans

variable {P : Call → Prop} {c : Context}

theorem HttpAction.plan_makes {body : Value}
    (h : ∀ method url headers timeoutMs, P (.request method url headers body timeoutMs))
    (kind : String) (a : HttpAction) : Makes P (a.plan kind body c) :=
  .bind fun _ => .check <| .bind fun _ => .bind fun _ => .ok (h _ _ _ _)

theorem CalendarEvent.plan_makes
    (h : ∀ calendar title description start finish attendees invites, P
      (.createEvent c.tenantId calendar title description start finish attendees invites))
    (kind : String) (invites : Bool) (a : CalendarEvent) : Makes P (a.plan kind invites c) := by
  unfold CalendarEvent.plan
  refine .bind fun title => .bind fun start => .bind fun finish => ?_
  split
  · exact .error _
  · exact .error _
  · exact .check <| .check <| .ok (h _ _ _ _ _ _ _)

/-- A key that can be told is the one of the context. -/
theorem Context.writeKey_ok {nodeId key : String} (h : c.writeKey nodeId = .ok key) :
    key = c.idempotencyKey nodeId := by
  unfold writeKey at h
  split at h
  · exact (Except.ok.inj h).symm
  · obtain ⟨-, -, rfl⟩ := Except.map_eq_ok.mp h
    rfl

/-- What is planned with a key is planned with that of the context. -/
theorem Plan.Makes.key {nodeId : String} {f : String → Except Fault Plan}
    (h : Makes P (f (c.idempotencyKey nodeId))) :
    Makes P ((c.writeKey nodeId).mapError (fun m => .defect (.broken m.message)) >>= f) := by
  intro plan hplan
  cases hkey : c.writeKey nodeId with
  | error m =>
    rw [hkey] at hplan
    cases hplan
  | ok key =>
    rw [hkey, Context.writeKey_ok hkey] at hplan
    exact h plan hplan

/-- All that an action can plan. -/
theorem Action.plan_calls (a : Action) (nodeId : String) (c : Context) (places : Places)
    (now : Time.Stamp) : Makes (a.Calls nodeId c) (a.plan nodeId c places now) := by
  unfold Action.plan
  cases a with
  | sendSms a => exact .bind fun _ => .bind fun _ => .ok (.sendSms a _ _)
  | sendEmail a => exact .bind fun _ => .check <| .ok (.sendEmail a _)
  | makeCall a => exact .bind fun _ => .bind fun _ => .ok (.makeCall a _ _)
  | sendSlack a => exact .bind fun _ => .ok (.sendSlack a _)
  | createLead a => exact .check <| .key <| .ok (.createRecord _ _ _)
  | updateLead a => exact .bind fun _ => .key <| .ok (.updateRecord _ _ _ _)
  | createTask a =>
    refine .bind fun title => ?_
    dsimp only
    split
    · exact .bind fun _ => .key <| .ok (.createRecord _ _ _)
    · exact .key <| .ok (.createRecord _ _ _)
  | updateDeal a => exact .bind fun _ => .key <| .ok (.updateRecord _ _ _ _)
  | addNote a => exact .bind fun _ => .key <| .ok (.addNote a _)
  | createCalendarEvent a => exact a.plan_makes (.createEvent _) _ _
  | sendCalendarInvite a => exact a.plan_makes (.createEvent _) _ _
  | addSheetRow a => exact .bind fun _ => .ok (.addSheetRow a _ _ _ _ _)
  | webhook a => exact a.plan_makes (.webhook a · · · now ·) _
  | apiCall a => exact a.plan_makes (.apiCall a) _

/-- Every write of an action carries the key of its context. -/
theorem Action.plan_keyed (a : Action) (nodeId : String) (c : Context) (places : Places)
    (now : Time.Stamp) : Makes (fun call => call.writeKey? = none ∨
      call.writeKey? = some (c.idempotencyKey nodeId)) (a.plan nodeId c places now) := by
  intro plan hplan
  have hcall := a.plan_calls nodeId c places now plan hplan
  generalize plan.call = call at hcall
  cases hcall with
  | createRecord | updateRecord | addNote => exact .inr rfl
  | _ => exact .inl rfl

end Plans

/-! ### Passes -/

namespace Engine

omit [ActiveTime τ] in
/-- The walks inside a node have locals with a place if its visit has. -/
theorem proceed_around {n : Node} {c : Context} {top : Bool} {started : Nat} {place : List Nat}
    {inner : List (String × Entries Value)} (hc : Around place c.locals)
    (h : e.proceed n c top started = .ok inner) :
    ∀ walk ∈ inner, ∃ place, Around place walk.2 := by
  unfold proceed at h
  split at h
  · obtain rfl := Except.ok.inj h
    exact List.forall_mem_nil _
  · obtain rfl := Except.ok.inj h
    intro walk hwalk
    obtain ⟨target, -, rfl⟩ := List.mem_map.mp hwalk
    exact ⟨place, hc⟩
  · obtain rfl := Except.ok.inj h
    intro walk hwalk
    obtain ⟨locals, hlocals, rfl⟩ := List.mem_map.mp hwalk
    obtain ⟨⟨item, index⟩, -, rfl⟩ := List.mem_map.mp hlocals
    exact ⟨place ++ [index], hc.inside index item⟩
  · obtain ⟨_, -, rfl⟩ := Except.map_eq_ok.mp h
    exact List.forall_mem_nil _

/-- What an errand with a place leads to has places. -/
theorem step_placed {errand : Errand} {more : List Errand} (hplaced : errand.Placed)
    (h : (e.step errand).Course s t (.ok more) s') : ∀ x ∈ more, x.Placed := by
  cases step_cases h with
  | entered target locals hd =>
    refine List.forall_mem_cons.mpr ⟨hplaced, List.forall_mem_singleton.mpr ?_⟩
    rintro locals ⟨⟩
  | left | ended => exact List.forall_mem_nil _
  | @visited id n locals top t₁ t₂ inner s' hn hb hv =>
    obtain ⟨started, hproceed⟩ := visit_inner hv
    obtain ⟨place, hplace⟩ := hplaced locals rfl
    intro x hx locals' hlocals'
    rcases List.mem_append.mp hx with hx | hx
    · obtain ⟨walk, hwalk, rfl⟩ := List.mem_map.mp hx
      cases hlocals'
      exact proceed_around hplace hproceed walk hwalk
    · obtain rfl := List.mem_singleton.mp hx
      cases hlocals'
      exact ⟨place, hplace⟩

/-- Before a visit nothing is called. -/
theorem Boundary.call? {r : Except Halt Unit} (h : Boundary e s t r) :
    ∀ x ∈ t, x.call? = none := by
  have hasked : ∀ x ∈ e.asked s, x.call? = none := by
    unfold asked
    split
    · exact List.forall_mem_singleton.mpr rfl
    · exact List.forall_mem_nil _
  cases h with
  | aborted hw => exact List.forall_mem_singleton.mpr rfl
  | stepBudget hs => exact hasked
  | timeBudget reading hs ha | passed reading hs ha =>
    intro x hx
    rcases List.mem_append.mp hx with hx | hx
    · exact hasked x hx
    · obtain rfl := List.mem_singleton.mp hx
      rfl

/-- What a visit asks is a write only with the key of its context. -/
theorem Asks.writeKey {nodeId key : String} {c : Context} {x : Exchange} {call : Call}
    (h : e.Asks nodeId c x.request) (hcall : x.call? = some call)
    (hkey : call.writeKey? = some key) : key = c.idempotencyKey nodeId := by
  obtain ⟨request, answer⟩ := x
  cases request with
  | clock | aborted runId | sleep seconds => cases hcall
  | call made timeout =>
    cases hcall
    obtain ⟨a, reading, plan, hplan, rfl, -⟩ := h
    rcases a.plan_keyed nodeId c e.places _ plan hplan with hnone | hsome
    · rw [hnone] at hkey
      cases hkey
    · rw [hsome] at hkey
      exact (Option.some.inj hkey).symm

/-- A pass that writes visits a node, and its writes carry the key of the context at this node. -/
theorem Does.writeKey {p : Pass τ} {key : String} (h : e.Does p) (hwrite : key ∈ p.writeKeys) :
    ∃ id locals top, p.errand = .go (some id) locals top ∧
      key = { p.before.context with locals }.idempotencyKey id := by
  obtain ⟨errand, before, exchanges, result, after⟩ := p
  obtain ⟨call, hmem, hkey⟩ := List.mem_filterMap.mp hwrite
  obtain ⟨x, hx, hcall⟩ := List.mem_filterMap.mp hmem
  change x ∈ exchanges at hx
  change (e.step errand).Course before exchanges result after at h
  -- Only the visit of a node exchanges anything beyond the check before it.
  cases step_cases h with
  | tooDeep | entered | left | ended | missing => cases hx
  | stopped locals top hn hb =>
    rw [hb.call? x hx] at hcall
    cases hcall
  | halted hn hb hv | visited hn hb hv =>
    refine ⟨_, _, _, rfl, ?_⟩
    rcases List.mem_append.mp hx with hx | hx
    · rw [hb.call? x hx] at hcall
      cases hcall
    · obtain ⟨-, rfl⟩ := Definition.node?_some hn
      exact (visit_asks hv x hx).writeKey hcall hkey

/-- The writes of a pass at a spot carry the key of the spot. -/
theorem Does.writeKey_at {p : Pass τ} {key runId : String} {a : Spot} (h : e.Does p)
    (hrun : p.before.context.runId = .text runId) (ha : p.At a) (hkey : key ∈ p.writeKeys) :
    key = a.key runId := by
  obtain ⟨locals, top, herrand, haround⟩ := ha
  obtain ⟨id, locals', top', herrand', rfl⟩ := h.writeKey hkey
  rw [herrand] at herrand'
  cases herrand'
  exact Around.idempotencyKey (c := { p.before.context with locals }) haround hrun a.node

/-- In every segment of a run all errands have a place. -/
theorem segment_placed {g : Segment τ} {runId : String} (hg : e.DoesSegment g)
    (hsettled : g.before.Settled) (hrun : g.before.context.runId = .text runId) :
    (∀ p ∈ g.log, p.before.context.runId = .text runId ∧ p.errand.Placed) ∧
      g.after.context.runId = .text runId := by
  have hfirst : (Errand.go g.start g.before.context.locals true).Placed := by
    rintro locals ⟨⟩
    rw [hsettled.locals]
    exact ⟨[], .outside⟩
  obtain ⟨hafter, hlog⟩ := hg.passes.all (I := fun s => s.context.runId = .text runId)
    (P := Errand.Placed)
    (fun p hp hbefore hplaced => by
      obtain ⟨_, _, _, _, _, _, heq⟩ := step_continues hp
      refine ⟨by rw [heq]; exact hbefore, fun more hr => ?_⟩
      unfold Does at hp
      rw [hr] at hp
      exact step_placed hplaced hp)
    hrun (List.forall_mem_singleton.mpr hfirst)
  exact ⟨hlog, hafter⟩

theorem story_placed [ActiveTime.Storable τ] {d : Definition} {event : Event} {runId : String}
    {story : List (Segment τ)} (hwell : d.WellFormed) (hevent : event.Storable)
    (h : e.Story d event runId story) :
    ∀ g ∈ story, ∀ p ∈ g.log, e.Does p ∧ p.before.context.runId = .text runId ∧
      p.errand.Placed := by
  obtain ⟨entry, reading, -, hreading, hchain⟩ := h
  refine hchain.all (J := fun s _ => s.context.runId = .text runId) (fun g hg hsettled hrun => ?_)
    (opening_settled hwell hevent hreading) rfl
  obtain ⟨hlog, hafter⟩ := segment_placed hg hsettled hrun
  exact ⟨fun p hp => ⟨(hg.passes.mem hp).1, hlog p hp⟩, fun _ _ _ _ _ => hafter⟩

/-- In every run of a definition without problems, in all of its segments, all writes of a visit
carry one key, which is that of its spot. Writes of two visits carry the same key exactly if the
visits are at the same spot or the spot of one shadows that of the other. -/
theorem write_keys [ActiveTime.Storable τ] {σ : Type} [Schema.Source σ] {x y : σ}
    {d : Definition} {event : Event} {runId : String} (hd : Definition.codec.read x = .ok d)
    (hvalid : d.Valid) (hevent : Event.codec.read y = .ok event) :
    (∀ t results, e.OnCalendar t → e.Stored (e.run d event runId) t results →
      ∃ story : List (Segment τ), e.Story d event runId story ∧
        List.Forall₂ Segment.Tells story results ∧ Exchange.deeds t = Segment.deeds story) ∧
      ∀ story : List (Segment τ), e.Story d event runId story → ∀ g ∈ story, ∀ p ∈ g.log,
        (p.writeKeys ≠ [] → ∃ a, p.At a) ∧
        ∀ a, p.At a → (∀ key ∈ p.writeKeys, key = a.key runId) ∧
          ∀ g' ∈ story, ∀ p' ∈ g'.log, ∀ b, p'.At b →
            ∀ key ∈ p.writeKeys, ∀ key' ∈ p'.writeKeys,
              (key = key' ↔ a = b ∨ a.Shadows b ∨ b.Shadows a) := by
  have hwell := Definition.codec_ensures.of_read x d hd
  have hstorable := Event.codec_ensures.of_read y event hevent
  refine ⟨fun t results ht h => stored_story hwell hvalid hstorable ht h, ?_⟩
  intro story hstory g hg p hp
  have hplaced := story_placed hwell hstorable hstory
  obtain ⟨hdoes, hrun, herrand⟩ := hplaced g hg p hp
  refine ⟨fun hwrites => ?_, fun a ha => ⟨fun key hkey => hdoes.writeKey_at hrun ha hkey, ?_⟩⟩
  · obtain ⟨key, hkey⟩ := List.exists_mem_of_ne_nil _ hwrites
    obtain ⟨id, locals, top, hgo, -⟩ := hdoes.writeKey hkey
    rw [hgo] at herrand
    obtain ⟨place, haround⟩ := herrand locals rfl
    exact ⟨⟨id, place⟩, locals, top, hgo, haround⟩
  · intro g' hg' p' hp' b hb key hkey key' hkey'
    obtain ⟨hdoes', hrun', -⟩ := hplaced g' hg' p' hp'
    rw [hdoes.writeKey_at hrun ha hkey, hdoes'.writeKey_at hrun' hb hkey']
    exact Spot.key_eq_iff runId a b

end Engine

/-! ## Two loops over one node -/

/-- A definition of two loops that add a note for each of their elements at one node. -/
def Definition.notes : Definition where
  name := "Notes"
  trigger := { kind := .manual }
  actions :=
    [{ id := "people", nextAction := some "firms",
       work := .loop { items := "people", actionId := "note" } },
     { id := "firms", work := .loop { items := "firms", actionId := "note" } },
     { id := "note", work := .action (.addNote { targetId := "lead-1", text := "{{item}}" }) }]

/-- An event with one person and one firm. -/
def Event.personAndFirm : Event :=
  { Event.manual with payload := [("people", .texts ["Ada"]), ("firms", .texts ["Acme"])] }

/-- A world in which no time passes and every call brings back an id. -/
def Dialogue.granting : (r : Request) → r.Answer
  | .clock => (0 : Nat)
  | .aborted _ => false
  | .sleep _ => .ok ()
  | .call _ _ => some (.reply (.id (.text "id-1")))

theorem Definition.notes_wellFormed : Definition.notes.WellFormed where
  name_ne := by decide
  name_le := by decide
  trigger := by rintro _ ⟨⟩
  nodes := by
    refine List.forall_mem_cons.mpr ⟨⟨by decide, trivial⟩, List.forall_mem_cons.mpr ?_⟩
    exact ⟨⟨by decide, trivial⟩, List.forall_mem_singleton.mpr ⟨by decide, trivial⟩⟩

namespace Engine

theorem notes_write_keys :
    let d := Definition.notes
    let event := Event.personAndFirm
    Definition.codec.read (Definition.codec.write .wire d) = .ok d ∧ d.Valid ∧
      Event.codec.read (Event.codec.write .wire event) = .ok event ∧
      ∃ story : List (Segment Float), alone.Story d event "run-1" story ∧
        ∀ g ∈ story, ∀ p ∈ g.log, ∀ a, p.At a → ∀ key ∈ p.writeKeys, key = a.key "run-1" := by
  intro d event
  have hread : Definition.codec.read (Definition.codec.write .wire d) = .ok d :=
    (Definition.codec_restores Definition.notes_wellFormed).read
  have hvalid : d.Valid := by decide +kernel
  have hevent : Event.codec.read (Event.codec.write .wire event) = .ok event :=
    (Event.codec_restores (by rintro _ ⟨⟩)).read
  refine ⟨hread, hvalid, hevent, ?_⟩
  obtain ⟨hruns, hstories⟩ := write_keys (e := alone) (τ := Float) hread hvalid hevent
  let dialogue : Dialogue (Except Escape (RunResult Float)) := alone.run d event "run-1"
  have hstored := Stored.last (e := alone) (Dialogue.course_answered Dialogue.granting dialogue)
  have hclock : Dialogue.granting .clock = (0 : Nat) := rfl
  have hcalendar := OnCalendar.of_world (e := alone) hclock (by decide)
    fun x hx => Dialogue.answered_mem (d := dialogue) hx
  obtain ⟨story, hstory, -⟩ := hruns _ _ hcalendar hstored
  exact ⟨story, hstory, fun g hg p hp a ha => ((hstories story hstory g hg p hp).2 a ha).1⟩

/-- One key can be that of two writes of different texts, in iterations of different loops. -/
theorem notes_same_key :
    let d := Definition.notes
    let event := Event.personAndFirm
    Definition.codec.read (Definition.codec.write .wire d) = .ok d ∧ d.Valid ∧
      Event.codec.read (Event.codec.write .wire event) = .ok event ∧
      ∃ g : Segment Float, alone.Story d event "run-1" [g] ∧
        (g.log[2]?).map Pass.calls = some [.addNote .null "lead-1" "Ada" "run-1:note:0"] ∧
        (g.log[7]?).map Pass.calls = some [.addNote .null "lead-1" "Acme" "run-1:note:0"] := by
  intro d event
  have hread : Definition.codec.read (Definition.codec.write .wire d) = .ok d :=
    (Definition.codec_restores Definition.notes_wellFormed).read
  have hevent : Event.codec.read (Event.codec.write .wire event) = .ok event :=
    (Event.codec_restores (by rintro _ ⟨⟩)).read
  have hplayed : (alone.play Dialogue.granting 11 [.go (some "people") [] true]
      (alone.opening d event "run-1" 0 : RunState Float)).map
      (fun (log, _) => ((log[2]?).map Pass.calls, (log[7]?).map Pass.calls))
      = some (some [.addNote .null "lead-1" "Ada" "run-1:note:0"],
          some [.addNote .null "lead-1" "Acme" "run-1:note:0"]) := by
    decide +kernel
  obtain ⟨⟨log, r, s'⟩, hplay, heq⟩ := Option.map_eq_some_iff.mp hplayed
  obtain ⟨hperson, hfirm⟩ := Prod.mk.inj heq
  have hclock : Dialogue.granting .clock = (0 : Nat) := rfl
  have hentry : d.entry? = some _ := rfl
  exact ⟨hread, by decide +kernel, hevent, _, Story.of_play hentry hclock (by decide) hplay,
    hperson, hfirm⟩

end Engine

end Automation
