import Automation.Remote.Publisher

/-!
# The connection of a publisher

A publisher has a connection and a channel together, or neither: between setting the one and the other it
never comes to rest. Whatever goes wrong while a message is published, both are given up, so that the next
message begins with a new connection. Who sends a message is told its id exactly if the broker was given the
message once and took it.
-/

namespace Automation.Remote

/-! ## What the broker is given -/

/-- The ids under which some commands publish messages, with the reactions. -/
def published (commands : List (Command × Reaction)) : List (String × Reaction) :=
  commands.filterMap fun
    | (.publish id _ _, reaction) => some (id, reaction)
    | _ => none

@[simp] theorem published_nil : published [] = [] := rfl

@[simp] theorem published_cons_publish (id key document : String) (reaction : Reaction)
    (commands : List (Command × Reaction)) :
    published ((.publish id key document, reaction) :: commands)
      = (id, reaction) :: published commands := rfl

@[simp] theorem published_append (commands commands' : List (Command × Reaction)) :
    published (commands ++ commands') = published commands ++ published commands' :=
  List.filterMap_append

namespace Publisher

/-! ## Connections and channels -/

/-- The channel is the one of the connection, and there is none without a connection. -/
def Whole (p : Publisher) : Prop := p.channel = p.connection

/-- There is neither a connection nor a channel. -/
def Bare (p : Publisher) : Prop := p.connection = none ∧ p.channel = none

theorem Bare.whole {p : Publisher} (h : p.Bare) : p.Whole := h.2.trans h.1.symm

/-- A publisher whose channel is that of its connection has both or neither. -/
theorem Whole.both_or_neither {p : Publisher} (h : p.Whole) :
    p.connection = none ∧ p.channel = none ∨
      ∃ number, p.connection = some number ∧ p.channel = some number := by
  unfold Whole at h
  rw [h]
  cases hconnection : p.connection with
  | none => exact .inl ⟨rfl, rfl⟩
  | some number => exact .inr ⟨number, rfl, rfl⟩

theorem Bare.not_connected {p : Publisher} (h : p.Bare) : p.isConnected = false := by
  simp [isConnected, h.1]

theorem forget_bare (p : Publisher) : p.forget.Bare := ⟨rfl, rfl⟩

section Operations

variable (p : Publisher) (broker : Broker)

theorem disconnect_bare : (p.disconnect broker).publisher.Bare := p.forget_bare

theorem disconnect_accepting : (p.disconnect broker).publisher.accepting = p.accepting := rfl

theorem disconnect_published : published (p.disconnect broker).commands = [] := by
  unfold disconnect
  dsimp only
  split <;> rfl

theorem giveUp_bare (progress : Progress) : (giveUp progress broker).publisher.Bare :=
  disconnect_bare _ broker

theorem giveUp_published (progress : Progress) :
    published (giveUp progress broker).commands = published progress.commands := by
  unfold giveUp
  rw [published_append, disconnect_published, List.append_nil]

theorem giveUp_commands (progress : Progress) :
    ∃ more, (giveUp progress broker).commands = progress.commands ++ more :=
  ⟨_, rfl⟩

/-- What holds when an attempt to connect is over. Only a refusal can leave a connection without its
channel, and then it is given up next. -/
structure Connects (p : Publisher) (broker : Broker) (outcome : Connecting) (progress : Progress) :
    Prop where
  whole : outcome = .connected → progress.publisher.Whole
  bare : outcome = .unreachable → progress.publisher.Bare
  accepting : progress.publisher.accepting = p.accepting
  silent : published progress.commands = []
  afresh : p.isConnected = false → progress.commands.head? = some (.connect, broker.connect)

theorem connect_connects (hp : p.Whole) :
    Connects p broker (p.connect broker).1 (p.connect broker).2 := by
  unfold connect
  split
  · rename_i hconnected
    exact ⟨fun _ => hp, nofun, rfl, rfl, fun h => by rw [hconnected] at h; cases h⟩
  · -- One command comes after the other, and each can fail in two ways.
    dsimp only
    cases hconnect : broker.connect with
    | unreachable => exact ⟨nofun, fun _ => p.forget_bare, rfl, rfl, fun _ => by rw [hconnect]; rfl⟩
    | refused => exact ⟨nofun, nofun, rfl, rfl, fun _ => by rw [hconnect]; rfl⟩
    | done =>
      cases broker.openChannel with
      | unreachable => exact ⟨nofun, fun _ => ⟨rfl, rfl⟩, rfl, rfl, fun _ => by rw [hconnect]; rfl⟩
      | refused => exact ⟨nofun, nofun, rfl, rfl, fun _ => by rw [hconnect]; rfl⟩
      | done =>
        cases broker.declareExchange with
        | unreachable => exact ⟨nofun, fun _ => ⟨rfl, rfl⟩, rfl, rfl, fun _ => by rw [hconnect]; rfl⟩
        | refused => exact ⟨nofun, nofun, rfl, rfl, fun _ => by rw [hconnect]; rfl⟩
        | done => exact ⟨fun _ => rfl, nofun, rfl, rfl, fun _ => by rw [hconnect]; rfl⟩

/-- What holds when it is over whether a message is published under an id. -/
structure Publishes (p : Publisher) (broker : Broker) (id : String) (sent : Bool)
    (progress : Progress) : Prop where
  whole : progress.publisher.Whole
  accepting : progress.publisher.accepting = p.accepting
  afresh : p.isConnected = false → progress.commands.head? = some (.connect, broker.connect)
  taken : sent = true → published progress.commands = [(id, .done)]
  failed : sent = false → progress.publisher.Bare ∧
    (published progress.commands = [] ∨
      ∃ reaction, reaction ≠ .done ∧ published progress.commands = [(id, reaction)])

theorem Publishes.sent_iff {p : Publisher} {broker : Broker} {id : String} {sent : Bool}
    {progress : Progress} (h : Publishes p broker id sent progress) :
    sent = true ↔ published progress.commands = [(id, .done)] := by
  cases sent with
  | true => simp [h.taken rfl]
  | false =>
    rcases (h.failed rfl).2 with hnone | ⟨reaction, hne, hone⟩
    · simp [hnone]
    · simpa [hone] using hne

/-- Nothing is published under another id. -/
theorem Publishes.published_own {p : Publisher} {broker : Broker} {id : String} {sent : Bool}
    {progress : Progress} (h : Publishes p broker id sent progress) :
    ∀ x ∈ published progress.commands, x.1 = id := by
  cases sent with
  | true =>
    rw [h.taken rfl]
    exact List.forall_mem_singleton.mpr rfl
  | false =>
    rcases (h.failed rfl).2 with hnone | ⟨reaction, -, hone⟩
    · rw [hnone]
      exact List.forall_mem_nil _
    · rw [hone]
      exact List.forall_mem_singleton.mpr rfl

theorem publish_publishes (m : Message) (id : String) (now : Time.Stamp) (hp : p.Whole) :
    Publishes p broker id (p.publish broker m id now).1 (p.publish broker m id now).2 := by
  have hconnects := connect_connects p broker hp
  unfold publish
  generalize p.connect broker = connecting at hconnects ⊢
  obtain ⟨outcome, progress⟩ := connecting
  -- What is begun with a connection stays the first command, whatever comes after it.
  have hafresh (more : List (Command × Reaction)) (h : p.isConnected = false) :
      (progress.commands ++ more).head? = some (.connect, broker.connect) := by
    rw [List.head?_append, hconnects.afresh h, Option.some_or]
  cases outcome with
  | unreachable =>
    have hbare : progress.publisher.Bare := hconnects.bare rfl
    exact ⟨hbare.whole, hconnects.accepting, hconnects.afresh, nofun,
      fun _ => ⟨hbare, .inl hconnects.silent⟩⟩
  | refused =>
    have hbare := giveUp_bare broker progress
    refine ⟨hbare.whole, hconnects.accepting, hafresh _, nofun, fun _ => ⟨hbare, .inl ?_⟩⟩
    rw [giveUp_published, hconnects.silent]
  | connected =>
    dsimp only
    split
    · rename_i hdone
      refine ⟨hconnects.whole rfl, hconnects.accepting, hafresh _, fun _ => ?_, nofun⟩
      simp [hconnects.silent, hdone]
    · rename_i hfailed
      let command : Command := .publish id m.routingKey (m.document id now)
      let given : Progress :=
        { progress with commands := progress.commands ++ [(command, broker.publish)] }
      have hbare : (giveUp given broker).publisher.Bare := giveUp_bare broker given
      refine ⟨hbare.whole, hconnects.accepting, ?_, nofun, fun _ => ⟨hbare, .inr ?_⟩⟩
      · intro h
        obtain ⟨more, hmore⟩ := giveUp_commands broker given
        change (giveUp given broker).commands.head? = _
        rw [hmore, List.append_assoc]
        exact hafresh _ h
      · refine ⟨broker.publish, fun h => hfailed h, ?_⟩
        change published (giveUp given broker).commands = _
        rw [giveUp_published]
        simp [given, command, hconnects.silent]

/-- What is told of a message that could not be queued. -/
def unqueued (m : Message) : Fault :=
  .transient m.action s!"Failed to queue message on '{m.routingKey}'"

/-- What is told of a message that comes when none is taken any more. -/
def closed : Fault := .defect (.broken "cannot schedule new futures after shutdown")

/-- A message that is taken is published, and the sender is told whether that worked. -/
theorem send_taken (m : Message) (id : String) (now : Time.Stamp) (h : p.accepting = true) :
    p.send broker m id now =
      (if (p.publish broker m id now).1 then .ok id else .error (unqueued m),
        (p.publish broker m id now).2) := by
  rw [send, if_pos h]
  generalize p.publish broker m id now = outcome
  obtain ⟨sent, progress⟩ := outcome
  cases sent with
  | true => rfl
  | false => rfl

theorem send_closed (m : Message) (id : String) (now : Time.Stamp) (h : p.accepting = false) :
    p.send broker m id now = (.error closed, ⟨p, []⟩) := by
  rw [send, h]
  rfl

end Operations

end Publisher

/-! ## Histories -/

/-- What can happen to a publisher. -/
inductive Happening where
  | send (m : Message) (id : String) (now : Time.Stamp)
  | close
  /-- A close has begun. Messages that were taken before it are still to come. -/
  | beginClose
  /-- A close ends that had begun before. -/
  | endClose
  /-- The connection, if there is one, is found closed from now on. -/
  | drop

namespace Happening

/-- The id of the message that is sent. -/
def id? : Happening → Option String
  | .send _ id _ => some id
  | _ => none

/-- After this no message is taken any more. -/
def Shuts : Happening → Prop
  | .close | .endClose => True
  | _ => False

end Happening

/-- A happening, the state before it, what the sender is told if a message was sent, and the commands that
were given with the state after them. -/
structure Record where
  happening : Happening
  broker : Broker
  before : Publisher
  result : Option (Except Fault String)
  progress : Progress

/-- The state after a happening. -/
def Record.after (r : Record) : Publisher := r.progress.publisher

/-- The publications of a happening. -/
def Record.published (r : Record) : List (String × Reaction) := Remote.published r.progress.commands

namespace Publisher

/-- What a happening does. -/
def undergo (p : Publisher) (broker : Broker) : Happening → Option (Except Fault String) × Progress
  | .send m id now => (some (p.send broker m id now).1, (p.send broker m id now).2)
  | .close => (none, p.close broker)
  | .beginClose => (none, p.disconnect broker)
  | .endClose => (none, ⟨{ p with accepting := false }, []⟩)
  | .drop => (none, ⟨{ p with dropped := true }, []⟩)

/-- The record of what a happening does. -/
def record (p : Publisher) (broker : Broker) (happening : Happening) : Record where
  happening
  broker
  before := p
  result := (p.undergo broker happening).1
  progress := (p.undergo broker happening).2

/-- What comes of some happenings, one after another, each with the reactions of the broker to it. -/
def history (p : Publisher) : List (Happening × Broker) → List Record
  | [] => []
  | (happening, broker) :: more =>
    let r := p.record broker happening
    r :: r.after.history more

/-- A close is its two halves in a row. -/
theorem close_eq (p : Publisher) (broker broker' : Broker) :
    ((p.disconnect broker).publisher.undergo broker' .endClose).2.publisher
      = (p.close broker).publisher :=
  rfl

end Publisher

/-! ### One happening -/

namespace Publisher

variable {p : Publisher} (broker : Broker)

/-- A message is published, or it comes when none is taken any more. -/
theorem undergo_send (m : Message) (id : String) (now : Time.Stamp) (hp : p.Whole) :
    (p.accepting = true ∧ ∃ sent progress, Publishes p broker id sent progress ∧
      p.undergo broker (.send m id now)
        = (some (if sent then .ok id else .error (unqueued m)), progress)) ∨
      (p.accepting = false ∧
        p.undergo broker (.send m id now) = (some (.error closed), ⟨p, []⟩)) := by
  cases haccepting : p.accepting with
  | true =>
    have hpublishes := publish_publishes p broker m id now hp
    refine .inl ⟨rfl, _, _, hpublishes, ?_⟩
    rw [undergo, send_taken p broker m id now haccepting]
  | false =>
    refine .inr ⟨rfl, ?_⟩
    rw [undergo, send_closed p broker m id now haccepting]

theorem undergo_whole (hp : p.Whole) (happening : Happening) :
    (p.undergo broker happening).2.publisher.Whole := by
  cases happening with
  | send m id now =>
    rcases undergo_send broker m id now hp with ⟨-, sent, progress, hpublishes, hsend⟩ | ⟨-, hsend⟩
    · rw [hsend]
      exact hpublishes.whole
    · rw [hsend]
      exact hp
  | close | beginClose => exact (disconnect_bare p broker).whole
  | endClose | drop => exact hp

/-- Only a message can bring a connection where there is none. -/
theorem undergo_bare (hp : p.Bare) {happening : Happening} (h : happening.id? = none) :
    (p.undergo broker happening).2.publisher.Bare := by
  cases happening with
  | send m id now => cases h
  | close | beginClose => exact disconnect_bare p broker
  | endClose | drop => exact hp

theorem undergo_accepting (hp : p.Whole) (happening : Happening) :
    (p.undergo broker happening).2.publisher.accepting = true ↔
      p.accepting = true ∧ ¬happening.Shuts := by
  cases happening with
  | send m id now =>
    rcases undergo_send broker m id now hp with ⟨-, sent, progress, hpublishes, hsend⟩ | ⟨-, hsend⟩
    · rw [hsend, hpublishes.accepting]
      simp [Happening.Shuts]
    · rw [hsend]
      simp [Happening.Shuts]
  | close | endClose => simp [undergo, close, Happening.Shuts]
  | beginClose | drop => simp [undergo, disconnect_accepting, Happening.Shuts]

/-- A happening publishes nothing but the message that is sent. -/
theorem undergo_published (hp : p.Whole) (happening : Happening) :
    ∀ x ∈ published (p.undergo broker happening).2.commands, happening.id? = some x.1 := by
  cases happening with
  | send m id now =>
    rcases undergo_send broker m id now hp with ⟨-, sent, progress, hpublishes, hsend⟩ | ⟨-, hsend⟩
    · rw [hsend]
      intro x hx
      exact congrArg some (hpublishes.published_own x hx).symm
    · rw [hsend]
      exact List.forall_mem_nil _
  | close | beginClose =>
    have hnone : published (p.disconnect broker).commands = [] := disconnect_published p broker
    change ∀ x ∈ published (p.disconnect broker).commands, _
    rw [hnone]
    exact List.forall_mem_nil _
  | endClose | drop => exact List.forall_mem_nil _

end Publisher

/-! ### Records -/

/-- A record of what a happening does to a publisher whose channel is that of its connection. -/
structure Record.Holds (r : Record) : Prop where
  whole : r.before.Whole
  result : r.result = (r.before.undergo r.broker r.happening).1
  progress : r.progress = (r.before.undergo r.broker r.happening).2

namespace Record.Holds

variable {r : Record} {m : Message} {id : String} {now : Time.Stamp}

theorem whole_after (h : r.Holds) : r.after.Whole := by
  rw [Record.after, h.progress]
  exact Publisher.undergo_whole r.broker h.whole r.happening

theorem bare_after (h : r.Holds) (hbare : r.before.Bare) (hid : r.happening.id? = none) :
    r.after.Bare := by
  rw [Record.after, h.progress]
  exact Publisher.undergo_bare r.broker hbare hid

theorem accepting_after (h : r.Holds) :
    r.after.accepting = true ↔ r.before.accepting = true ∧ ¬r.happening.Shuts := by
  rw [Record.after, h.progress]
  exact Publisher.undergo_accepting r.broker h.whole r.happening

theorem refusing_after (h : r.Holds) (hr : r.before.accepting = false ∨ r.happening.Shuts) :
    r.after.accepting = false := by
  rw [← Bool.not_eq_true, h.accepting_after]
  rintro ⟨hbefore, hshuts⟩
  rcases hr with hrefusing | hr
  · rw [hrefusing] at hbefore
    cases hbefore
  · exact hshuts hr

theorem published_own (h : r.Holds) : ∀ x ∈ r.published, r.happening.id? = some x.1 := by
  rw [Record.published, h.progress]
  exact Publisher.undergo_published r.broker h.whole r.happening

/-- A message that is taken is published, and what the sender is told says whether the broker took it. -/
theorem taken (h : r.Holds) (hr : r.happening = .send m id now) (ha : r.before.accepting = true) :
    ∃ sent, Publisher.Publishes r.before r.broker id sent r.progress ∧
      r.result = some (if sent then .ok id else .error (Publisher.unqueued m)) := by
  obtain ⟨hwhole, hresult, hprogress⟩ := h
  rw [hr] at hresult hprogress
  rcases Publisher.undergo_send r.broker m id now hwhole with
    ⟨-, sent, progress, hpublishes, hsend⟩ | ⟨hclosed, -⟩
  · rw [hsend] at hresult hprogress
    exact ⟨sent, hprogress ▸ hpublishes, hresult⟩
  · rw [ha] at hclosed
    cases hclosed

theorem refused (h : r.Holds) (hr : r.happening = .send m id now)
    (ha : r.before.accepting = false) :
    r.result = some (.error Publisher.closed) ∧ r.progress = ⟨r.before, []⟩ := by
  obtain ⟨hwhole, hresult, hprogress⟩ := h
  rw [hr] at hresult hprogress
  rcases Publisher.undergo_send r.broker m id now hwhole with ⟨haccepting, -⟩ | ⟨-, hsend⟩
  · rw [ha] at haccepting
    cases haccepting
  · rw [hsend] at hresult hprogress
    exact ⟨hresult, hprogress⟩

/-- The sender of a message that is taken is told its id, or else that it could not be queued, and then
there is nothing left of the connection. -/
theorem told_or_bare (h : r.Holds) (hr : r.happening = .send m id now)
    (ha : r.before.accepting = true) :
    r.result = some (.ok id) ∨
      r.result = some (.error (Publisher.unqueued m)) ∧ r.after.Bare := by
  obtain ⟨sent, hpublishes, hresult⟩ := h.taken hr ha
  cases sent with
  | true => exact .inl hresult
  | false => exact .inr ⟨hresult, (hpublishes.failed rfl).1⟩

/-- The sender of a message is told its id exactly if the broker was given it once and took it. -/
theorem told_iff (h : r.Holds) (hr : r.happening = .send m id now) :
    r.result = some (.ok id) ↔ r.published = [(id, .done)] := by
  cases htaken : r.before.accepting with
  | true =>
    obtain ⟨sent, hpublishes, hresult⟩ := h.taken hr htaken
    rw [Record.published, ← hpublishes.sent_iff, hresult]
    cases sent <;> simp
  | false =>
    obtain ⟨hresult, hprogress⟩ := h.refused hr htaken
    rw [Record.published, hresult, hprogress]
    simp

/-- A publisher that is closed and has no connection stays so. -/
theorem closed_after (h : r.Holds) (hclosed : r.before.accepting = false ∧ r.before.Bare) :
    r.after.accepting = false ∧ r.after.Bare := by
  refine ⟨h.refusing_after (.inl hclosed.1), ?_⟩
  cases hr : r.happening with
  | send m id now =>
    rw [Record.after, (h.refused hr hclosed.1).2]
    exact hclosed.2
  | close | beginClose | endClose | drop => exact h.bare_after hclosed.2 (by rw [hr]; rfl)

end Record.Holds

namespace Publisher

variable {p : Publisher} {happenings : List (Happening × Broker)} {pre post : List Record} {r : Record}

theorem history_happenings (p : Publisher) (happenings : List (Happening × Broker)) :
    (p.history happenings).map (fun r => (r.happening, r.broker)) = happenings := by
  induction happenings generalizing p with
  | nil => rfl
  | cons first more ih =>
    rw [history, List.map_cons, ih]
    rfl

/-- Along a history what holds at first holds before each record, if the records before it keep it. -/
theorem history_before {I : Publisher → Prop}
    (hstep : ∀ x ∈ pre, x.Holds → I x.before → I x.after) (hp : p.Whole) (hI : I p)
    (h : p.history happenings = pre ++ r :: post) :
    r.Holds ∧ I r.before ∧ ∃ more, post = r.after.history more := by
  -- The induction is on the records before, each of which leaves the state before the next.
  induction pre generalizing p happenings with
  | nil =>
    cases happenings with
    | nil => cases h
    | cons first more =>
      obtain ⟨rfl, rfl⟩ := List.cons.inj h
      exact ⟨⟨hp, rfl, rfl⟩, hI, more, rfl⟩
  | cons x pre ih =>
    cases happenings with
    | nil => cases h
    | cons first more =>
      obtain ⟨rfl, hrest⟩ := List.cons.inj h
      have hx : (p.record first.2 first.1).Holds := ⟨hp, rfl, rfl⟩
      refine ih (fun y hy => hstep y (List.mem_cons_of_mem _ hy)) hx.whole_after ?_ hrest
      exact hstep _ List.mem_cons_self hx hI

theorem history_split (hp : p.Whole) (h : p.history happenings = pre ++ r :: post) :
    r.Holds ∧ ∃ more, post = r.after.history more := by
  obtain ⟨hholds, -, hmore⟩ :=
    history_before (I := fun _ => True) (fun _ _ _ _ => trivial) hp trivial h
  exact ⟨hholds, hmore⟩

theorem history_holds (hp : p.Whole) : ∀ x ∈ p.history happenings, x.Holds := by
  intro x hx
  obtain ⟨pre, post, h⟩ := List.append_of_mem hx
  exact (history_split hp h).1

/-- What holds after one of the records and is kept by every happening holds before all later ones. -/
theorem history_since {I : Publisher → Prop} {x : Record} (hx : x ∈ pre) (hI : x.Holds → I x.after)
    (hstep : ∀ y : Record, y.Holds → I y.before → I y.after) (hp : p.Whole)
    (h : p.history happenings = pre ++ r :: post) : I r.before := by
  obtain ⟨pre, between, rfl⟩ := List.append_of_mem hx
  rw [List.append_assoc, List.cons_append] at h
  obtain ⟨hholds, more, hmore⟩ := history_split hp h
  exact (history_before (fun y _ => hstep y) hholds.whole_after (hI hholds) hmore.symm).2.1

/-- Messages are taken until something shuts the publisher, and not after it. -/
theorem history_accepting (hp : p.Whole) (haccepting : p.accepting = true)
    (h : p.history happenings = pre ++ r :: post) :
    r.before.accepting = true ↔ ∀ x ∈ pre, ¬x.happening.Shuts := by
  constructor
  · intro hr x hx hshuts
    -- No happening makes it take messages again.
    have hclosed : r.before.accepting = false :=
      history_since (I := fun q => q.accepting = false) hx
        (fun hholds => hholds.refusing_after (.inr hshuts))
        (fun y hy hbefore => hy.refusing_after (.inl hbefore)) hp h
    rw [hclosed] at hr
    cases hr
  · intro hopen
    exact (history_before (I := fun q => q.accepting = true)
      (fun y hy hholds hbefore => hholds.accepting_after.mpr ⟨hbefore, hopen y hy⟩)
      hp haccepting h).2.1

/-- After a close there is never a connection again. -/
theorem history_closed (hp : p.Whole) (h : p.history happenings = pre ++ r :: post)
    (hclose : ∃ x ∈ pre, x.happening = .close) : r.before.accepting = false ∧ r.before.Bare := by
  obtain ⟨x, hx, hxclose⟩ := hclose
  refine history_since (I := fun q => q.accepting = false ∧ q.Bare) hx (fun hholds => ?_)
    (fun y hy => hy.closed_after) hp h
  rw [Record.after, hholds.progress, hxclose]
  exact ⟨rfl, disconnect_bare x.before x.broker⟩

/-- Where there is no connection, the next message that is taken brings a new one. -/
theorem history_afresh (hp : p.Bare) (haccepting : p.accepting = true)
    (h : p.history happenings = pre ++ r :: post)
    (hquiet : ∀ x ∈ pre, x.happening.id? = none ∧ ¬x.happening.Shuts)
    (hr : r.happening.id?.isSome) :
    r.progress.commands.head? = some (.connect, r.broker.connect) := by
  obtain ⟨hholds, hbare, -⟩ := history_before (I := Bare)
    (fun x hx hx' hbefore => hx'.bare_after hbefore (hquiet x hx).1) hp.whole hp h
  have htaken : r.before.accepting = true :=
    (history_accepting hp.whole haccepting h).mpr fun x hx => (hquiet x hx).2
  cases hhappening : r.happening with
  | send m id now =>
    obtain ⟨sent, hpublishes, -⟩ := hholds.taken hhappening htaken
    exact hpublishes.afresh hbare.not_connected
  | close | beginClose | endClose | drop =>
    rw [hhappening] at hr
    cases hr

end Publisher

/-! ### Publications under an id -/

/-- The reactions to what is published under an id in some records. -/
def reactionsTo (id : String) (records : List Record) : List Reaction :=
  ((records.flatMap Record.published).filter fun x => x.1 = id).map Prod.snd

theorem reactionsTo_append (id : String) (records records' : List Record) :
    reactionsTo id (records ++ records') = reactionsTo id records ++ reactionsTo id records' := by
  unfold reactionsTo
  rw [List.flatMap_append, List.filter_append, List.map_append]

theorem reactionsTo_cons (id : String) (r : Record) (records : List Record) :
    reactionsTo id (r :: records) = reactionsTo id [r] ++ reactionsTo id records :=
  reactionsTo_append id [r] records

theorem reactionsTo_others {id : String} {records : List Record} (hholds : ∀ x ∈ records, x.Holds)
    (hother : id ∉ records.filterMap (·.happening.id?)) : reactionsTo id records = [] := by
  refine List.map_eq_nil_iff.mpr (List.filter_eq_nil_iff.mpr ?_)
  rintro ⟨id', reaction⟩ hx heq
  obtain rfl : id' = id := by simpa using heq
  obtain ⟨r, hr, hpublished⟩ := List.mem_flatMap.mp hx
  exact hother (List.mem_filterMap.mpr ⟨r, hr, (hholds r hr).published_own _ hpublished⟩)

/-- What one message publishes is all under its id. -/
theorem reactionsTo_alone {id : String} {r : Record} (h : r.Holds) (hid : r.happening.id? = some id) :
    reactionsTo id [r] = [.done] ↔ r.published = [(id, .done)] := by
  have hown : ∀ x ∈ r.published, x.1 = id := by
    intro x hx
    exact Option.some.inj ((h.published_own x hx).symm.trans hid)
  have hall : reactionsTo id [r] = r.published.map Prod.snd := by
    unfold reactionsTo
    rw [List.flatMap_singleton, List.filter_eq_self.mpr fun x hx => by simpa using hown x hx]
  rw [hall]
  constructor
  · intro hdone
    obtain ⟨⟨id', reaction⟩, hone, rfl⟩ := List.map_eq_singleton_iff.mp hdone
    obtain rfl : id' = id := hown _ (by rw [hone]; exact List.mem_singleton_self _)
    exact hone
  · intro hone
    rw [hone]
    rfl

/-- If no two messages have the same id, what is published under that of a message is published for
it. -/
theorem reactionsTo_own {id : String} {pre post : List Record} {r : Record}
    (hholds : ∀ x ∈ pre ++ r :: post, x.Holds)
    (hids : ((pre ++ r :: post).filterMap (·.happening.id?)).Nodup)
    (hid : r.happening.id? = some id) : reactionsTo id (pre ++ r :: post) = reactionsTo id [r] := by
  rw [List.filterMap_append,
    List.filterMap_cons_some (f := fun x : Record => x.happening.id?) hid] at hids
  obtain ⟨-, hpost, hapart⟩ := List.nodup_append.mp hids
  have hbefore : id ∉ pre.filterMap (·.happening.id?) := by
    intro hmem
    exact hapart id hmem id List.mem_cons_self rfl
  have hafter : id ∉ post.filterMap (·.happening.id?) := (List.nodup_cons.mp hpost).1
  rw [reactionsTo_append, reactionsTo_cons,
    reactionsTo_others (fun x hx => hholds x (List.mem_append_left _ hx)) hbefore,
    reactionsTo_others (fun x hx => hholds x (List.mem_append_right _ (List.mem_cons_of_mem _ hx)))
      hafter,
    List.nil_append, List.append_nil]

namespace Publisher

/-- If no two messages of a history have the same id, the broker has taken one under an id once, and was
given no other under it, exactly if that is what the message with the id published. -/
theorem history_once {p : Publisher} {happenings : List (Happening × Broker)} {id : String}
    {pre post : List Record} {r : Record} (hp : p.Whole)
    (h : p.history happenings = pre ++ r :: post) (hid : r.happening.id? = some id)
    (hids : (happenings.filterMap (·.1.id?)).Nodup) :
    reactionsTo id (p.history happenings) = [.done] ↔ r.published = [(id, .done)] := by
  have hholds : ∀ x ∈ pre ++ r :: post, x.Holds := by
    rw [← h]
    exact history_holds hp
  rw [← history_happenings p happenings, List.filterMap_map, h] at hids
  rw [h, reactionsTo_own hholds hids hid]
  exact reactionsTo_alone (history_split hp h).1 hid

/-- In every history of a publisher its channel is that of its connection, or there is neither. The sender
of a message is told its id exactly if the broker was given the message once and took it; if no two messages
have one id, this is all that it was ever given under the id. Else, while messages are taken, the sender is
told that the message could not be queued, nothing is left of the connection, and the next message begins
with a new one. Once the publisher is closed a message comes too late: nothing is done for it, and the sender
is told so. After a close in one go there is no connection any more. -/
theorem sends_told (happenings : List (Happening × Broker)) :
    let records := ({} : Publisher).history happenings
    records.map (fun r => (r.happening, r.broker)) = happenings ∧
    ∀ pre r post, records = pre ++ r :: post →
      (r.after.connection = none ∧ r.after.channel = none ∨
        ∃ number, r.after.connection = some number ∧ r.after.channel = some number) ∧
      ∀ m id now, r.happening = .send m id now →
        (r.result = some (.ok id) ↔ r.published = [(id, .done)]) ∧
        ((happenings.filterMap (·.1.id?)).Nodup →
          (r.result = some (.ok id) ↔ reactionsTo id records = [.done])) ∧
        ((∀ x ∈ pre, ¬x.happening.Shuts) →
          r.result = some (.ok id) ∨
            r.result = some (.error (unqueued m)) ∧
            r.after.connection = none ∧ r.after.channel = none ∧
            ∀ quiet r' rest, post = quiet ++ r' :: rest →
              (∀ x ∈ quiet, x.happening.id? = none ∧ ¬x.happening.Shuts) →
              r'.happening.id?.isSome →
              r'.progress.commands.head? = some (.connect, r'.broker.connect)) ∧
        ((∃ x ∈ pre, x.happening.Shuts) →
          r.result = some (.error closed) ∧ r.progress = ⟨r.before, []⟩ ∧
            ((∃ x ∈ pre, x.happening = .close) →
              r.after.connection = none ∧ r.after.channel = none)) := by
  intro records
  have hnew : ({} : Publisher).Whole := rfl
  refine ⟨history_happenings {} happenings, fun pre r post hrecords => ?_⟩
  have hsplit : ({} : Publisher).history happenings = pre ++ r :: post := hrecords
  obtain ⟨hholds, more, hmore⟩ := history_split hnew hsplit
  refine ⟨hholds.whole_after.both_or_neither, fun m id now hr => ?_⟩
  have haccepting := history_accepting hnew rfl hsplit
  refine ⟨hholds.told_iff hr, fun hids => ?_, fun hopen => ?_, ?_⟩
  · rw [hholds.told_iff hr]
    exact (history_once hnew hsplit (by rw [hr]; rfl) hids).symm
  · have htaken : r.before.accepting = true := haccepting.mpr hopen
    obtain hok | ⟨hresult, hbare⟩ := hholds.told_or_bare hr htaken
    · exact .inl hok
    -- What comes after begins without a connection, and messages are still taken.
    refine .inr ⟨hresult, hbare.1, hbare.2, fun quiet r' rest hpost hquiet hr' => ?_⟩
    have hstill : r.after.accepting = true :=
      hholds.accepting_after.mpr ⟨htaken, by rw [hr]; exact not_false⟩
    exact history_afresh hbare hstill (hmore ▸ hpost) hquiet hr'
  · rintro ⟨x, hx, hshuts⟩
    have hrefusing : r.before.accepting = false := by
      rw [← Bool.not_eq_true, haccepting]
      exact fun hopen => hopen x hx hshuts
    obtain ⟨hresult, hprogress⟩ := hholds.refused hr hrefusing
    refine ⟨hresult, hprogress, fun hclose => ?_⟩
    rw [Record.after, hprogress]
    exact (history_closed hnew hsplit hclose).2

end Publisher

/-! ### A history with mishaps -/

/-- A short message. -/
def Message.greeting : Message where
  action := "send_sms"
  routingKey := "sms.send"
  fields := [("tenant_id", .text "tenant-1"), ("to_phone", .text "+14155550100"),
    ("message", .text "hello")]

/-- A message is lost with its connection, the next one is taken, and a third comes after a close that
goes wrong. -/
def Happening.mishaps : List (Happening × Broker) :=
  let send (id : String) : Happening := .send .greeting id ⟨0, some 0⟩
  [(send "id-1", { publish := .refused, hangsUp := true }), (.drop, {}), (send "id-2", {}),
   (.close, { close := .refused }), (send "id-3", {})]

namespace Publisher

theorem mishaps_told :
    (Happening.mishaps.filterMap (·.1.id?)).Nodup ∧
      let records := ({} : Publisher).history Happening.mishaps
      records.map (·.result) =
        [some (.error (unqueued .greeting)), none, some (.ok "id-2"), none, some (.error closed)] ∧
      reactionsTo "id-1" records = [.refused] ∧ reactionsTo "id-2" records = [.done] ∧
      reactionsTo "id-3" records = [] ∧
      (records[2]?).bind (·.progress.commands.head?) = some (.connect, .done) := by
  have hids : (Happening.mishaps.filterMap (·.1.id?)).Nodup := by decide
  refine ⟨hids, ?_⟩
  obtain ⟨-, htold⟩ := sends_told Happening.mishaps
  obtain ⟨-, hfirst⟩ := htold [] _ _ rfl
  obtain ⟨-, hsecond⟩ := htold [_, _] _ _ rfl
  obtain ⟨-, -, hfailed, -⟩ := hfirst _ _ _ rfl
  obtain ⟨-, htaken, -⟩ := hsecond _ _ _ rfl
  -- The first message has failed, so the second, which is the next, connects again.
  obtain hok | ⟨-, -, -, hafresh⟩ := hfailed (List.forall_mem_nil _)
  · cases hok
  have hnext := hafresh [_] _ _ rfl (List.forall_mem_singleton.mpr ⟨rfl, not_false⟩) rfl
  exact ⟨rfl, rfl, (htaken hids).mp rfl, rfl, hnext⟩

/-- A message that comes after a close is not told to be tried again. -/
theorem closed_not_transient :
    let records := ({} : Publisher).history
      [(.close, {}), (.send .greeting "id-1" ⟨0, some 0⟩, {})]
    ∃ r ∈ records, r.happening = .send .greeting "id-1" ⟨0, some 0⟩ ∧
      (∀ id, r.result ≠ some (.ok id)) ∧
      ∀ action detail, r.result ≠ some (.error (.transient action detail)) := by
  refine ⟨_, .tail _ (.head _), rfl, ?_, ?_⟩
  · rintro id ⟨⟩
  · rintro action detail ⟨⟩

end Publisher

end Automation.Remote
