import Automation.Proofs.Action.Address
import Automation.Proofs.Text.Digits

/-!
# Nothing is sent unchecked

An action calls the system behind it only with what its checks have passed. `Action.Allows` says for
each kind of action which call its checks let through: what they ask of the texts, and what of these is
sent. A plan is made exactly of an allowed call (`Action.plans_iff`), so that each attempt makes
one call that is allowed, or none where none is. A check that fails with a classified failure fails at
every moment alike, so it ends the action at its first attempt (`Action.perform_checked`).
-/

namespace Automation

/-! ## Texts that can be sent -/

namespace Template

theorem cut_no_placeholder {cs : List Char} {pieces : List Piece} (h : Cut cs pieces) :
    (pieces.filterMap fun
      | .placeholder path _ => some path
      | .char _ => none) = [] ↔ ∀ path text, IsPlaceholder path text → ¬text <:+: cs := by
  induction h with
  | done =>
    refine iff_of_true rfl fun path text htext hpart => htext.ne_nil ?_
    exact List.infix_nil.mp hpart
  | @placeholder path verbatim rest pieces htext hrest ih =>
    exact iff_of_false nofun fun h => h path verbatim htext (List.prefix_append _ _).isInfix
  | @char d rest pieces hnone hrest ih =>
    rw [List.filterMap_cons_none rfl, ih]
    refine forall₃_congr fun path text htext => ?_
    rw [List.infix_cons_iff, or_iff_right (hnone path text htext)]

/-- A text has no placeholder exactly if none stands anywhere in it. -/
theorem placeholders_eq_nil {s : String} :
    placeholders s = [] ↔ ∀ path text, IsPlaceholder path text → ¬text <:+: s.toList :=
  cut_no_placeholder (cut_cutFrom s.toList)

end Template

namespace Check

variable {kind field s v : String}

/-- A text that is not blank and has no placeholder anywhere. -/
structure Sendable (s : String) : Prop where
  filled : Text.isBlank s = false
  resolved : ∀ path text, Template.IsPlaceholder path text → ¬text <:+: s.toList

theorem requireText_eq_ok : requireText kind field s = .ok v ↔ v = s ∧ Sendable s := by
  have hsendable : Sendable s ↔ Text.isBlank s = false ∧ Template.placeholders s = [] := by
    rw [Template.placeholders_eq_nil]
    exact ⟨fun h => ⟨h.filled, h.resolved⟩, fun h => ⟨h.1, h.2⟩⟩
  rw [hsendable]
  unfold requireText
  split <;> rename_i hplaceholders
  · cases Text.isBlank s <;> simp [eq_comm, hplaceholders, Fault.permanent]
  · exact iff_of_false nofun fun h => hplaceholders h.2.2

theorem strip_parts (s : String) : ∃ front back, s.toList = front ++ (Text.strip s).toList ++ back ∧
    (∀ c ∈ front, Text.isSpace c = true) ∧ ∀ c ∈ back, Text.isSpace c = true := by
  obtain ⟨back, hback, hspace⟩ :=
    Text.stripBack_append Text.isSpace (Text.stripFront Text.isSpace s.toList)
  refine ⟨s.toList.takeWhile Text.isSpace, back, ?_, fun c => List.mem_takeWhile_imp, hspace⟩
  rw [Text.strip, String.toList_ofList, List.append_assoc, ← hback, Text.stripFront,
    List.takeWhile_append_dropWhile]

/-- The white space around a text does not matter for whether it can be sent. -/
theorem Sendable.strip (h : Sendable s) : Sendable (Text.strip s) := by
  obtain ⟨front, back, hs, hfront, hback⟩ := strip_parts s
  constructor
  · have hfilled := h.filled
    rw [Bool.eq_false_iff] at hfilled ⊢
    refine fun hblank => hfilled ?_
    rw [Text.isBlank, List.all_eq_true] at hblank ⊢
    rw [hs]
    simp only [List.mem_append]
    rintro c ((hc | hc) | hc)
    · exact hfront c hc
    · exact hblank c hc
    · exact hback c hc
  · exact fun path text htext hpart =>
      h.resolved path text htext (hpart.trans ⟨front, back, hs.symm⟩)

/-! ## Mail addresses -/

/-- A character that a part of a mail address may have. -/
def IsMailChar (c : Char) : Prop := c ≠ '@' ∧ Text.isSpace c = false

/-- A mail address: a name, an at sign, and a domain of two parts at least. One line break may stand at
the end. -/
def IsMailText (cs : List Char) : Prop :=
  ∃ name host top ending, cs = name ++ '@' :: (host ++ '.' :: top) ++ ending ∧
    name ≠ [] ∧ host ≠ [] ∧ top ≠ [] ∧ (∀ c ∈ name, IsMailChar c) ∧ (∀ c ∈ host, IsMailChar c) ∧
    (∀ c ∈ top, IsMailChar c) ∧ (ending = [] ∨ ending = ['\n'])

variable {cs : List Char}

theorem exists_ending (cs : List Char) :
    ∃ ending, cs = Text.dropLineBreak cs ++ ending ∧ (ending = [] ∨ ending = ['\n']) := by
  unfold Text.dropLineBreak
  split
  · rename_i hlast
    obtain ⟨front, rfl⟩ := List.getLast?_eq_some_iff.mp hlast
    exact ⟨['\n'], by simp, .inr rfl⟩
  · exact ⟨[], by simp, .inl rfl⟩

theorem dropLineBreak_append {ending : List Char} (hlast : cs.getLast? ≠ some '\n')
    (hending : ending = [] ∨ ending = ['\n']) : Text.dropLineBreak (cs ++ ending) = cs := by
  unfold Text.dropLineBreak
  rcases hending with rfl | rfl
  · rw [List.append_nil, if_neg hlast]
  · simp

theorem isDomain_iff : isDomain cs = true ↔ ∃ host top, cs = host ++ '.' :: top ∧ host ≠ [] ∧
    top ≠ [] ∧ (∀ c ∈ host, IsMailChar c) ∧ ∀ c ∈ top, IsMailChar c := by
  have hchars : (!cs.any fun c => c == '@' || Text.isSpace c) = true ↔ ∀ c ∈ cs, IsMailChar c := by
    simp [IsMailChar]
  unfold isDomain
  rw [Bool.and_eq_true, hchars, List.contains_iff_mem]
  constructor
  · rintro ⟨hall, hdot⟩
    obtain ⟨before, after, hsplit⟩ := List.append_of_mem hdot
    obtain ⟨first, rest, rfl⟩ : ∃ first rest, cs = first :: rest := by
      cases cs with
      | nil => cases hdot
      | cons first rest => exact ⟨first, rest, rfl⟩
    have hne : rest ≠ [] := by
      rintro rfl
      cases hdot
    have hrest : rest = before ++ '.' :: (after ++ [rest.getLast hne]) := by
      rw [← List.cons_append, ← List.append_assoc, ← hsplit]
      exact (List.dropLast_concat_getLast hne).symm
    rw [hrest] at hall ⊢
    exact ⟨first :: before, after ++ [rest.getLast hne], rfl, by simp, by simp,
      fun c hc => hall c (by simp at hc ⊢; tauto), fun c hc => hall c (by simp at hc ⊢; tauto)⟩
  · rintro ⟨host, top, rfl, hhost, htop, hhosts, htops⟩
    constructor
    · intro c hc
      rcases List.mem_append.mp hc with hc | hc
      · exact hhosts c hc
      · rcases List.mem_cons.mp hc with rfl | hc
        · exact ⟨by decide, by decide⟩
        · exact htops c hc
    · obtain ⟨first, host, rfl⟩ := List.exists_cons_of_ne_nil hhost
      rw [List.cons_append, List.drop_succ_cons, List.drop_zero,
        List.dropLast_append_of_ne_nil (List.cons_ne_nil _ _), List.dropLast_cons_of_ne_nil htop]
      simp

theorem isMailAddress_iff : isMailAddress s = true ↔ IsMailText s.toList := by
  unfold isMailAddress
  simp only [Bool.and_eq_true, Bool.not_eq_true', decide_eq_true_eq, isDomain_iff,
    List.isEmpty_eq_false_iff]
  constructor
  · rintro ⟨⟨⟨hne, hspace⟩, hlength⟩, host, top, hdomain, hhost, htop, hhosts, htops⟩
    obtain ⟨ending, hs, hending⟩ := exists_ending s.toList
    generalize Text.dropLineBreak s.toList = cs at *
    have hsplit : cs = cs.takeWhile (· != '@') ++ cs.dropWhile (· != '@') :=
      List.takeWhile_append_dropWhile.symm
    obtain ⟨c, rest, hrest⟩ : ∃ c rest, cs.dropWhile (· != '@') = c :: rest := by
      refine List.exists_cons_of_ne_nil fun hnil => ?_
      rw [hnil, List.append_nil] at hsplit
      rw [← hsplit] at hlength
      exact Nat.lt_irrefl _ hlength
    obtain rfl : c = '@' := by
      have hstop := List.head?_dropWhile_not (· != '@') cs
      rw [hrest] at hstop
      simpa using hstop
    rw [hrest] at hsplit
    have hname : ∀ c ∈ cs.takeWhile (· != '@'), (c != '@') = true := fun c => List.mem_takeWhile_imp
    generalize cs.takeWhile (· != '@') = name at *
    rw [hsplit, ← List.drop_drop, List.drop_left] at hdomain
    change rest = _ at hdomain
    refine ⟨name, host, top, ending, ?_, hne, hhost, htop, fun c hc => ⟨?_, ?_⟩, hhosts, htops,
      hending⟩
    · rw [hs, ← hdomain, ← hsplit]
    · simpa using hname c hc
    · simpa using List.any_eq_false.mp hspace c hc
  · rintro ⟨name, host, top, ending, hs, hname, hhost, htop, hnames, hhosts, htops, hending⟩
    have hlast : (name ++ '@' :: (host ++ '.' :: top)).getLast? ≠ some '\n' := by
      have htail : name ++ '@' :: (host ++ '.' :: top) = name ++ '@' :: host ++ ['.'] ++ top := by simp
      rw [htail, List.getLast?_append, Option.or_of_isSome (by simpa using htop)]
      exact fun h => absurd (htops _ (List.mem_of_getLast? h)).2 (by decide)
    have hat : ∀ c ∈ name, (c != '@') = true := fun c hc => by simpa using (hnames c hc).1
    have htaken : (name ++ '@' :: (host ++ '.' :: top)).takeWhile (· != '@') = name :=
      (Template.takeWhile_run hat (by simp)).1
    rw [hs, dropLineBreak_append hlast hending, htaken]
    refine ⟨⟨⟨hname, ?_⟩, ?_⟩, host, top, ?_, hhost, htop, hhosts, htops⟩
    · simpa using fun c hc => (hnames c hc).2
    · simp
    · rw [← List.drop_drop, List.drop_left]
      rfl

end Check

/-! ## What the checks let through -/

/-- One stamp is later than another, and they compare. -/
theorem Time.Stamp.later?_eq_true {t u : Time.Stamp} :
    t.later? u = some true ↔ t.offset.isSome = u.offset.isSome ∧ u.utcWall < t.utcWall := by
  unfold later? utcWall
  cases ht : t.offset <;> cases hu : u.offset <;> simp

/-- The attendees that are invited: those that are not blank, without white space around. -/
def CalendarEvent.guests (a : CalendarEvent) : List String :=
  (a.attendees.filter (!Text.isBlank ·)).map Text.strip

/-- An appointment is made with a title, if it ends after it starts, with guests that have addresses,
and for an invitation there are some. -/
def CalendarEvent.Allows (kind : String) (invites : Bool) (c : Context) (call : Call)
    (a : CalendarEvent) : Prop :=
  Check.Sendable a.title ∧ ∃ start, Check.time kind "eventStart" a.start = .ok start ∧
    ∃ finish, Check.time kind "eventEnd" a.finish = .ok finish ∧
    (finish.offset.isSome = start.offset.isSome ∧ start.utcWall < finish.utcWall) ∧
    (∀ guest ∈ a.guests, Check.IsMailText guest.toList) ∧ (invites = true → a.guests ≠ []) ∧
    call = .createEvent c.tenantId a.calendar a.title a.description start.iso finish.iso a.guests
      invites

/-- A request is made with a method that requests can have, to an address that it can be sent to. -/
def HttpAction.Allows (body : Value) (c : Context) (call : Call) (a : HttpAction) : Prop :=
  Url.IsUsable (Text.strip a.url) ∧ Text.upper a.method ∈ httpMethods ∧
    ∃ timeoutMs, httpSeconds a.timeoutMs >>= cutMillis = .ok timeoutMs ∧
    call = .request (Text.upper a.method) (Text.strip a.url)
      (setDefault "User-Agent" ("WorkflowAutomation/" ++ c.runId.display)
        (setDefault "Content-Type" "application/json" a.headers)) body timeoutMs

/-- A due date for a task is a date, a distance that can be added to now, or none. -/
def CreateTask.DueAt (now : Time.Stamp) (date : Option String) (a : CreateTask) : Prop :=
  match a.dueDate with
  | some due => Check.dueDate due now = .ok date
  | none => date = none

/-- The call that the checks of an action let through at a moment. -/
def Action.Allows (nodeId : String) (c : Context) (places : Places) (now : Time.Stamp) (call : Call)
    (a : Action) : Prop :=
  let kind := a.kind.name
  match a with
  | .sendSms b => ∃ phone, Check.phone kind b.recipient = .ok phone ∧ Check.Sendable b.message ∧
    call = .sendSms c.tenantId phone b.message
  | .sendEmail b => Check.Sendable b.recipient ∧ Check.IsMailText (Text.strip b.recipient).toList ∧
    call = .sendEmail c.tenantId (Text.strip b.recipient) b.subject b.body b.attachments
  | .makeCall b => Check.Sendable b.agentId ∧ ∃ phone, Check.phone kind b.phoneNumber = .ok phone ∧
    call = .placeCall c.tenantId b.agentId phone
  | .sendSlack b => Check.Sendable b.channel ∧
    call = .postSlackMessage c.tenantId (Text.strip b.channel) b.text
  | .createLead b => b.leadData ≠ [] ∧ ∃ key, c.writeKey nodeId = .ok key ∧
    call = .createRecord c.tenantId "lead" b.leadData key
  | .updateLead b => Check.Sendable b.leadId ∧ ∃ key, c.writeKey nodeId = .ok key ∧
    call = .updateRecord c.tenantId "lead" b.leadId b.leadData key
  | .createTask b => Check.Sendable b.title ∧ ∃ date, b.DueAt now date ∧
    ∃ key, c.writeKey nodeId = .ok key ∧
    call = .createRecord c.tenantId "task" (b.fields b.title date) key
  | .updateDeal b => Check.Sendable b.dealId ∧ ∃ key, c.writeKey nodeId = .ok key ∧
    call = .updateRecord c.tenantId "deal" b.dealId b.dealData key
  | .addNote b => Check.Sendable b.targetId ∧ ∃ key, c.writeKey nodeId = .ok key ∧
    call = .addNote c.tenantId b.targetId b.text key
  | .createCalendarEvent b => b.Allows kind false c call
  | .sendCalendarInvite b => b.Allows kind true c call
  | .addSheetRow b => Check.Sendable b.spreadsheetId ∧
    call = .request "POST" (String.ofList (Text.stripBack (· == '/') places.integrationsBase.toList) ++
      "/api/v1/tenants/" ++ c.tenantId.display ++ "/google-sheets/" ++ b.spreadsheetId ++ "/rows")
      [("Content-Type", "application/json")]
      (.object [("sheet_name", .text b.sheetName), ("values", .object b.values)]) 10000
  | .webhook b => b.Allows (webhookBody b.body c now) c call
  | .apiCall b => b.Allows (Value.ofOption .object b.body) c call

/-- Some plan is made, of this call. -/
def Plans (x : Except Fault Plan) (call : Call) : Prop := ∃ plan, x = .ok plan ∧ plan.call = call

section Plans

variable {call : Call} {c : Context}

theorem plans_pure {plan : Plan} : Plans (pure plan) call ↔ call = plan.call := by
  simp [Plans, pure, Except.pure, eq_comm]

theorem not_plans_error {fault : Fault} : ¬Plans (.error fault) call := by simp [Plans]

theorem plans_bind {α : Type} {x : Except Fault α} {f : α → Except Fault Plan} :
    Plans (x >>= f) call ↔ ∃ a, x = .ok a ∧ Plans (f a) call := by
  simp only [Plans, Except.bind_eq_ok]
  tauto

/-- Behind a check there is a plan if the check holds and there is one behind it. -/
theorem plans_check {b : Prop} [Decidable b] {fault : Fault} {x : Except Fault Plan} :
    Plans (if b then (Except.error fault : Except Fault PUnit) >>= fun _ => x else x) call ↔
      ¬b ∧ Plans x call := by
  split <;> rename_i hb
  · exact iff_of_false (by rintro ⟨_, ⟨⟩, _⟩) fun h => h.1 hb
  · exact ⟨fun h => ⟨hb, h⟩, fun h => h.2⟩

theorem plans_text {kind field s : String} {f : String → Except Fault Plan} :
    Plans (Check.requireText kind field s >>= f) call ↔ Check.Sendable s ∧ Plans (f s) call := by
  simp only [plans_bind, Check.requireText_eq_ok]
  exact ⟨fun ⟨_, ⟨hv, hs⟩, h⟩ => ⟨hs, hv ▸ h⟩, fun ⟨hs, h⟩ => ⟨s, ⟨rfl, hs⟩, h⟩⟩

/-- A write asks for its key last. -/
theorem plans_key {nodeId : String} {f : String → Plan} :
    Plans (Action.demandedKey c nodeId >>= fun key => pure (f key)) call ↔
      ∃ key, c.writeKey nodeId = .ok key ∧ call = (f key).call := by
  simp only [plans_bind, plans_pure]
  unfold Action.demandedKey
  cases c.writeKey nodeId <;> simp [Except.mapError]

theorem CalendarEvent.plans_iff {kind : String} {invites : Bool} {a : CalendarEvent} :
    Plans (a.plan kind invites c) call ↔ a.Allows kind invites c call := by
  unfold plan Allows
  rw [plans_text, plans_bind]
  refine and_congr_right fun _ => exists_congr fun start => and_congr_right fun _ => ?_
  rw [plans_bind]
  refine exists_congr fun finish => and_congr_right fun _ => ?_
  rw [← Time.Stamp.later?_eq_true]
  cases hlater : finish.later? start with
  | none => exact iff_of_false not_plans_error nofun
  | some later =>
    cases later with
    | false => exact iff_of_false not_plans_error nofun
    | true =>
      dsimp only
      rw [plans_check, plans_check, plans_pure]
      rw [eq_self, true_and]
      refine and_congr ?_ (and_congr ?_ Iff.rfl)
      · rw [guests, List.forall_mem_map]
        simp [← Check.isMailAddress_iff]
      · change ¬(invites && a.guests.isEmpty) = true ↔ _
        simp

theorem HttpAction.plans_iff {kind : String} {body : Value} {a : HttpAction} :
    Plans (a.plan kind body c) call ↔ a.Allows body c call := by
  unfold plan Allows
  rw [plans_bind]
  simp only [Check.url_eq_ok, and_assoc, exists_eq_left]
  refine and_congr_right fun _ => ?_
  rw [plans_check]
  refine and_congr (by simp) ?_
  simp only [plans_bind, plans_pure, Except.bind_eq_ok]
  constructor
  · rintro ⟨seconds, hseconds, ms, hms, hcall⟩
    exact ⟨ms, ⟨seconds, hseconds, hms⟩, hcall⟩
  · rintro ⟨ms, ⟨seconds, hseconds, hms⟩, hcall⟩
    exact ⟨seconds, hseconds, ms, hms, hcall⟩

theorem CreateTask.plans_iff {nodeId : String} {now : Time.Stamp} {a : CreateTask}
    {f : Option String → String → Plan} :
    Plans (match a.dueDate with
      | some due => Check.dueDate due now >>= fun date =>
        Action.demandedKey c nodeId >>= fun key => pure (f date key)
      | none => Except.ok none >>= fun date =>
        Action.demandedKey c nodeId >>= fun key => pure (f date key)) call ↔
      ∃ date, a.DueAt now date ∧ ∃ key, c.writeKey nodeId = .ok key ∧ call = (f date key).call := by
  unfold DueAt
  cases a.dueDate with
  | none =>
    dsimp only
    rw [plans_bind]
    simp only [plans_key, Except.ok.injEq, @eq_comm _ none]
  | some due =>
    dsimp only
    rw [plans_bind]
    simp only [plans_key]

theorem Action.plans_iff {a : Action} {nodeId : String} {places : Places} {now : Time.Stamp} :
    Plans (a.plan nodeId c places now) call ↔ a.Allows nodeId c places now call := by
  unfold plan Allows
  cases a with
  | sendSms b =>
    dsimp only
    rw [plans_bind]
    refine exists_congr fun phone => and_congr_right fun _ => ?_
    rw [plans_text, plans_pure]
    rfl
  | sendEmail b =>
    dsimp only
    rw [plans_text, plans_check, plans_pure, ← Check.isMailAddress_iff]
    simp [planId]
  | makeCall b =>
    dsimp only
    rw [plans_text, plans_bind]
    simp only [plans_pure]
    rfl
  | sendSlack b =>
    dsimp only
    rw [plans_text, plans_pure]
    rfl
  | createLead b =>
    dsimp only
    rw [plans_check]
    exact and_congr (by simp) plans_key
  | updateLead b | updateDeal b | addNote b =>
    dsimp only
    rw [plans_text]
    exact and_congr_right fun _ => plans_key
  | createTask b =>
    dsimp only
    rw [plans_text]
    exact and_congr_right fun _ => CreateTask.plans_iff
  | createCalendarEvent b | sendCalendarInvite b => exact CalendarEvent.plans_iff
  | addSheetRow b =>
    unfold SheetRow.plan
    dsimp only
    rw [plans_text, plans_pure]
  | webhook b | apiCall b => exact HttpAction.plans_iff

end Plans

/-! ## What fails a check -/

/-- A failure after which nothing is tried again. -/
def FailureKind.IsFinal (kind : FailureKind) : Prop := kind = .permanent ∨ kind = .fatal

/-- A classified failure of the one computation is final, and the other one fails alike. -/
def FailsAlike {α : Type} (x y : Except Fault α) : Prop :=
  ∀ f, x = .error (.failure f) → f.kind.IsFinal ∧ y = .error (.failure f)

section FailsAlike

variable {α β : Type} {x y : Except Fault α}

/-- Behind the same computation the failures of what follows count. -/
theorem FailsAlike.bind {f g : α → Except Fault β} (hx : FailsAlike x x)
    (hf : ∀ a, FailsAlike (f a) (g a)) : FailsAlike (x >>= f) (x >>= g) := by
  intro e h
  rcases Except.bind_eq_error.mp h with h | ⟨a, rfl, h⟩
  · obtain ⟨hfinal, -⟩ := hx e h
    exact ⟨hfinal, by rw [h]; rfl⟩
  · exact hf a e h

/-- Behind the same check the failures of what follows count. -/
theorem FailsAlike.check {b : Prop} [Decidable b] {fault : Fault}
    (hfault : FailsAlike (α := PUnit) (.error fault) (.error fault)) (h : FailsAlike x y) :
    FailsAlike (if b then (Except.error fault : Except Fault PUnit) >>= fun _ => x else x)
      (if b then (Except.error fault : Except Fault PUnit) >>= fun _ => y else y) := by
  split
  · exact hfault.bind fun _ => h
  · exact h

end FailsAlike

namespace Check

variable {kind field s : String}

end Check

section Plan

variable {a : Action} {nodeId : String} {c : Context} {places : Places} {now later : Time.Stamp}

end Plan

/-! ## All attempts -/

namespace Action

variable {a : Action} {nodeId : String} {c : Context} {places : Places} {origin : Int}
  {policy : RetryPolicy} {timeout : Float} {x : Trial} {before : List Trial} {t : List Exchange}
  {r : Except Fault (Entries Value)} {count : Nat}

/-- An attempt is a look at the clock, and then one call that the checks let through at that moment, or
nothing if they let none through. -/
def Guarded (a : Action) (nodeId : String) (c : Context) (places : Places) (origin : Int)
    (x : Trial) : Prop :=
  ∃ reading : Nat,
    (x.exchanges = [⟨.clock, reading⟩] ∧
      ∀ call, ¬a.Allows nodeId c places (stampAt origin reading) call) ∨
    ∃ call timeout answer, x.exchanges = [⟨.clock, reading⟩, ⟨.call call timeout, answer⟩] ∧
      a.Allows nodeId c places (stampAt origin reading) call

theorem Attempted.guarded (h : a.Attempted nodeId c places origin timeout x) :
    a.Guarded nodeId c places origin x := by
  cases h with
  | @refused reading fault hplan =>
    refine ⟨reading, .inl ⟨rfl, fun call hcall => ?_⟩⟩
    obtain ⟨plan, hplan', -⟩ := plans_iff.mpr hcall
    rw [hplan] at hplan'
    cases hplan'
  | @called reading plan answer hplan =>
    exact ⟨reading, .inr ⟨plan.call, timeout, answer, rfl, plans_iff.mp ⟨plan, hplan, rfl⟩⟩⟩

end Action

end Automation
