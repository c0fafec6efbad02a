import Automation.Proofs.Definition.Reading
import Automation.Proofs.Run.Tenant
import Automation.Proofs.Schema.Texts
import Automation.Proofs.Template.Resolving

/-!
# Configurations, filled in

Filling in the placeholders of a configuration changes its texts and nothing else, so what comes of it is
a configuration of the same kind. The check of what has been filled in finds no issue.
-/

namespace Automation

open Schema Schema.Fields

/-! ## Texts in configurations -/

section Records

variable (f : String → String)

def SendSms.mapTexts (a : SendSms) : SendSms where
  recipient := f a.recipient
  message := f a.message

def SendEmail.mapTexts (a : SendEmail) : SendEmail where
  recipient := f a.recipient
  subject := f a.subject
  body := f a.body
  attachments := a.attachments.map f

def MakeCall.mapTexts (a : MakeCall) : MakeCall where
  agentId := f a.agentId
  phoneNumber := f a.phoneNumber

def SendSlack.mapTexts (a : SendSlack) : SendSlack where
  channel := f a.channel
  text := f a.text

def CreateLead.mapTexts (a : CreateLead) : CreateLead where
  leadData := a.leadData.mapValues (Value.mapTexts f)

def UpdateLead.mapTexts (a : UpdateLead) : UpdateLead where
  leadId := f a.leadId
  leadData := a.leadData.mapValues (Value.mapTexts f)

def CreateTask.mapTexts (a : CreateTask) : CreateTask where
  title := f a.title
  description := a.description.map f
  kind := f a.kind
  priority := f a.priority
  dueDate := a.dueDate.map f

def UpdateDeal.mapTexts (a : UpdateDeal) : UpdateDeal where
  dealId := f a.dealId
  dealData := a.dealData.mapValues (Value.mapTexts f)

def AddNote.mapTexts (a : AddNote) : AddNote where
  targetId := f a.targetId
  text := f a.text

def CalendarEvent.mapTexts (a : CalendarEvent) : CalendarEvent where
  calendar := f a.calendar
  title := f a.title
  description := a.description.map f
  start := f a.start
  finish := f a.finish
  attendees := a.attendees.map f

def SheetRow.mapTexts (a : SheetRow) : SheetRow where
  spreadsheetId := f a.spreadsheetId
  sheetName := f a.sheetName
  values := a.values.mapValues (Value.mapTexts f)

def HttpAction.mapTexts (a : HttpAction) : HttpAction where
  url := f a.url
  method := f a.method
  headers := a.headers.mapValues f
  body := a.body.map fun body => body.mapValues (Value.mapTexts f)
  timeoutMs := a.timeoutMs

/-- An action with every text of its configuration put through a function. -/
def Action.mapTexts : Action → Action
  | .sendSms a => .sendSms (a.mapTexts f)
  | .sendEmail a => .sendEmail (a.mapTexts f)
  | .makeCall a => .makeCall (a.mapTexts f)
  | .sendSlack a => .sendSlack (a.mapTexts f)
  | .createLead a => .createLead (a.mapTexts f)
  | .updateLead a => .updateLead (a.mapTexts f)
  | .createTask a => .createTask (a.mapTexts f)
  | .updateDeal a => .updateDeal (a.mapTexts f)
  | .addNote a => .addNote (a.mapTexts f)
  | .createCalendarEvent a => .createCalendarEvent (a.mapTexts f)
  | .sendCalendarInvite a => .sendCalendarInvite (a.mapTexts f)
  | .addSheetRow a => .addSheetRow (a.mapTexts f)
  | .webhook a => .webhook (a.mapTexts f)
  | .apiCall a => .apiCall (a.mapTexts f)

theorem SendSms.codec_carries : SendSms.codec.Carries f (mapTexts f) :=
  .closedRecord (.seq (.map
    (.required .text fun _ => rfl))
    (.required .text fun _ => rfl))

theorem SendEmail.codec_carries : SendEmail.codec.Carries f (mapTexts f) :=
  .closedRecord (.seq (.seq (.seq (.map
    (.required .text fun _ => rfl))
    (.required .text fun _ => rfl))
    (.required .text fun _ => rfl))
    (.default (.list .text) fun _ => rfl))

theorem MakeCall.codec_carries : MakeCall.codec.Carries f (mapTexts f) :=
  .closedRecord (.seq (.map
    (.required .text fun _ => rfl))
    (.required .text fun _ => rfl))

theorem SendSlack.codec_carries : SendSlack.codec.Carries f (mapTexts f) :=
  .closedRecord (.seq (.map
    (.required .text fun _ => rfl))
    (.required .text fun _ => rfl))

theorem CreateLead.codec_carries : CreateLead.codec.Carries f (mapTexts f) :=
  .closedRecord (.map
    (.required (.dictionary .any) fun _ => rfl))

theorem UpdateLead.codec_carries : UpdateLead.codec.Carries f (mapTexts f) :=
  .closedRecord (.seq (.map
    (.required .text fun _ => rfl))
    (.required (.dictionary .any) fun _ => rfl))

theorem CreateTask.codec_carries : CreateTask.codec.Carries f (mapTexts f) :=
  .closedRecord (.seq (.seq (.seq (.seq (.map
    (.required .text fun _ => rfl))
    (.optional .text fun _ => rfl))
    (.default .text fun _ => rfl))
    (.default .text fun _ => rfl))
    (.optional .text fun _ => rfl))

theorem UpdateDeal.codec_carries : UpdateDeal.codec.Carries f (mapTexts f) :=
  .closedRecord (.seq (.map
    (.required .text fun _ => rfl))
    (.required (.dictionary .any) fun _ => rfl))

theorem AddNote.codec_carries : AddNote.codec.Carries f (mapTexts f) :=
  .closedRecord (.seq (.map
    (.required .text fun _ => rfl))
    (.required .text fun _ => rfl))

theorem CalendarEvent.codec_carries : CalendarEvent.codec.Carries f (mapTexts f) :=
  .closedRecord (.seq (.seq (.seq (.seq (.seq (.map
    (.default .text fun _ => rfl))
    (.required .text fun _ => rfl))
    (.optional .text fun _ => rfl))
    (.required .text fun _ => rfl))
    (.required .text fun _ => rfl))
    (.default (.list .text) fun _ => rfl))

theorem SheetRow.codec_carries : SheetRow.codec.Carries f (mapTexts f) :=
  .closedRecord (.seq (.seq (.map
    (.required .text fun _ => rfl))
    (.required .text fun _ => rfl))
    (.required (.dictionary .any) fun _ => rfl))

theorem HttpAction.codec_carries : HttpAction.codec.Carries f (mapTexts f) :=
  .closedRecord (.seq (.seq (.seq (.seq (.map
    (.required .text fun _ => rfl))
    (.default .text fun _ => rfl))
    (.default (.dictionary .text) fun _ => rfl))
    (.optional (.dictionary .any) fun _ => rfl))
    (.optional (.guarded .integer) fun _ => (congrFun Option.map_id _).symm))

end Records

namespace Action

variable {f : String → String} {a : Action}

theorem writeConfig_mapTexts (f : String → String) (a : Action) (layout : Layout) :
    (a.mapTexts f).writeConfig layout = (a.writeConfig layout).mapTexts f := by
  cases a with
  | sendSms a => exact SendSms.codec_carries f layout a
  | sendEmail a => exact SendEmail.codec_carries f layout a
  | makeCall a => exact MakeCall.codec_carries f layout a
  | sendSlack a => exact SendSlack.codec_carries f layout a
  | createLead a => exact CreateLead.codec_carries f layout a
  | updateLead a => exact UpdateLead.codec_carries f layout a
  | createTask a => exact CreateTask.codec_carries f layout a
  | updateDeal a => exact UpdateDeal.codec_carries f layout a
  | addNote a => exact AddNote.codec_carries f layout a
  | createCalendarEvent a | sendCalendarInvite a => exact CalendarEvent.codec_carries f layout a
  | addSheetRow a => exact SheetRow.codec_carries f layout a
  | webhook a | apiCall a => exact HttpAction.codec_carries f layout a

theorem kind_mapTexts : (a.mapTexts f).kind = a.kind := by cases a <;> rfl

/-- What a configuration must meet says nothing of its texts. -/
theorem WellFormed.mapTexts (h : a.WellFormed) : (a.mapTexts f).WellFormed := by cases a <;> exact h

end Action

/-! ## Filling -/

namespace Engine

open Template
open Value (Part)

variable {a : Action} {c : Context}

/-- What is filled in is read back. -/
theorem readConfig_mapTexts (h : a.WellFormed) (f : String → String) :
    a.kind.readConfig ((a.writeConfig .plain).mapTexts f) = .ok (a.mapTexts f) := by
  rw [← Action.writeConfig_mapTexts, ← Action.kind_mapTexts (f := f)]
  exact Action.readConfig_write h.mapTexts

theorem resolveConfig_ok (h : a.WellFormed)
    (htexts : ∀ s, Part (.text s) (a.writeConfig .plain) → resolve s c = .ok (filled c s)) :
    resolveConfig a c = .ok (.ok (a.mapTexts (filled c))) := by
  rw [resolveConfig, resolveValue_ok htexts]
  exact congrArg Except.ok (readConfig_mapTexts h _)

/-- No lookup has to succeed for that: what has been filled in has no issue, if anything has. -/
theorem resolveConfig_ne_bad (h : a.WellFormed) (issues : List Issue) :
    resolveConfig a c ≠ .ok (.bad issues) := by
  intro hbad
  obtain ⟨resolved, hresolved, hread⟩ := Except.bind_eq_ok.mp hbad
  rw [resolveValue_eq_ok hresolved] at hread
  rw [readConfig_mapTexts h] at hread
  cases Except.ok.inj hread

/-- Filling in a configuration that a reader has let through never breaks it. The check of what is filled
in finds no issue, in any context. Where no lookup for its placeholders raises a fault, there comes an
action of the same kind, each text of which is the old one resolved on its own while the rest of what is
written, at every depth, is the same. A configuration without placeholders stays as it is. -/
theorem resolveConfig_never_breaks {σ : Type} [Source σ] {kind : ActionKind} {x : σ}
    (hread : kind.readConfig x = .ok a) (c : Context) :
    (∀ issues, resolveConfig a c ≠ .ok (.bad issues)) ∧
      ((∀ s, Part (.text s) (a.writeConfig .plain) →
          ∀ path ∈ placeholders s, ∃ found, c.lookup path = .ok found) →
        ∃ f, (∀ s, Part (.text s) (a.writeConfig .plain) → resolve s c = .ok (f s)) ∧
          resolveConfig a c = .ok (.ok (a.mapTexts f)) ∧ (a.mapTexts f).kind = kind ∧
          ∀ layout, (a.mapTexts f).writeConfig layout = (a.writeConfig layout).mapTexts f) ∧
      ((∀ s, Part (.text s) (a.writeConfig .plain) → placeholders s = []) →
        resolveConfig a c = .ok (.ok a)) := by
  have hwell := ActionKind.readConfig_wellFormed hread
  refine ⟨resolveConfig_ne_bad hwell, fun hanswers => ?_, fun hnone => ?_⟩
  · have htexts : ∀ s, Part (.text s) (a.writeConfig .plain) → resolve s c = .ok (filled c s) :=
      fun s hs => resolve_ok (by rw [Answers, ← placeholders_eq]; exact hanswers s hs)
    exact ⟨filled c, htexts, resolveConfig_ok hwell htexts,
      Action.kind_mapTexts.trans (ActionKind.readConfig_kind hread), Action.writeConfig_mapTexts _ _⟩
  · have hfilled : ∀ s, Part (.text s) (a.writeConfig .plain) → filled c s = s :=
      fun s hs => filled_unknown (by simp [hnone s hs])
    have htexts : ∀ s, Part (.text s) (a.writeConfig .plain) → resolve s c = .ok (filled c s) :=
      fun s hs => resolve_ok (by rw [Answers, ← placeholders_eq, hnone s hs]; exact nofun)
    have hsame : a.mapTexts (filled c) = a := by
      have hmapped := readConfig_mapTexts hwell (filled c)
      rw [Value.mapTexts_id hfilled, Action.readConfig_write hwell] at hmapped
      exact (Checked.ok.inj hmapped).symm
    rw [resolveConfig_ok hwell htexts, hsame]

/-- A request with texts in a list of its body, one placeholder of which leads nowhere, and a note
without any. -/
theorem resolveConfig_request :
    let c : Context :=
      { runId := .text "run-1", event := Event.manual, workflowId := .null, tenantId := .null
        vars := [("host", .text "example.test"), ("tags", .texts ["new", "paid"])], system := [] }
    let request : Value := .object
      [("url", .text "https://\x7b\x7bhost\x7d\x7d/leads"), ("timeoutMs", .int 500),
       ("body", .object [("tags", .list [.text "\x7b\x7b tags \x7d\x7d", .null, .int 2]),
         ("name", .text "\x7b\x7bname\x7d\x7d")])]
    let note : Value := .object [("targetId", .text "lead-1"), ("text", .text "hello")]
    (∃ a, ActionKind.readConfig .webhook request = .ok a ∧
      resolveConfig a c = .ok (.ok (.webhook
        { url := "https://example.test/leads", method := "POST", headers := []
          body := some [("tags", .list [.text "new, paid", .null, .int 2]),
            ("name", .text "\x7b\x7bname\x7d\x7d")]
          timeoutMs := some 500 }))) ∧
      ∃ a, ActionKind.readConfig .addNote note = .ok a ∧ resolveConfig a c = .ok (.ok a) := by
  intro c request note
  constructor
  · let a : Action := .webhook
      { url := "https://\x7b\x7bhost\x7d\x7d/leads", method := "POST", headers := []
        body := some [("tags", .list [.text "\x7b\x7b tags \x7d\x7d", .null, .int 2]),
          ("name", .text "\x7b\x7bname\x7d\x7d")]
        timeoutMs := some 500 }
    let texts : List String :=
      ["https://\x7b\x7bhost\x7d\x7d/leads", "POST", "\x7b\x7b tags \x7d\x7d", "\x7b\x7bname\x7d\x7d"]
    have hread : ActionKind.readConfig .webhook request = .ok a := rfl
    have hparts : ∀ s, Part (.text s) (a.writeConfig .plain) ↔ s ∈ texts := by
      have hwrite : a.writeConfig .plain = .object
          [("url", .text "https://\x7b\x7bhost\x7d\x7d/leads"), ("method", .text "POST"),
           ("headers", .object []),
           ("body", .object [("tags", .list [.text "\x7b\x7b tags \x7d\x7d", .null, .int 2]),
             ("name", .text "\x7b\x7bname\x7d\x7d")]), ("timeout_ms", .int 500)] := rfl
      simp [hwrite, texts]
    have hpaths : ∀ s ∈ texts, ∀ path ∈ placeholders s, path ∈ ["host", "tags", "name"] := by
      decide +kernel
    have hlookup : ∀ path ∈ ["host", "tags", "name"], ∃ found, c.lookup path = .ok found := by
      have hhost : c.lookup "host" = .ok (some (.text "example.test")) := by decide +kernel
      have htags : c.lookup "tags" = .ok (some (.texts ["new", "paid"])) := by decide +kernel
      have hname : c.lookup "name" = .ok none := by decide +kernel
      simp [hhost, htags, hname]
    obtain ⟨f, htexts, hresolve, -⟩ := (resolveConfig_never_breaks hread c).2.1
      fun s hs path hpath => hlookup path (hpaths s ((hparts s).1 hs) path hpath)
    have hresults : texts.map (resolve · c) = ["https://example.test/leads", "POST", "new, paid",
        "\x7b\x7bname\x7d\x7d"].map .ok := by decide +kernel
    rw [List.map_congr_left fun s hs => htexts s ((hparts s).2 hs)] at hresults
    refine ⟨a, hread, hresolve.trans ?_⟩
    simp only [texts, List.map_cons, List.map_nil, List.cons.injEq, Except.ok.injEq] at hresults
    obtain ⟨hurl, hmethod, htags, hname, -⟩ := hresults
    simp [a, Action.mapTexts, HttpAction.mapTexts, Entries.mapValues, hurl, hmethod, htags, hname]
  · have hread : ActionKind.readConfig .addNote note =
        .ok (.addNote { targetId := "lead-1", text := "hello" }) := rfl
    have hwrite : Action.writeConfig .plain (.addNote { targetId := "lead-1", text := "hello" }) =
        .object [("target_id", .text "lead-1"), ("text", .text "hello")] := rfl
    have hnone : ∀ s ∈ ["lead-1", "hello"], placeholders s = [] := by decide +kernel
    exact ⟨_, hread, (resolveConfig_never_breaks hread c).2.2 fun s hs =>
      hnone s (by simpa [hwrite] using hs)⟩

end Engine

end Automation
