import Automation.Server.Dispatch
import Automation.Web.Message
import Automation.Web.Route

/-!
# Answering requests

A request is checked from the outside in: where it leads, whether its body is JSON, who sends it,
whether runs are dispatched, and whether its parameters and its body have their shapes. Only then is
it carried out, for the tenant of the caller and for no other. What goes wrong then is answered
with a status of its own.
-/

namespace Automation.Web

open Schema

variable {τ : Type}

/-! ## What actions need -/

namespace Action

/-- Whether an action reads the body of a request. -/
def readsBody : Action → Bool
  | .createWorkflow | .validateWorkflow | .useTemplate _ | .updateWorkflow _ | .testWorkflow _
  | .postEvent => true
  | _ => false

/-- Whether an action needs a dispatcher. -/
def needsDispatcher : Action → Bool
  | .testWorkflow _ | .postEvent | .abortRun _ => true
  | _ => false

/-- Whether an action tells the caller why a definition is rejected. -/
def tellsRejections : Action → Bool
  | .createWorkflow | .useTemplate _ | .updateWorkflow _ | .enableWorkflow _ => true
  | _ => false

end Action

/-! ## Failures -/

/-- A rejected definition as it is answered. -/
def rejection (failure : Failed) (reasons : List String) : Value :=
  .object [("message", .text failure.message), ("errors", .texts reasons)]

/-- The answer to a failure of an action. -/
def failureAnswer (a : Action) (failure : Failed) : Answer :=
  match failure with
  | .noWorkflow _ => .refused 404 "Workflow not found"
  | .noTemplate _ => .refused 404 "Template not found"
  | .noRun _ => .refused 404 "Run not found"
  | .foreignWorkflow .. | .foreignRun .. => .refused 403 "Access denied"
  | failure =>
    match failure.rejection? with
    | some reasons =>
      if a.tellsRejections then .refusal 400 (rejection failure reasons)
      else .refused 500 failure.message
    | none => .refused 500 failure.message

/-- Carry something out and answer, even if it fails. -/
def attempt {α : Type} (a : Action) (work : Service τ α) (answer : α → Answer) : Service τ Answer :=
  tryCatch (do return answer (← work)) fun failure => return failureAnswer a failure

/-- Go on with checked data, or answer with what is wrong with them. -/
def checked {α : Type} (x : Checked α) (work : α → Service τ Answer) : Service τ Answer :=
  match x with
  | .ok a => work a
  | .bad issues => return unprocessable issues

/-! ## Endpoints -/

/-- What the server says about itself. -/
def rootAnswer (settings : Settings) : Answer := .ok <| .object
  [("message", .text settings.projectName), ("version", .text "1.0.0"), ("status", .text "running"),
   ("docs_url", .text (settings.apiRoot ++ "/docs"))]

/-- That the server is well. -/
def healthAnswer (settings : Settings) : Answer := .ok <| .object
  [("status", .text "healthy"), ("service", .text settings.serviceName), ("version", .text "1.0.0")]

/-- Lists of workflows, filtered by parameters. -/
def filterParameters (query : Entries String) : Checked WorkflowFilter :=
  (parameter query "enabled" Codec.flag.optional none).map fun enabled =>
    { enabled, category := textParameter query "category"
      triggerKind := textParameter query "trigger_type" }

variable [ActiveTime τ] [RunningMean τ]

/-- Carry out a request of a caller. -/
def carryOut (a : Action) (caller : Claims) (query : Entries String) (body : Option Value) :
    Service τ Answer := do
  let tenant := caller.tenantId
  let user := caller.userId
  let now := (← get).now
  let full (v : WorkflowView τ) : Answer := .ok v.toValue
  match a with
  | .listWorkflows =>
    let parameters := Prod.mk <$> pageParameters query 10 <*> filterParameters query
    checked parameters fun ((page, size), filter) =>
      attempt a (Service.store (Workflows.list tenant page size filter)) fun p =>
        .ok (workflowPages.write .full p)
  | .createWorkflow =>
    checked (required NewWorkflow.codec body) fun w =>
      attempt a (Service.store (Workflows.create w tenant user now)) full
  | .validateWorkflow =>
    checked (required Definition.codec body) fun d =>
      match d.report with
      | .ok report => return .ok report.toValue
      | .error fault => throw (.longInteger fault)
  | .listTemplates =>
    let category := textParameter query "category"
    attempt a (Service.store (Workflows.templates category)) fun summaries =>
      .ok ((Codec.list WorkflowSummary.codec).write .full summaries)
  | .useTemplate id =>
    checked (optional TemplateUse.codec body) fun use =>
      attempt a (Service.store (Workflows.instantiate id (use.getD {}) tenant user now)) full
  | .getWorkflow id => attempt a (Service.store (Workflows.fetch id tenant)) full
  | .updateWorkflow id =>
    checked (required WorkflowChanges.codec body) fun changes =>
      attempt a (Service.store (Workflows.update id changes tenant user now)) full
  | .deleteWorkflow id =>
    attempt a (Service.store (Workflows.delete id tenant)) fun _ =>
      .ok (.object [("message", .text "Workflow deleted successfully")])
  | .enableWorkflow id => attempt a (Service.store (Workflows.setEnabled id tenant true now)) full
  | .disableWorkflow id => attempt a (Service.store (Workflows.setEnabled id tenant false now)) full
  | .testWorkflow id =>
    checked (optional Event.codec body) fun event =>
      let event := event.getD .manual
      attempt a (do Service.testRun (← Service.dispatcher) id tenant event) fun result =>
        .ok (RunResult.codec.write .full result)
  | .workflowStats id =>
    attempt a (Service.store (Workflows.record id tenant)) fun r => .ok r.toValue
  | .workflowRuns id =>
    checked (pageParameters query 20) fun (page, size) =>
      let status := textParameter query "status"
      attempt a (Service.store (Runs.list id tenant page size status)) fun p =>
        .ok (runPages.write .full p)
  | .postEvent =>
    checked (required Event.codec body) fun event =>
      attempt a (do Service.dispatchEvent (← Service.dispatcher) tenant event) fun d =>
        ⟨202, d.toValue⟩
  | .getRun id => attempt a (Service.store (Runs.fetch id tenant)) fun r => .ok r.toValue
  | .abortRun id =>
    attempt a (do Service.abortRun (← Service.dispatcher) id tenant) fun accepted =>
      if accepted then .ok (.object [("run_id", .text id), ("abort_requested", .bool true)])
      else .refused 409 "Run is not in progress or the abort could not be recorded"

/-- Answer a request for an action. -/
def serve (a : Action) (r : Call) : Service τ Answer := do
  let s ← get
  match if a.readsBody then r.body.read else .ok none with
  | .error answer => return answer
  | .ok body =>
    match authenticate s.settings (s.origin + s.elapsed) r.credentials with
    | .error (.badClaims issues) => throw (.badRecord "TokenClaims" issues)
    | .error fault => return .refused fault.status fault.message
    | .ok caller =>
      if a.needsDispatcher && s.dispatcher.isNone then
        return .refused 503 "Workflow engine is not ready"
      else carryOut a caller r.query body

/-- Answer a request as if for its body. -/
def respond (r : Call) : Service τ Answer := do
  match target r.method r.path with
  | .endpoint .root => return rootAnswer (← get).settings
  | .endpoint .health => return healthAnswer (← get).settings
  | .endpoint (.action a) => serve a r
  | .wrongMethod => return .refused 405 "Method Not Allowed"
  | .moved => return ⟨307, .text ""⟩
  | .unknown => return .refused 404 "Not Found"

/-- Answer a request. What is asked for the head alone is answered without its body. -/
def handle (r : Call) : Service τ Answer := do
  let answer ← respond r
  return if r.method = "HEAD" then { answer with body := .text "" } else answer

end Automation.Web
