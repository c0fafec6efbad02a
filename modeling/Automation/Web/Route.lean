/-!
# Routes

Which endpoint a method and a path lead to. A path that only lacks or exceeds a final slash is sent
to the other one.
-/

namespace Automation.Web

/-- What a caller can ask for that is known. -/
inductive Action where
  | listWorkflows
  | createWorkflow
  | validateWorkflow
  | listTemplates
  | useTemplate (id : String)
  | getWorkflow (id : String)
  | updateWorkflow (id : String)
  | deleteWorkflow (id : String)
  | enableWorkflow (id : String)
  | disableWorkflow (id : String)
  | testWorkflow (id : String)
  | workflowStats (id : String)
  | workflowRuns (id : String)
  | postEvent
  | getRun (id : String)
  | abortRun (id : String)
deriving DecidableEq, Repr

/-- What can be asked for. -/
inductive Endpoint where
  /-- What the server is. -/
  | root
  /-- Whether it is well. -/
  | health
  | action (a : Action)
deriving DecidableEq, Repr

/-- A part of a path between slashes. -/
inductive Segment where
  | fixed (s : String)
  /-- Any text but the empty one. -/
  | hole
deriving DecidableEq, Repr

/-- A method and a form of paths. The endpoint depends on the text in the hole. -/
structure Route where
  method : String
  path : List Segment
  endpoint : String → Endpoint

/-- Fixed segments. -/
def fixed (parts : List String) : List Segment := parts.map .fixed

/-- All routes, the first of which that fits is taken. -/
def routes : List Route :=
  let workflows (rest : List Segment) := fixed ["", "api", "v1", "workflows"] ++ rest
  let runs (rest : List Segment) := fixed ["", "api", "v1", "runs"] ++ rest
  [⟨"GET", workflows (fixed [""]), fun _ => .action .listWorkflows⟩,
   ⟨"POST", workflows (fixed [""]), fun _ => .action .createWorkflow⟩,
   ⟨"POST", workflows (fixed ["validate"]), fun _ => .action .validateWorkflow⟩,
   ⟨"GET", workflows (fixed ["templates", "list"]), fun _ => .action .listTemplates⟩,
   ⟨"POST", workflows [.fixed "from-template", .hole], fun id => .action (.useTemplate id)⟩,
   ⟨"GET", workflows [.hole], fun id => .action (.getWorkflow id)⟩,
   ⟨"PUT", workflows [.hole], fun id => .action (.updateWorkflow id)⟩,
   ⟨"DELETE", workflows [.hole], fun id => .action (.deleteWorkflow id)⟩,
   ⟨"POST", workflows [.hole, .fixed "enable"], fun id => .action (.enableWorkflow id)⟩,
   ⟨"POST", workflows [.hole, .fixed "disable"], fun id => .action (.disableWorkflow id)⟩,
   ⟨"POST", workflows [.hole, .fixed "test-run"], fun id => .action (.testWorkflow id)⟩,
   ⟨"GET", workflows [.hole, .fixed "stats"], fun id => .action (.workflowStats id)⟩,
   ⟨"GET", workflows [.hole, .fixed "runs"], fun id => .action (.workflowRuns id)⟩,
   ⟨"POST", fixed ["", "api", "v1", "events", ""], fun _ => .action .postEvent⟩,
   ⟨"GET", runs [.hole], fun id => .action (.getRun id)⟩,
   ⟨"POST", runs [.hole, .fixed "abort"], fun id => .action (.abortRun id)⟩,
   ⟨"GET", fixed ["", ""], fun _ => .root⟩,
   ⟨"GET", fixed ["", "health"], fun _ => .health⟩]

/-- The text in the hole of a path that has the form of segments, empty if there is no hole. -/
def fill? : List Segment → List String → Option String
  | [], [] => some ""
  | .fixed s :: path, part :: parts => if part = s then fill? path parts else none
  | .hole :: path, part :: parts =>
    if part.isEmpty then none else (fill? path parts).map fun _ => part
  | _, _ => none

/-- The endpoint of a route for the parts of a path. -/
def Route.endpoint? (r : Route) (parts : List String) : Option Endpoint :=
  (fill? r.path parts).map r.endpoint

/-- Where a request leads. -/
inductive Target where
  | endpoint (e : Endpoint)
  /-- The path is known, but not with this method. -/
  | wrongMethod
  /-- A path that differs in its final slash is known. -/
  | moved
  | unknown
deriving DecidableEq, Repr

/-- Whether any route fits a path. -/
def isKnown (path : String) : Bool :=
  let parts := path.splitOn "/"
  routes.any fun r => (r.endpoint? parts).isSome

/-- The path with its final slashes removed, or with one added if it has none. -/
def toggleSlash (path : String) : String :=
  let cs := path.toList.reverse
  match cs with
  | '/' :: _ => String.ofList (cs.dropWhile (· == '/')).reverse
  | _ => path.push '/'

/-- Where a method and a path lead. -/
def target (method path : String) : Target :=
  let parts := path.splitOn "/"
  let found := routes.findSome? fun r => if r.method = method then r.endpoint? parts else none
  match found with
  | some e => .endpoint e
  | none =>
    if isKnown path then .wrongMethod
    else if path ≠ "/" && isKnown (toggleSlash path) then .moved
    else .unknown

end Automation.Web
