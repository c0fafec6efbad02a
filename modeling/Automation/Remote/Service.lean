import Automation.Remote.Http
import Automation.Action.Call

/-!
# Services for records and appointments

Records and appointments are kept by services that answer requests. A call becomes one request, and
the answer must name the record. A key in the headers lets the service see that a request is the
same as an earlier one.
-/

namespace Automation.Remote

/-- A service. -/
inductive Service where
  | crm
  | calendar
deriving DecidableEq, Repr

/-- What a service is called. -/
def Service.name : Service → String
  | .crm => "CRM service"
  | .calendar => "Calendar service"

/-- A request to a service. -/
structure ServiceRequest where
  service : Service
  /-- The action that makes the request. -/
  action : String
  method : String
  path : String
  body : Entries Value
  /-- The key that tells repeated requests, empty if there is none. -/
  key : String := ""
deriving DecidableEq

/-- The address of all that a tenant has. -/
def tenantPath (tenant : Value) : String := "/api/v1/tenants/" ++ tenant.display

/-- The request that a call becomes, if it is a call to a service. -/
def serviceRequest? : Call → Option ServiceRequest
  | .createRecord tenant kind fields key => some
    { service := .crm, action := "create_" ++ kind, method := "POST",
      path := tenantPath tenant ++ "/" ++ kind ++ "s", body := fields, key }
  | .updateRecord tenant kind id fields key => some
    { service := .crm, action := "update_" ++ kind, method := "PATCH",
      path := tenantPath tenant ++ "/" ++ kind ++ "s/" ++ id, body := fields, key }
  | .addNote tenant target text key => some
    { service := .crm, action := "add_note", method := "POST",
      path := tenantPath tenant ++ "/notes",
      body := [("target_id", .text target), ("text", .text text)], key }
  | .createEvent tenant calendar title description start finish attendees invites => some
    { service := .calendar
      action := if invites then "send_calendar_invite" else "create_calendar_event"
      method := "POST", path := tenantPath tenant ++ "/events"
      body := [("calendar", .text calendar), ("title", .text title),
        ("description", .optText description), ("start", .text start), ("end", .text finish),
        ("attendees", .texts attendees), ("send_invites", .bool invites)] }
  | _ => none

namespace ServiceRequest

/-- The headers of a request. -/
def headers (r : ServiceRequest) : Entries Value :=
  [("Content-Type", .text "application/json")]
    ++ (if r.key.isEmpty then [] else [("Idempotency-Key", .text r.key)])

/-- A request to the service at an address. -/
def toHttp (r : ServiceRequest) (address : String) : HttpRequest where
  method := r.method
  url := String.ofList (Text.stripBack (· == '/') address.toList) ++ r.path
  headers := some r.headers
  body := .object r.body

/-- What an answer means: the id of the record. A failure is one of the action. -/
def conclude (r : ServiceRequest) : Except Fault HttpAnswer → Except Fault String
  | .error (.failure f) => .error (.failure (f.retag r.action))
  | .error fault => .error fault
  | .ok answer => do
    Check.status r.action answer.status
    match answer.body.field? "id" with
    | some id => return id.display
    | none => .error (.permanent r.action (r.service.name ++ " response missing record id"))

end ServiceRequest

end Automation.Remote
