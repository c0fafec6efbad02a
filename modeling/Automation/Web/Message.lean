import Automation.Json.Reader
import Automation.Schema.Codec
import Automation.Web.Token

/-!
# Requests and answers

What a caller sends and gets back. The parameters and the body of a request are data that must have
their shapes; what is wrong with them is answered with its place, its code and a message.
-/

namespace Automation.Web

open Schema

/-! ## Answers -/

/-- An answer: a status and a document. -/
structure Answer where
  status : Nat
  body : Value
deriving DecidableEq

namespace Answer

/-- A document without further ado. -/
def ok (body : Value) : Answer := ⟨200, body⟩

/-- A refusal with its reason. -/
def refusal (status : Nat) (reason : Value) : Answer := ⟨status, .object [("detail", reason)]⟩

/-- A refusal in words. -/
def refused (status : Nat) (reason : String) : Answer := refusal status (.text reason)

end Answer

/-! ## Issues of requests -/

/-- A step as a document. -/
def stepValue : Step → Value
  | .field name => .text name
  | .item index => .int index

/-- A complaint about a part of a body. Bodies may hold objects of any kind, and the complaint about
one that is none says so. -/
def ofBody : Complaint → Complaint
  | .model _ => .attributes
  | complaint => complaint

/-- An issue as it is answered. -/
def issueValue (issue : Issue) : Value := .object
  [("type", .text issue.complaint.code), ("loc", .list (issue.place.map stepValue)),
   ("msg", .text issue.complaint.message)]

/-- The answer to a request with issues. -/
def unprocessable (issues : List Issue) : Answer := .refusal 422 (.list (issues.map issueValue))

/-! ## Requests -/

/-- What is sent along with a request. -/
inductive Body where
  | none
  | document (v : Value)
  | raw (s : String)

/-- A request. -/
structure Call where
  method : String
  path : String
  /-- The parameters behind the path. -/
  query : Entries String := []
  body : Body := .none
  credentials : Option Credentials := none

/-- The text without a byte order mark in front. -/
def dropMark (s : String) : String :=
  match s.toList with
  | '\uFEFF' :: cs => String.ofList cs
  | _ => s

/-- The document in a body, if there is one that is not null. -/
def Body.read : Body → Except Answer (Option Value)
  | .none => .ok Option.none
  | .document .null => .ok Option.none
  | .document v => .ok (some v)
  | .raw s =>
    if s.isEmpty then .ok Option.none
    else match Json.read (dropMark s) with
      | .ok .null => .ok Option.none
      | .ok v => .ok (some v)
      | .error (.syntaxFault _ _ _ offset) =>
        .error (unprocessable [⟨[.field "body", .item offset], .json⟩])
      | .error (.tooManyDigits _) => .error (.refused 400 "There was an error parsing the body")

/-- A body of a shape, which must be there. -/
def required {α : Type} (c : Codec α) (body : Option Value) : Checked α :=
  match body with
  | some v =>
    match (c.read v).under (.field "body") with
    | .ok a => .ok a
    | .bad issues =>
      .bad (issues.map fun issue => { issue with complaint := ofBody issue.complaint })
  | none => .bad [⟨[.field "body"], .missing⟩]

/-- A body of a shape, or none. -/
def optional {α : Type} (c : Codec α) (body : Option Value) : Checked (Option α) :=
  match body with
  | some _ => (required c body).map some
  | none => .ok none

/-! ## Parameters -/

/-- A parameter of a shape, or its default. -/
def parameter {α : Type} (query : Entries String) (name : String) (c : Codec α) (default : α) :
    Checked α :=
  match query.get? name with
  | some s => ((c.read (Value.text s)).under (.field name)).under (.field "query")
  | none => .ok default

/-- An integer within bounds. -/
def boundedInteger (least : Int) (most : Option Int) : Codec Int :=
  let bounded := Codec.guarded .integer (least ≤ ·) (.below least)
  match most with
  | some most => .guarded bounded (· ≤ most) (.above most)
  | none => bounded

/-- The number and the size of a page. -/
def pageParameters (query : Entries String) (size : Int) : Checked (Int × Int) :=
  Prod.mk <$> parameter query "page" (boundedInteger 1 none) 1
    <*> parameter query "size" (boundedInteger 1 (some 100)) size

/-- A text among the parameters, empty if it is not there. -/
def textParameter (query : Entries String) (name : String) : String := (query.get? name).getD ""

end Automation.Web
