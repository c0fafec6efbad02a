import Automation.Text.Class

/-!
# Issues

What is found wrong with data that should have a given shape. An issue names its place, from the
outside in, and its kind; the kind has a code for programs and a message for people. A reading
collects every issue and does not stop at the first.
-/

namespace Automation.Schema

/-- A step into data. -/
inductive Step where
  | field (name : String)
  | item (index : Nat)
deriving DecidableEq, Repr

/-- A step as text. -/
def Step.text : Step → String
  | .field name => name
  | .item index => toString index

/-- What is wrong at a place. -/
inductive Complaint where
  | missing
  | text
  | textTooShort (least : Nat)
  | textTooLong (most : Nat)
  | flag
  | unclearFlag
  | integer
  | unreadableInteger
  | fractionalInteger
  | oversizedInteger
  | infiniteNumber
  | number
  | unreadableNumber
  | below (least : Int)
  | notAbove (bound : Int)
  | above (most : Int)
  | list
  | dictionary
  | model (name : String)
  /-- The same in a request body. -/
  | attributes
  | extra
  | badKey
  | choice (names : List String)
  | noTag (field : String)
  | badTag (shown field : String) (tags : List String)
  | time
  | unreadableTime (fault : String)
  | badTimestamp (fault : String)
  /-- The body is no JSON. -/
  | json
deriving DecidableEq, Repr

/-- Names in quotes as a list of choices. -/
def listChoices (names : List String) : String :=
  let quoted := names.map fun name => "'" ++ name ++ "'"
  match quoted.reverse with
  | [] => ""
  | [only] => only
  | last :: before => Text.join ", " before.reverse ++ " or " ++ last

/-- A count of characters in words. -/
def characters (n : Nat) : String := s!"{n} character" ++ (if n = 1 then "" else "s")

/-- The code of a complaint. -/
def Complaint.code : Complaint → String
  | .missing => "missing"
  | .text => "string_type"
  | .textTooShort _ => "string_too_short"
  | .textTooLong _ => "string_too_long"
  | .flag => "bool_type"
  | .unclearFlag => "bool_parsing"
  | .integer => "int_type"
  | .unreadableInteger => "int_parsing"
  | .fractionalInteger => "int_from_float"
  | .oversizedInteger => "int_parsing_size"
  | .infiniteNumber => "finite_number"
  | .number => "float_type"
  | .unreadableNumber => "float_parsing"
  | .below _ => "greater_than_equal"
  | .notAbove _ => "greater_than"
  | .above _ => "less_than_equal"
  | .list => "list_type"
  | .dictionary => "dict_type"
  | .model _ => "model_type"
  | .attributes => "model_attributes_type"
  | .extra => "extra_forbidden"
  | .badKey => "invalid_key"
  | .choice _ => "enum"
  | .noTag _ => "union_tag_not_found"
  | .badTag _ _ _ => "union_tag_invalid"
  | .time => "datetime_type"
  | .unreadableTime _ => "datetime_from_date_parsing"
  | .badTimestamp _ => "datetime_parsing"
  | .json => "json_invalid"

/-- A complaint in words. -/
def Complaint.message : Complaint → String
  | .missing => "Field required"
  | .text => "Input should be a valid string"
  | .textTooShort least => s!"String should have at least {characters least}"
  | .textTooLong most => s!"String should have at most {characters most}"
  | .flag => "Input should be a valid boolean"
  | .unclearFlag => "Input should be a valid boolean, unable to interpret input"
  | .integer => "Input should be a valid integer"
  | .unreadableInteger => "Input should be a valid integer, unable to parse string as an integer"
  | .fractionalInteger => "Input should be a valid integer, got a number with a fractional part"
  | .oversizedInteger => "Unable to parse input string as an integer, exceeded maximum size"
  | .infiniteNumber => "Input should be a finite number"
  | .number => "Input should be a valid number"
  | .unreadableNumber => "Input should be a valid number, unable to parse string as a number"
  | .below least => s!"Input should be greater than or equal to {least}"
  | .notAbove bound => s!"Input should be greater than {bound}"
  | .above most => s!"Input should be less than or equal to {most}"
  | .list => "Input should be a valid list"
  | .dictionary => "Input should be a valid dictionary"
  | .model name => s!"Input should be a valid dictionary or instance of {name}"
  | .attributes => "Input should be a valid dictionary or object to extract fields from"
  | .extra => "Extra inputs are not permitted"
  | .badKey => "Keys should be strings"
  | .choice names => "Input should be " ++ listChoices names
  | .noTag field => s!"Unable to extract tag using discriminator '{field}'"
  | .badTag shown field tags =>
    s!"Input tag '{shown}' found using '{field}' does not match any of the expected tags: "
      ++ Text.join ", " (tags.map fun tag => "'" ++ tag ++ "'")
  | .time => "Input should be a valid datetime"
  | .unreadableTime fault => "Input should be a valid datetime or date, " ++ fault
  | .badTimestamp fault => "Input should be a valid datetime, " ++ fault
  | .json => "JSON decode error"

/-- A complaint at a place. -/
structure Issue where
  place : List Step
  complaint : Complaint
deriving DecidableEq, Repr

/-- The place and the message of an issue on one line. -/
def Issue.line (issue : Issue) : String :=
  Text.join "." (issue.place.map Step.text) ++ ": " ++ issue.complaint.message

/-- How many issues a shape has, in words. -/
def summary (shape : String) (issues : List Issue) : String :=
  let plural := if issues.length = 1 then "" else "s"
  s!"{issues.length} validation error{plural} for {shape}"

/-! ## Checked readings -/

/-- The result of a reading: a value, or all issues that were found. -/
inductive Checked (α : Type) where
  | ok (value : α)
  | bad (issues : List Issue)
deriving Repr

namespace Checked

variable {α β : Type}

/-- The issues of a reading. -/
def issues : Checked α → List Issue
  | .ok _ => []
  | .bad found => found

/-- Change the value. -/
def map (f : α → β) : Checked α → Checked β
  | .ok value => .ok (f value)
  | .bad found => .bad found

/-- Join two readings; the issues of both are kept. -/
def both (f : Checked (α → β)) (x : Checked α) : Checked β :=
  match f, x with
  | .ok f, .ok x => .ok (f x)
  | f, x => .bad (f.issues ++ x.issues)

instance : Functor Checked := ⟨map, fun a => map fun _ => a⟩

instance : Applicative Checked where
  pure := .ok
  seq f x := both f (x ())

/-- Go on with the value. -/
def andThen (x : Checked α) (f : α → Checked β) : Checked β :=
  match x with
  | .ok value => f value
  | .bad found => .bad found

/-- A single issue at the place itself. -/
def fail (complaint : Complaint) : Checked α := .bad [⟨[], complaint⟩]

/-- Move all issues one step down. -/
def under (step : Step) : Checked α → Checked α
  | .ok value => .ok value
  | .bad found => .bad (found.map fun issue => { issue with place := step :: issue.place })

/-- Every element read, with the issues of all. -/
def all : List (Checked α) → Checked (List α)
  | [] => .ok []
  | x :: xs => (x.map List.cons).both (all xs)

/-- The result as an exception or a value. -/
def toExcept : Checked α → Except (List Issue) α
  | .ok value => .ok value
  | .bad found => .error found

/-- The value, if there is no issue. -/
def toOption : Checked α → Option α
  | .ok value => some value
  | .bad _ => none

end Checked

end Automation.Schema
