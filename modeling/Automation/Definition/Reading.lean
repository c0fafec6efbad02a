import Automation.Definition.Codec
import Automation.Json.Reader
import Automation.Json.Writer
import Automation.Yaml.Data
import Automation.Yaml.Writer

/-!
# Definitions as text

A definition is read from data, from JSON or from YAML, and written as indented JSON or as YAML. A
text that is no definition is refused with every reason.
-/

namespace Automation

open Schema

/-- Why something is no definition. -/
inductive Refusal where
  | shape (issues : List Issue)
  | badJson (fault : Json.Fault) (line column offset : Nat)
  | noObject
  | badYaml
  | noMapping
  /-- A text with an integer of too many digits cannot even be refused. -/
  | longInteger (digits : Nat)
  /-- Nor can a text with a scalar that has not the value which its form promises. -/
  | badScalar (fault : Yaml.Fault)
deriving DecidableEq, Repr

namespace Refusal

/-- The refusal in words. -/
def message : Refusal → String
  | .shape issues => "Invalid workflow definition: " ++ summary "WorkflowDefinition" issues
  | .badJson fault line column offset =>
    "Invalid JSON format: " ++ (Json.Error.syntaxFault fault line column offset).message
  | .noObject => "Workflow JSON must contain an object"
  | .badYaml => Yaml.Fault.malformed.message
  | .noMapping => "Workflow YAML must contain a mapping"
  | .longInteger digits => Number.tooManyDigitsMessage digits
  | .badScalar fault => fault.message

/-- All reasons. -/
def reasons : Refusal → List String
  | .shape issues => issues.map Issue.line
  | refusal => [refusal.message]

end Refusal

namespace Definition

/-- The definition that data describes. -/
def read {σ : Type} [Source σ] (x : σ) : Except Refusal Definition :=
  (codec.read x).toExcept.mapError .shape

/-- The definition that a JSON text describes. -/
def ofJson (text : String) : Except Refusal Definition :=
  match Json.read text with
  | .ok (.object fields) => read (Value.object fields)
  | .ok _ => .error .noObject
  | .error (.syntaxFault fault line column offset) => .error (.badJson fault line column offset)
  | .error (.tooManyDigits digits) => .error (.longInteger digits)

/-- The definition that a YAML text describes. -/
def ofYaml (text : String) : Except Refusal Definition :=
  match Yaml.Data.ofText text with
  | .ok (.mapping entries) => read (Yaml.Data.mapping entries)
  | .ok _ => .error .noMapping
  | .error .malformed => .error .badYaml
  | .error (.longInteger digits) => .error (.longInteger digits)
  | .error fault => .error (.badScalar fault)

/-- The definition as indented JSON text. -/
def toJson (d : Definition) : String := Json.pretty d.wire

/-- The definition as YAML text. -/
def toYaml (d : Definition) : String := Yaml.write d.wire

end Definition

end Automation
