import Automation.Definition.Reading
import Automation.Proofs.Json.Limits
import Automation.Proofs.Yaml.Data

/-!
# Texts that are not refused

A text that is no definition should be refused, whatever it is. A few are not, and then the fault of
their reader shows: a JSON text with more digits in a row than are read, and a YAML text in which something
is misread (`Definition.read_or_refused`).
-/

namespace Automation

/-- The fault of a reader that shows where a text should be refused. -/
def Refusal.leak? : Refusal → Option Yaml.Fault
  | .longInteger digits => some (.longInteger digits)
  | .badScalar fault => some fault
  | .shape _ | .badJson .. | .noObject | .badYaml | .noMapping => none

namespace Definition

variable {text : String} {refusal : Refusal} {fault : Yaml.Fault}

/-- Data that is no definition is refused. -/
theorem leak?_read {σ : Type} [Schema.Source σ] {x : σ} (h : read x = .error refusal) :
    refusal.leak? = none := by
  obtain ⟨issues, -, rfl⟩ := Except.mapError_eq_error.mp h
  rfl

/-! ## JSON -/

theorem longRun_of_ofJson (h : ofJson text = .error refusal) (hleak : refusal.leak? = some fault) :
    ∃ count, fault = .longInteger count ∧ Number.LongRun text.toList count := by
  unfold ofJson at h
  split at h
  · rw [leak?_read h] at hleak
    cases hleak
  · cases h
    cases hleak
  · cases h
    cases hleak
  · rename_i count hread
    cases h
    cases hleak
    exact ⟨count, rfl, Json.read_tooManyDigits hread⟩

/-- An integer of too many digits is no definition, and it is not refused either. -/
theorem ofJson_writeInt_long {n : Int} (h : Number.digitLimit < (Nat.toDigits 10 n.natAbs).length) :
    ofJson (Number.writeInt n) = .error (.longInteger (Nat.toDigits 10 n.natAbs).length) := by
  rw [ofJson, Json.read_writeInt_long h]

/-! ## YAML -/

theorem misread_of_ofYaml (h : ofYaml text = .error refusal) (hleak : refusal.leak? = some fault) :
    Yaml.Misread text fault := by
  unfold ofYaml at h
  split at h
  case h_1 =>
    rw [leak?_read h] at hleak
    cases hleak
  case h_2 | h_3 =>
    cases h
    cases hleak
  case h_4 hread | h_5 hread =>
    cases h
    cases hleak
    exact Yaml.Data.ofText_misread hread

/-- What a month that is none gives, where a text should be refused. -/
theorem ofYaml_month : ofYaml "name: 2026-13-45" = .error (.badScalar (.date .month)) := by
  decide +kernel

/-! ## All texts -/

/-- A text is a definition, or it is refused, unless it has more digits in a row than are read, as JSON,
or something in it is misread, as YAML. -/
theorem read_or_refused (text : String) :
    (∀ refusal, ofJson text = .error refusal → refusal.leak? = none ∨
      ∃ count, refusal.leak? = some (.longInteger count) ∧ Number.LongRun text.toList count) ∧
    ∀ refusal, ofYaml text = .error refusal → refusal.leak? = none ∨
      ∃ fault, refusal.leak? = some fault ∧ Yaml.Misread text fault := by
  refine ⟨fun refusal h => ?_, fun refusal h => ?_⟩
  · cases hleak : refusal.leak? with
    | none => exact .inl rfl
    | some fault =>
      obtain ⟨count, rfl, hrun⟩ := longRun_of_ofJson h hleak
      exact .inr ⟨count, rfl, hrun⟩
  · cases hleak : refusal.leak? with
    | none => exact .inl rfl
    | some fault => exact .inr ⟨fault, rfl, misread_of_ofYaml h hleak⟩

theorem month_misread : Yaml.Misread "name: 2026-13-45" (.date .month) := by
  rcases (read_or_refused "name: 2026-13-45").2 _ ofYaml_month with hnone | ⟨fault, hfault, hmisread⟩
  · cases hnone
  · cases hfault
    exact hmisread

theorem not_all_refused : ¬∀ text refusal, ofYaml text = .error refusal → refusal.leak? = none :=
  fun h => nomatch h _ _ ofYaml_month

end Definition

end Automation
