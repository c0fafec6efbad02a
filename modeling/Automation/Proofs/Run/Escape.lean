import Automation.Proofs.Condition.Grammar
import Automation.Proofs.Definition.RoundTrip
import Automation.Proofs.Run.Reference
import Automation.Proofs.Run.Told
import Automation.Proofs.Run.World

/-!
# Runs without a result

A run always ends, and it is told how unless its definition cannot be judged. That is so if the reading
of some condition comes to an integer of too many digits, and for no other reason (`run_told_iff`).
-/

namespace Automation

/-! ## Integers of too many digits -/

namespace Condition

/-- The integer stands in the condition. -/
theorem read_longInteger {expression : String} {digits : Nat}
    (h : read expression = .error (.longInteger digits)) :
    ∃ ts verbatim, tokens expression = .ok ts ∧ .number verbatim ∈ ts ∧
      Number.digitLimit < digits ∧ digits ≤ verbatim.length := by
  unfold read at h
  split at h
  · cases h
  · rename_i ts hts
    obtain ⟨e, hok, -⟩ | ⟨fault, hbad⟩ | ⟨verbatim, digits', hlong, hmem, hvalue⟩ :=
      ofTokens_cases ts
    · rw [hok] at h
      cases h
    · rw [hbad] at h
      cases h
    · rw [hlong] at h
      obtain rfl := ReadFault.longInteger.inj (Except.error.inj h)
      refine ⟨ts, verbatim, hts, hmem, ?_⟩
      unfold numberValue at hvalue
      dsimp only at hvalue
      split at hvalue
      · cases hvalue
      · split at hvalue
        · rename_i hlimit
          obtain rfl := ReadFault.longInteger.inj (Except.error.inj hvalue)
          exact ⟨hlimit, (Number.takeSign_sublist _).length_le⟩
        · cases hvalue

theorem takeNumber?_ones (k : Nat) :
    takeNumber? (List.replicate (k + 1) '1') = some (List.replicate (k + 1) '1', []) := by
  have hwhole : (List.replicate (k + 1) '1').takeWhile Text.isDecimal
      = List.replicate (k + 1) '1' := by
    rw [List.takeWhile_replicate, if_pos (by decide)]
  unfold takeNumber?
  split
  rename_i hsign
  split at hsign
  · rename_i h
    cases h
  · obtain ⟨rfl, rfl⟩ := hsign
    simp [hwhole]

theorem tokens_ones (k : Nat) : tokens (String.ofList (List.replicate (k + 1) '1'))
    = .ok [.number (String.ofList (List.replicate (k + 1) '1'))] := by
  have htoken : takeToken? (List.replicate (k + 1) '1')
      = some (.number (String.ofList (List.replicate (k + 1) '1')), []) := by
    have hnumber := takeNumber?_ones k
    rw [List.replicate_succ] at hnumber ⊢
    simp [takeToken?, Template.takePlaceholder?, hnumber]
  have hcut : tokensFrom (k + 1) (List.replicate (k + 1) '1')
      = .ok [.number (String.ofList (List.replicate (k + 1) '1'))] := by
    have hspace : Text.isSpace '1' = false := by decide
    rw [List.replicate_succ] at htoken ⊢
    rw [tokensFrom, hspace, htoken]
    cases k <;> rfl
  rw [tokens, String.toList_ofList, List.length_replicate, hcut]
  rfl

/-- A condition that is a number of too many digits. -/
theorem read_ones {k : Nat} (hk : Number.digitLimit < k) :
    read (String.ofList (List.replicate k '1')) = .error (.longInteger k) := by
  obtain ⟨m, rfl⟩ : ∃ m, k = m + 1 := ⟨k - 1, by omega⟩
  have hvalue : numberValue (String.ofList (List.replicate (m + 1) '1'))
      = .error (.longInteger (m + 1)) := by
    have hsign : Number.takeSign (List.replicate (m + 1) '1')
        = (false, List.replicate (m + 1) '1') := rfl
    have hpoint : '.' ∉ List.replicate (m + 1) '1' := fun h => by
      cases List.eq_of_mem_replicate h
    simp [numberValue, hsign, hpoint, hk]
  rw [read, tokens_ones]
  simp [ofTokens, readOr, readAnd, readUnary, readOperand, hvalue, bind, Except.bind]

end Condition

/-! ## Definitions that cannot be judged -/

/-- The reading of a condition comes to an integer of too many digits. -/
def Node.Overlong (n : Node) (digits : Nat) : Prop :=
  ∃ b, n.work = .condition b ∧ Condition.read b.condition = .error (.longInteger digits)

theorem Node.Overlong.limit_lt {n : Node} {digits : Nat} (h : n.Overlong digits) :
    Number.digitLimit < digits := by
  obtain ⟨b, -, hread⟩ := h
  obtain ⟨_, _, -, -, hlimit, -⟩ := Condition.read_longInteger hread
  exact hlimit

theorem Work.problems_error {w : Work} {known : List String} {node : String} {fault : LongInteger} :
    w.problems known node = .error fault ↔
      ∃ b, w = .condition b ∧ Condition.read b.condition = .error (.longInteger fault.digits) := by
  cases w with
  | condition b =>
    refine Except.bind_eq_error.trans (.trans (or_iff_left nofun) ?_)
    unfold conditionProblems
    split <;> rename_i hread
    · simp [hread]
    · simp [hread]
    · rw [Except.error.injEq]
      constructor
      · rintro rfl
        exact ⟨b, rfl, hread⟩
      · rintro ⟨_, ⟨⟩, h⟩
        rw [hread] at h
        cases h
        rfl
  | _ => exact ⟨nofun, nofun⟩

theorem Node.problems_error {n : Node} {known : List String} {fault : LongInteger} :
    n.problems known = .error fault ↔ n.Overlong fault.digits := by
  refine Except.bind_eq_error.trans (.trans (or_iff_left ?_) Work.problems_error)
  rintro ⟨_, -, ⟨⟩⟩

theorem Definition.problems_eq_error {d : Definition} {fault : LongInteger} :
    d.problems = .error fault ↔ d.actions.mapM (Node.problems d.nodeIds) = .error fault :=
  Except.bind_eq_error.trans (or_iff_left nofun)

theorem Definition.exists_overlong {d : Definition} {fault : LongInteger}
    (h : d.problems = .error fault) : ∃ n ∈ d.actions, n.Overlong fault.digits := by
  obtain ⟨n, hn, hfault⟩ := Except.exists_of_mapM_error (Definition.problems_eq_error.mp h)
  exact ⟨n, hn, Node.problems_error.mp hfault⟩

theorem Definition.problems_of_overlong {d : Definition} {n : Node} {digits : Nat}
    (hn : n ∈ d.actions) (h : n.Overlong digits) : ∃ fault, d.problems = .error fault := by
  have hfault : n.problems d.nodeIds = .error ⟨digits⟩ := Node.problems_error.mpr h
  obtain ⟨fault, hnodes⟩ := Except.mapM_error_of_mem hn hfault
  exact ⟨fault, Definition.problems_eq_error.mpr hnodes⟩

/-- Look at a condition, and do nothing. -/
def Node.checking (condition : String) : Node where
  id := "check"
  work := .condition { condition, trueActions := [], falseActions := [] }

def Definition.checking (condition : String) : Definition where
  name := "Check"
  trigger := { kind := .manual }
  actions := [.checking condition]

theorem Definition.checking_wellFormed (condition : String) :
    (Definition.checking condition).WellFormed := by
  refine ⟨show 1 ≤ "Check".length by decide, show "Check".length ≤ 255 by decide, ?_, ?_⟩
  · rintro _ ⟨⟩
  · exact List.forall_mem_singleton.mpr ⟨show 1 ≤ "check".length by decide, trivial⟩

namespace Engine

variable {τ : Type} [ActiveTime τ] {e : Engine} {s s' : RunState τ} {start : Option String}
  {t : List Exchange} {result : Except Escape (RunResult τ)}

/-! ## Ends of runs -/

theorem walks_startedAt {r : Except Halt Unit} (h : e.Walks s start t r s') :
    s'.startedAt = s.startedAt := by
  obtain ⟨log, s'', hp, -, rfl⟩ := walks_passes h
  obtain ⟨_, _, _, _, _, _, rfl⟩ := hp.continues
  rfl

/-- Whatever a walk comes to, the segment is told. -/
theorem execute_told (hs : s.startedAt.offset = some 0) (h : (e.execute s start).Course t result) :
    ∃ told, result = .ok told := by
  obtain ⟨held, hgoes⟩ := execute_course.mp h
  cases hgoes with
  | finished hw hc =>
    obtain ⟨_, told, -, rfl, -⟩ := close_result (walks_startedAt hw ▸ hs) hc
    exact ⟨told, rfl⟩
  | failed hw _ hc =>
    obtain ⟨_, told, -, rfl, -⟩ := close_result (walks_startedAt hw ▸ hs) hc
    exact ⟨told, rfl⟩
  | suspended held hw hc =>
    obtain ⟨_, told, -, rfl, -⟩ := close_result (walks_startedAt hw ▸ hs) hc
    exact ⟨told, rfl⟩

variable {d : Definition} {event : Event} {runId : String}

theorem run_unjudged {fault : LongInteger} (hd : d.problems = .error fault)
    (h : (e.run d event runId).Course t result) : result = .error (.longInteger fault) := by
  obtain ⟨reading, t', rfl, hrest⟩ := Dialogue.course_ask.mp h
  simp only [hd] at hrest
  obtain ⟨-, rfl⟩ := Dialogue.course_done.mp hrest
  rfl

/-- A run of a definition with problems fails at once. -/
theorem run_refused {problems : List Problem} (hd : d.problems = .ok problems)
    (hne : problems ≠ []) (h : (e.run d event runId).Course t result) :
    ∃ told, result = .ok told ∧ told.status = .failed ∧ told.stepResults = [] ∧
      told.error = some (Definition.problemsMessage problems) ∧ ∀ x ∈ t, x.IsClock := by
  obtain ⟨reading, t', rfl, hrest⟩ := Dialogue.course_ask.mp h
  simp only [hd] at hrest
  split at hrest
  · rename_i heq
    cases heq
  · rename_i heq _
    exact absurd (Except.ok.inj heq) hne
  · rename_i heq _
    obtain rfl := Except.ok.inj heq
    obtain ⟨reading', told, rfl, rfl, -, hstatus, herror, hsteps⟩ :=
      close_result (s := e.opening d event runId reading) rfl hrest
    exact ⟨told, rfl, hstatus, hsteps, herror, by simp [Exchange.IsClock]⟩

theorem run_told {problems : List Problem} (hd : d.problems = .ok problems)
    (h : (e.run d event runId).Course t result) : ∃ told, result = .ok told := by
  cases problems with
  | nil =>
    obtain ⟨entry, hentry⟩ := Definition.Valid.sound hd |>.exists_entry
    rw [run_valid hd hentry] at h
    obtain ⟨reading, t', rfl, hrest⟩ := Dialogue.course_ask.mp h
    exact execute_told rfl hrest
  | cons problem problems =>
    obtain ⟨told, htold, -⟩ := run_refused hd (List.cons_ne_nil problem problems) h
    exact ⟨told, htold⟩

/-- In every world a run comes to an end. It is told how, unless the reading of a condition of its
definition comes to an integer of too many digits; then the fault comes out of the run. A run of a
definition with problems fails: it has no steps, and it asks for nothing but the clock. -/
theorem run_told_iff (e : Engine) (d : Definition) (event : Event) (runId : String) :
    (∀ w : World, ∃ (t : List Exchange) (result : Except Escape (RunResult τ)),
      w.Answers [] t ∧ (e.run d event runId).Course t result) ∧
    ∀ t (result : Except Escape (RunResult τ)), (e.run d event runId).Course t result →
      ((∃ told, result = .ok told) ↔ ∀ n ∈ d.actions, ∀ digits, ¬n.Overlong digits) ∧
      (∀ escape, result = .error escape → ∃ n ∈ d.actions, ∃ fault : LongInteger,
        n.Overlong fault.digits ∧ Number.digitLimit < fault.digits ∧
          escape = .longInteger fault) ∧
      ∀ problems, d.problems = .ok problems → problems ≠ [] → ∃ told, result = .ok told ∧
        told.status = .failed ∧ told.stepResults = [] ∧
        told.error = some (Definition.problemsMessage problems) ∧ ∀ x ∈ t, x.IsClock := by
  refine ⟨fun w => ⟨_, _, Dialogue.lived_answers w [] _, Dialogue.lived_course w [] _⟩,
    fun t result h => ⟨⟨?_, fun hnone => ?_⟩, ?_, fun problems hd hne => run_refused hd hne h⟩⟩
  · rintro ⟨told, rfl⟩ n hn digits hlong
    obtain ⟨fault, hd⟩ := Definition.problems_of_overlong hn hlong
    cases run_unjudged hd h
  · cases hd : d.problems with
    | ok problems => exact run_told hd h
    | error fault =>
      obtain ⟨n, hn, hlong⟩ := Definition.exists_overlong hd
      exact absurd hlong (hnone n hn fault.digits)
  · rintro escape rfl
    cases hd : d.problems with
    | ok problems =>
      obtain ⟨told, htold⟩ := run_told hd h
      cases htold
    | error fault =>
      obtain ⟨n, hn, hlong⟩ := Definition.exists_overlong hd
      exact ⟨n, hn, fault, hlong, hlong.limit_lt, Except.error.inj (run_unjudged hd h)⟩

/-- A definition that can be read, and a run of it that is not told. -/
theorem overlong_escapes :
    let d := Definition.checking (String.ofList (List.replicate 4301 '1'))
    Definition.codec.read d.wire = .ok d ∧
      (alone.run d .manual "run-1" : Dialogue (Except Escape (RunResult Float))).Course
        [⟨.clock, (0 : Nat)⟩] (.error (.longInteger ⟨4301⟩)) := by
  intro d
  have hproblems : d.problems = .error ⟨4301⟩ := by
    have hnode : (Node.checking (String.ofList (List.replicate 4301 '1'))).problems d.nodeIds
        = .error ⟨4301⟩ :=
      Node.problems_error.mpr ⟨_, rfl, Condition.read_ones (by decide)⟩
    rw [Definition.problems_eq_error, show d.actions = [.checking _] from rfl, List.mapM_cons, hnode]
    rfl
  refine ⟨(Definition.codec_restores (Definition.checking_wellFormed _)).read, ?_⟩
  unfold run
  rw [hproblems]
  exact .ask (r := .clock) (0 : Nat) (.done _)

end Engine

end Automation
