import Automation.Proofs.Store.Operations
import Mathlib.Data.List.Nodup
import Mathlib.Data.Rat.Cast.Order
import Mathlib.Tactic.FieldSimp
import Mathlib.Tactic.Ring

/-!
# The record of a workflow and its runs

Whatever is done to a store, the record of a workflow agrees with the rows of its runs: it counts
those that ended and were no tests, and its mean is their mean, as far as means are computed
exactly (`Store.Kept`). A run is counted once, for it is recorded at most once with an end.
-/

namespace Automation

variable {τ : Type}

/-! ## Exact means -/

/-- An arithmetic of means computes with exact numbers. -/
structure RunningMean.Computes [RunningMean τ] (value : τ → ℚ) : Prop where
  single (n : Int) : value (RunningMean.single n) = n
  push (mean : τ) (n count : Int) :
    value (RunningMean.push mean n count) = value mean + (n - value mean) / count

instance : RunningMean ℚ where
  single n := n
  push mean n count := mean + (n - mean) / count

theorem RunningMean.computes_id : RunningMean.Computes (id : ℚ → ℚ) :=
  ⟨fun _ => rfl, fun _ _ _ => rfl⟩

/-- What is pushed to a mean becomes part of it. -/
theorem push_eq_mean (sum n count : ℚ) (hcount : 0 < count) :
    sum / count + (n - sum / count) / (count + 1) = (sum + n) / (count + 1) := by
  have hne : count ≠ 0 := hcount.ne'
  have hsucc : count + 1 ≠ 0 := (add_pos hcount one_pos).ne'
  field_simp
  ring

/-! ## Runs that count -/

theorem RunStatus.name_injective : Function.Injective RunStatus.name := by
  intro a b h
  cases a <;> cases b <;> first | rfl | exact absurd h (by decide)

namespace RunRow

/-- A row of a run as it can be: only a run that has ended is completed, and it took some time. -/
def Lawful (r : RunRow) : Prop :=
  ∃ status : RunStatus, r.status = status.name ∧
    (r.completedAt = none ↔ status = .running ∨ status = .suspended) ∧
    (status = .success ∨ status = .failed → r.durationMs.isSome)

/-- A run of a workflow that has ended and was no test. -/
def CountsFor (r : RunRow) (workflowId : String) : Prop :=
  r.workflowId = workflowId ∧ r.isTest = false ∧
    (r.status = RunStatus.success.name ∨ r.status = RunStatus.failed.name)

/-- The runs of a workflow that ended with a status and were no tests. -/
def ended (runs : List RunRow) (workflowId : String) (status : RunStatus) : List RunRow :=
  runs.filter fun r => r.workflowId = workflowId ∧ r.isTest = false ∧ r.status = status.name

/-- How long the runs of a workflow took that ended and were no tests. -/
def durations (runs : List RunRow) (workflowId : String) : List Int :=
  (ended runs workflowId .success ++ ended runs workflowId .failed).filterMap (·.durationMs)

variable {x : RunRow} {runs runs' : List RunRow} {workflowId : String}

theorem ended_perm (h : runs.Perm runs') (workflowId : String) (status : RunStatus) :
    (ended runs workflowId status).Perm (ended runs' workflowId status) := h.filter _

theorem durations_perm (h : runs.Perm runs') (workflowId : String) :
    (durations runs workflowId).Perm (durations runs' workflowId) :=
  ((ended_perm h workflowId _).append (ended_perm h workflowId _)).filterMap _

theorem ended_cons_of_not (h : ¬ x.CountsFor workflowId) {status : RunStatus}
    (hstatus : status = .success ∨ status = .failed) :
    ended (x :: runs) workflowId status = ended runs workflowId status := by
  refine List.filter_cons_of_neg fun hx => h ?_
  obtain ⟨hworkflow, htest, hname⟩ := decide_eq_true_iff.mp hx
  obtain rfl | rfl := hstatus
  · exact ⟨hworkflow, htest, .inl hname⟩
  · exact ⟨hworkflow, htest, .inr hname⟩

theorem ended_cons (hworkflow : x.workflowId = workflowId) (htest : x.isTest = false)
    {of status : RunStatus} (hof : x.status = of.name) :
    ended (x :: runs) workflowId status
      = if of = status then x :: ended runs workflowId status else ended runs workflowId status := by
  unfold ended
  rw [List.filter_cons]
  simp only [hworkflow, htest, hof, RunStatus.name_injective.eq_iff, true_and, decide_eq_true_eq]

/-- An ended run adds its duration. -/
theorem durations_cons (hworkflow : x.workflowId = workflowId) (htest : x.isTest = false)
    {status : RunStatus} (hof : x.status = status.name)
    (hstatus : status = .success ∨ status = .failed) {n : Int} (hn : x.durationMs = some n) :
    (durations (x :: runs) workflowId).Perm (n :: durations runs workflowId) := by
  unfold durations
  rw [ended_cons hworkflow htest hof, ended_cons hworkflow htest hof]
  obtain rfl | rfl := hstatus
  · simp [hn]
  · simp only [List.filterMap_append, reduceCtorEq, if_true, if_false, hn, List.filterMap_cons]
    exact List.perm_middle

end RunRow

/-! ## Records that agree with the runs -/

namespace WorkflowRow

/-- The record of a workflow agrees with its runs. -/
structure Tallies [RunningMean τ] (r : WorkflowRow τ) (runs : List RunRow) : Prop where
  successful : r.successfulRuns = (RunRow.ended runs r.id .success).length
  failed : r.failedRuns = (RunRow.ended runs r.id .failed).length
  total : r.totalRuns = r.successfulRuns + r.failedRuns
  timed : r.totalRuns = (RunRow.durations runs r.id).length
  averageMs_eq_none : r.averageMs = none ↔ r.totalRuns = 0
  mean (value : τ → ℚ) (h : RunningMean.Computes value) : ∀ mean ∈ r.averageMs,
    value mean = (RunRow.durations runs r.id).sum / (RunRow.durations runs r.id).length

variable [RunningMean τ] {r r' : WorkflowRow τ} {runs runs' : List RunRow} {x : RunRow}

/-- Nobody has run a new workflow. -/
theorem Tallies.new (hrecord : r.record = {}) (hruns : ∀ x ∈ runs, x.workflowId ≠ r.id) :
    r.Tallies runs := by
  have hended (status : RunStatus) : RunRow.ended runs r.id status = [] :=
    List.filter_eq_nil_iff.mpr fun x hx h => hruns x hx (decide_eq_true_iff.mp h).1
  have hdurations : RunRow.durations runs r.id = [] := by
    unfold RunRow.durations
    rw [hended, hended]
    rfl
  obtain ⟨htotal, hsuccessful, hfailed, -, -, -, haverage, -⟩ := RunRecord.mk.inj hrecord
  refine ⟨?_, ?_, ?_, ?_, ?_, ?_⟩
  · rw [hsuccessful, hended]
    rfl
  · rw [hfailed, hended]
    rfl
  · rw [htotal, hsuccessful, hfailed]
    rfl
  · rw [htotal, hdurations]
    rfl
  · exact iff_of_true haverage htotal
  · rw [haverage]
    rintro _ _ _ ⟨⟩

theorem Tallies.congr (h : r.Tallies runs) (hid : r'.id = r.id) (htotal : r'.totalRuns = r.totalRuns)
    (hsuccessful : r'.successfulRuns = r.successfulRuns) (hfailed : r'.failedRuns = r.failedRuns)
    (haverage : r'.averageMs = r.averageMs) : r'.Tallies runs := by
  refine ⟨?_, ?_, ?_, ?_, ?_, ?_⟩ <;> simp only [hid, htotal, hsuccessful, hfailed, haverage]
  · exact h.successful
  · exact h.failed
  · exact h.total
  · exact h.timed
  · exact h.averageMs_eq_none
  · exact h.mean

theorem Tallies.perm (h : r.Tallies runs) (hp : runs.Perm runs') : r.Tallies runs' := by
  have hdurations := RunRow.durations_perm hp r.id
  refine ⟨?_, ?_, h.total, ?_, h.averageMs_eq_none, fun value hvalue mean hmean => ?_⟩
  · rw [← (RunRow.ended_perm hp r.id .success).length_eq]
    exact h.successful
  · rw [← (RunRow.ended_perm hp r.id .failed).length_eq]
    exact h.failed
  · rw [← hdurations.length_eq]
    exact h.timed
  · rw [← hdurations.length_eq, ← hdurations.sum_eq]
    exact h.mean value hvalue mean hmean

/-- Only the runs that count are told by a record. -/
theorem Tallies.of_ended (h : r.Tallies runs) (hended : ∀ status, status = .success ∨ status = .failed →
    RunRow.ended runs' r.id status = RunRow.ended runs r.id status) : r.Tallies runs' := by
  have hdurations : RunRow.durations runs' r.id = RunRow.durations runs r.id := by
    unfold RunRow.durations
    rw [hended _ (.inl rfl), hended _ (.inr rfl)]
  refine ⟨?_, ?_, h.total, ?_, h.averageMs_eq_none, ?_⟩
  · rw [hended _ (.inl rfl)]
    exact h.successful
  · rw [hended _ (.inr rfl)]
    exact h.failed
  · rw [hdurations]
    exact h.timed
  · rw [hdurations]
    exact h.mean

/-- What a record tells does not depend on the order in which the runs ended. -/
theorem Tallies.unordered (h : r.Tallies runs) (h' : r'.Tallies runs')
    (hsame : ∀ status, ((RunRow.ended runs r.id status).map (·.durationMs)).Perm
      ((RunRow.ended runs' r'.id status).map (·.durationMs))) :
    r'.totalRuns = r.totalRuns ∧ r'.successfulRuns = r.successfulRuns ∧
      r'.failedRuns = r.failedRuns ∧ ∀ value : τ → ℚ, RunningMean.Computes value →
        r'.averageMs.map value = r.averageMs.map value := by
  have hlength (status : RunStatus) : (RunRow.ended runs' r'.id status).length
      = (RunRow.ended runs r.id status).length := by
    simpa only [List.length_map] using (hsame status).length_eq.symm
  have hsuccessful : r'.successfulRuns = r.successfulRuns := by
    rw [h'.successful, h.successful, hlength]
  have hfailed : r'.failedRuns = r.failedRuns := by rw [h'.failed, h.failed, hlength]
  have htotal : r'.totalRuns = r.totalRuns := by rw [h'.total, h.total, hsuccessful, hfailed]
  refine ⟨htotal, hsuccessful, hfailed, fun value hvalue => ?_⟩
  have hdurations : (RunRow.durations runs r.id).Perm (RunRow.durations runs' r'.id) := by
    have hall := ((hsame .success).append (hsame .failed)).filterMap fun n => n
    rw [← List.map_append, ← List.map_append, List.filterMap_map, List.filterMap_map] at hall
    exact hall
  cases haverage : r.averageMs with
  | none =>
    have hzero : r'.totalRuns = 0 := htotal.trans (h.averageMs_eq_none.mp haverage)
    rw [h'.averageMs_eq_none.mpr hzero]
  | some mean =>
    cases haverage' : r'.averageMs with
    | none =>
      have hzero : r.totalRuns = 0 := htotal.symm.trans (h'.averageMs_eq_none.mp haverage')
      rw [h.averageMs_eq_none.mpr hzero] at haverage
      cases haverage
    | some mean' =>
      rw [Option.map_some, Option.map_some, h.mean value hvalue mean haverage,
        h'.mean value hvalue mean' haverage', hdurations.sum_eq, hdurations.length_eq]

/-- A run that does not count changes nothing. -/
theorem tallies_cons_of_not (h : ¬ x.CountsFor r.id) : r.Tallies (x :: runs) ↔ r.Tallies runs :=
  ⟨fun ht => ht.of_ended fun _ hstatus => (RunRow.ended_cons_of_not h hstatus).symm,
    fun ht => ht.of_ended fun _ hstatus => RunRow.ended_cons_of_not h hstatus⟩

/-- An ended run is counted. -/
theorem Tallies.count (h : r.Tallies runs) (hworkflow : x.workflowId = r.id)
    (htest : x.isTest = false) {result : RunResult τ} (hx : x.status = result.status.name)
    (hstatus : result.status = .success ∨ result.status = .failed)
    (hduration : x.durationMs = some result.durationMs) (now : Time.Stamp) :
    (r.count result now).Tallies (x :: runs) := by
  let durations := RunRow.durations runs r.id
  have hdurations : (RunRow.durations (x :: runs) (r.count result now).id).Perm
      (result.durationMs :: durations) := RunRow.durations_cons hworkflow htest hx hstatus hduration
  have hended (status : RunStatus) : RunRow.ended (x :: runs) (r.count result now).id status = _ :=
    RunRow.ended_cons hworkflow htest hx
  have htimed : r.totalRuns = durations.length := h.timed
  have htotal : (r.count result now).totalRuns = r.totalRuns + 1 := rfl
  have haverage : (r.count result now).averageMs = r.pushMean result.durationMs := rfl
  have hmore : r.totalRuns + 1 ≠ 0 := by omega
  refine ⟨?_, ?_, ?_, ?_, ?_, ?_⟩
  · rw [hended]
    have hsuccessful := h.successful
    obtain hsucceeded | hfailed := hstatus <;> simp [WorkflowRow.count, *]
  · rw [hended]
    have hfailures := h.failed
    obtain hsucceeded | hfailed := hstatus <;> simp [WorkflowRow.count, *]
  · have hsum := h.total
    unfold WorkflowRow.count
    dsimp only
    split <;> omega
  · rw [hdurations.length_eq, htotal, htimed]
    rfl
  · refine iff_of_false ?_ (htotal ▸ hmore)
    rw [haverage]
    unfold pushMean
    split
    · nofun
    · rw [if_neg hmore]
      nofun
  · intro value hvalue mean hmean
    rw [hdurations.length_eq, hdurations.sum_eq, List.sum_cons, List.length_cons]
    rw [haverage] at hmean
    unfold pushMean at hmean
    split at hmean
    · rename_i hnone
      obtain rfl := Option.some.inj hmean
      have hzero := h.averageMs_eq_none.mp hnone
      have hempty : durations = [] := List.length_eq_zero_iff.mp (by omega)
      rw [hempty, hvalue.single]
      simp
    · rename_i old hold
      rw [if_neg hmore] at hmean
      obtain rfl := Option.some.inj hmean
      have hne : r.totalRuns ≠ 0 := fun hzero => by
        rw [h.averageMs_eq_none.mpr hzero] at hold
        cases hold
      have hpositive : (0 : ℚ) < durations.length := Nat.cast_pos.mpr (by omega)
      have hpush := push_eq_mean durations.sum result.durationMs durations.length hpositive
      rw [hvalue.push, h.mean value hvalue old hold, htimed]
      rw [add_comm result.durationMs]
      simp only [Int.cast_add, Int.cast_natCast, Int.cast_one, Nat.cast_add, Nat.cast_one]
      exact hpush

end WorkflowRow

/-! ## Stores at all times -/

namespace Store

variable {s s' s'' : Store τ} {r r' r'' : WorkflowRow τ}

/-- A row of a workflow at a later time: its counters have not gone down. -/
structure Grows (r r' : WorkflowRow τ) : Prop where
  id : r'.id = r.id
  total : r.totalRuns ≤ r'.totalRuns
  successful : r.successfulRuns ≤ r'.successfulRuns
  failed : r.failedRuns ≤ r'.failedRuns

/-- A store at a later time: its workflows are those of before or new. -/
structure Succeeds (s s' : Store τ) : Prop where
  given : s.given ≤ s'.given
  workflows : ∀ r' ∈ s'.workflows, (∃ r ∈ s.workflows, Grows r r') ∨ ¬ s.Gave r'.id

theorem Grows.refl (r : WorkflowRow τ) : Grows r r := ⟨rfl, le_rfl, le_rfl, le_rfl⟩

theorem Grows.trans (h : Grows r r') (h' : Grows r' r'') : Grows r r'' :=
  ⟨h'.id.trans h.id, h.total.trans h'.total, h.successful.trans h'.successful,
    h.failed.trans h'.failed⟩

theorem Grows.count [RunningMean τ] (r : WorkflowRow τ) (told : RunResult τ) (now : Time.Stamp) :
    Grows r (r.count told now) := by
  unfold WorkflowRow.count
  refine ⟨rfl, ?_, ?_, ?_⟩ <;> dsimp only
  · omega
  · split <;> omega
  · split <;> omega

/-- A store with some of the rows of before. -/
theorem Succeeds.of_subset (hgiven : s.given ≤ s'.given) (h : s'.workflows ⊆ s.workflows) :
    s.Succeeds s' :=
  ⟨hgiven, fun r hr => .inl ⟨r, h hr, .refl r⟩⟩

theorem Succeeds.trans (h : s.Succeeds s') (h' : s'.Succeeds s'') : s.Succeeds s'' := by
  refine ⟨h.given.trans h'.given, fun r'' hr'' => ?_⟩
  rcases h'.workflows r'' hr'' with ⟨r', hr', hgrows'⟩ | hnew
  · rcases h.workflows r' hr' with ⟨r, hr, hgrows⟩ | hnew
    · exact .inl ⟨r, hr, hgrows.trans hgrows'⟩
    · exact .inr (hgrows'.id ▸ hnew)
  · exact .inr fun hgave => hnew (hgave.mono h.given)

theorem Succeeds.change {id : String} {f : WorkflowRow τ → WorkflowRow τ}
    (hf : ∀ r ∈ s.workflows, r.id = id → Grows r (f r)) : s.Succeeds (s.changeWorkflow id f) := by
  refine ⟨le_rfl, fun r' hr' => .inl ?_⟩
  obtain ⟨r, hr, rfl⟩ := List.mem_map.mp hr'
  refine ⟨r, hr, ?_⟩
  split
  · exact hf r hr ‹_›
  · exact .refl r

variable [RunningMean τ]

/-- What holds of a store at all times. -/
structure Kept (s : Store τ) : Prop where
  workflowIds : (s.workflows.map (·.id)).Nodup
  workflows : ∀ r ∈ s.workflows, s.Gave r.id ∧ r.Tallies s.runs
  runIds : (s.runs.map (·.id)).Nodup
  runs : ∀ r ∈ s.runs, s.Gave r.id ∧ s.Gave r.workflowId ∧ r.Lawful

/-- At a later time a workflow that is still stored has counted no fewer runs. -/
theorem Succeeds.grows (h : s.Succeeds s') (hs : s.Kept) (hr : r ∈ s.workflows)
    (hr' : r' ∈ s'.workflows) (hid : r'.id = r.id) : Grows r r' := by
  rcases h.workflows r' hr' with ⟨old, hold, hgrows⟩ | hnew
  · obtain rfl := List.inj_on_of_nodup_map hs.workflowIds hold hr (hgrows.id.symm.trans hid)
    exact hgrows
  · exact absurd (hid ▸ (hs.workflows r hr).1) hnew

theorem Kept.empty (hworkflows : s.workflows = []) (hruns : s.runs = []) : s.Kept := by
  refine ⟨?_, ?_, ?_, ?_⟩ <;> simp [hworkflows, hruns]

theorem Kept.idle (h : s.Kept) {given : Nat} (hgiven : s.given ≤ given) (outage : Option Outage) :
    ({ s with given, outage } : Store τ).Kept := by
  have hgave {id : String} (hid : s.Gave id) : ({ s with given, outage } : Store τ).Gave id :=
    hid.mono hgiven
  refine ⟨h.workflowIds, fun r hr => ?_, h.runIds, fun x hx => ?_⟩
  · obtain ⟨hid, htallies⟩ := h.workflows r hr
    exact ⟨hgave hid, htallies⟩
  · obtain ⟨hid, hworkflow, hlawful⟩ := h.runs x hx
    exact ⟨hgave hid, hgave hworkflow, hlawful⟩

/-- Rows are changed that keep their ids, and the workflows agree with the runs. -/
theorem Kept.map (h : s.Kept) (hgiven : s'.given = s.given) {f : WorkflowRow τ → WorkflowRow τ}
    (hworkflows : s'.workflows = s.workflows.map f) (hids : ∀ r ∈ s.workflows, (f r).id = r.id)
    (htallies : ∀ r ∈ s.workflows, (f r).Tallies s'.runs)
    (hrunIds : (s'.runs.map (·.id)).Perm (s.runs.map (·.id)))
    (hruns : ∀ x ∈ s'.runs, s.Gave x.id ∧ s.Gave x.workflowId ∧ x.Lawful) : s'.Kept := by
  have hgave {id : String} (hid : s.Gave id) : s'.Gave id := hid.mono hgiven.ge
  have hsame : s'.workflows.map (·.id) = s.workflows.map (·.id) := by
    rw [hworkflows, List.map_map]
    exact List.map_congr_left hids
  refine ⟨hsame ▸ h.workflowIds, fun r' hr' => ?_, hrunIds.nodup_iff.mpr h.runIds, fun x hx => ?_⟩
  · obtain ⟨r, hr, rfl⟩ := List.mem_map.mp (hworkflows ▸ hr')
    rw [hids r hr]
    exact ⟨hgave (h.workflows r hr).1, htallies r hr⟩
  · obtain ⟨hid, hworkflow, hlawful⟩ := hruns x hx
    exact ⟨hgave hid, hgave hworkflow, hlawful⟩

/-- No row is there under an id that was never given. -/
theorem Kept.fresh (h : s.Kept) {id : String} (hid : ¬ s.Gave id) :
    s.workflow? id = none ∧ s.run? id = none ∧ ∀ x ∈ s.runs, x.workflowId ≠ id := by
  refine ⟨List.find?_eq_none.mpr fun r hr hsame => ?_, List.find?_eq_none.mpr fun x hx hsame => ?_,
    fun x hx hsame => hid (hsame ▸ (h.runs x hx).2.1)⟩
  · exact hid (decide_eq_true_iff.mp hsame ▸ (h.workflows r hr).1)
  · exact hid (decide_eq_true_iff.mp hsame ▸ (h.runs x hx).1)

/-- What a tenant does to its workflows leaves the store as it has to be. -/
theorem Edit.kept {tenant : String} (he : Edit tenant s s') (h : s.Kept) :
    s'.Kept ∧ s.Succeeds s' := by
  cases he with
  | idle given outage hgiven =>
    exact ⟨h.idle hgiven outage, .of_subset hgiven fun _ hr => hr⟩
  | insert r outage hid hnew htenant hrecord hrunnable =>
    have hfresh : ¬ s.Gave r.id := hid ▸ not_gave (Nat.lt_succ_self _)
    have hidle := h.idle (Nat.le_succ s.given) outage
    refine ⟨⟨?_, fun r' hr' => ?_, hidle.runIds, hidle.runs⟩, Nat.le_succ _, fun r' hr' => ?_⟩
    · refine (List.map_append ..).symm ▸ List.nodup_append.mpr ⟨h.workflowIds,
        List.nodup_singleton _, fun a ha b hb => ?_⟩
      obtain ⟨old, hold, rfl⟩ := List.mem_map.mp ha
      obtain rfl := List.mem_singleton.mp hb
      intro (hsame : old.id = r.id)
      exact hfresh (hsame ▸ (h.workflows old hold).1)
    · rcases List.mem_append.mp hr' with hr' | hr'
      · exact hidle.workflows r' hr'
      · obtain rfl := List.mem_singleton.mp hr'
        exact ⟨⟨_, le_rfl, hid⟩, .new hrecord (h.fresh hfresh).2.2⟩
    · rcases List.mem_append.mp hr' with hr' | hr'
      · exact .inl ⟨r', hr', .refl r'⟩
      · obtain rfl := List.mem_singleton.mp hr'
        exact .inr hfresh
  | change r f outage hrow htenant hf =>
    have hcounters (r : WorkflowRow τ) : (f r).totalRuns = r.totalRuns ∧
        (f r).successfulRuns = r.successfulRuns ∧ (f r).failedRuns = r.failedRuns ∧
        (f r).averageMs = r.averageMs := by
      obtain ⟨htotal, hsuccessful, hfailed, -, -, -, haverage, -⟩ := RunRecord.mk.inj (hf.record r)
      exact ⟨htotal, hsuccessful, hfailed, haverage⟩
    constructor
    · refine h.map rfl rfl (fun r _ => ?_) (fun r hr => ?_) (.refl _) h.runs
      · split
        · exact hf.id r
        · rfl
      · split
        · obtain ⟨htotal, hsuccessful, hfailed, haverage⟩ := hcounters r
          exact (h.workflows r hr).2.congr (hf.id r) htotal hsuccessful hfailed haverage
        · exact (h.workflows r hr).2
    · have hsucceeds : s.Succeeds (s.changeWorkflow r.id f) := Succeeds.change fun r _ _ => by
        obtain ⟨htotal, hsuccessful, hfailed, -⟩ := hcounters r
        exact ⟨hf.id r, htotal.ge, hsuccessful.ge, hfailed.ge⟩
      exact ⟨hsucceeds.given, hsucceeds.workflows⟩
  | remove r outage hrow htenant =>
    have hsub : (s.removeWorkflow r.id).workflows.Sublist s.workflows := List.filter_sublist
    exact ⟨⟨h.workflowIds.sublist (hsub.map _), fun r' hr' => h.workflows r' (hsub.subset hr'),
      h.runIds, h.runs⟩, .of_subset le_rfl hsub.subset⟩

theorem Edits.kept {tenant : String} (he : Edits tenant s s') (h : s.Kept) :
    s'.Kept ∧ s.Succeeds s' := by
  induction he with
  | refl => exact ⟨h, .of_subset le_rfl fun _ hr => hr⟩
  | tail _ he ih =>
    obtain ⟨hkept, hsucceeds⟩ := ih
    obtain ⟨hkept', hsucceeds'⟩ := he.kept hkept
    exact ⟨hkept', hsucceeds.trans hsucceeds'⟩

/-! ### Runs that start and end -/

/-- A run that starts counts for nothing. -/
theorem Kept.insertRun (h : s.Kept) {x : RunRow} (hnew : s.run? x.id = none) (hgave : s.Gave x.id)
    (hworkflow : s.Gave x.workflowId) (hstatus : x.status = RunStatus.running.name)
    (hopen : x.completedAt = none) : (s.insertRun x).Kept := by
  have hcounts (workflowId : String) : ¬ x.CountsFor workflowId := by
    rintro ⟨-, -, hended⟩
    rw [hstatus] at hended
    revert hended
    decide
  refine ⟨h.workflowIds, fun r hr => ?_, ?_, fun y hy => ?_⟩
  · obtain ⟨hid, htallies⟩ := h.workflows r hr
    have hmore := (WorkflowRow.tallies_cons_of_not (hcounts r.id)).mpr htallies
    exact ⟨hid, hmore.perm (List.perm_append_singleton x s.runs).symm⟩
  · refine (List.map_append ..).symm ▸ List.nodup_append.mpr ⟨h.runIds, List.nodup_singleton _,
      fun a ha b hb => ?_⟩
    obtain ⟨y, hy, rfl⟩ := List.mem_map.mp ha
    obtain rfl := List.mem_singleton.mp hb
    simpa using List.find?_eq_none.mp hnew y hy
  · rcases List.mem_append.mp hy with hy | hy
    · exact h.runs y hy
    · obtain rfl := List.mem_singleton.mp hy
      exact ⟨hgave, hworkflow, .running, hstatus, iff_of_true hopen (.inl rfl),
        fun hended => hended.elim nofun nofun⟩

omit [RunningMean τ] in
/-- The run that is changed and the others. -/
theorem changeRun_perm (hids : (s.runs.map (·.id)).Nodup) {id : String} {x : RunRow}
    (hx : s.run? id = some x) (f : RunRow → RunRow) :
    ∃ rest, s.runs.Perm (x :: rest) ∧ (s.changeRun id f).runs.Perm (f x :: rest) := by
  obtain ⟨before, behind, hruns⟩ := List.append_of_mem (List.mem_of_find?_eq_some hx)
  obtain rfl := run?_id hx
  have hother : ∀ y ∈ before ++ behind, y.id ≠ x.id := by
    have hperm : (s.runs.map (·.id)).Perm (x.id :: (before ++ behind).map (·.id)) :=
      hruns ▸ List.perm_middle.map _
    intro y hy hsame
    exact (List.nodup_cons.mp (hperm.nodup_iff.mp hids)).1 (hsame ▸ List.mem_map_of_mem hy)
  have hsame (part : List RunRow) (hpart : part ⊆ before ++ behind) :
      part.map (fun y => if y.id = x.id then f y else y) = part :=
    (List.map_congr_left fun y hy => if_neg (hother y (hpart hy))).trans part.map_id
  refine ⟨before ++ behind, hruns ▸ List.perm_middle, ?_⟩
  have hchanged : (s.changeRun x.id f).runs = before ++ f x :: behind := by
    unfold changeRun
    dsimp only
    rw [hruns, List.map_append, List.map_cons, if_pos rfl, hsame before (by simp),
      hsame behind (by simp)]
  exact hchanged ▸ List.perm_middle

variable [ActiveTime τ]

/-- A run that has not ended before is counted when it ends, and only then. -/
theorem Kept.recorded (h : s.Kept) {d : Definition} {told : RunResult τ} {isTest : Bool}
    (now : Time.Stamp) {x : RunRow} (hx : s.run? told.runId = some x)
    (hcounts : Runs.countsFor d isTest = if isTest then none else some x.workflowId)
    (htest : x.isTest = isTest)
    (hopen : x.status = RunStatus.running.name ∨ x.status = RunStatus.suspended.name)
    (htold : told.status ≠ .running) :
    (Runs.recorded s d told isTest now).Kept ∧ s.Succeeds (Runs.recorded s d told isTest now) := by
  let y : RunRow := Runs.outcome x told now
  let s₁ : Store τ := s.changeRun told.runId fun x => Runs.outcome x told now
  obtain ⟨rest, hruns, hchanged⟩ := changeRun_perm h.runIds hx fun x => Runs.outcome x told now
  have hrest (r) (hr : r ∈ s.workflows) : r.Tallies rest := by
    refine (WorkflowRow.tallies_cons_of_not ?_).mp ((h.workflows r hr).2.perm hruns)
    rintro ⟨-, -, hended⟩
    obtain hopen | hopen := hopen <;> rw [hopen] at hended <;> revert hended <;> decide
  have hsame (r) (hr : r ∈ s.workflows) (hcounts : ¬ y.CountsFor r.id) : r.Tallies s₁.runs :=
    ((WorkflowRow.tallies_cons_of_not hcounts).mpr (hrest r hr)).perm hchanged.symm
  have hids : (s₁.runs.map (·.id)).Perm (s.runs.map (·.id)) := by
    have hback : ((y :: rest).map (·.id)).Perm (s.runs.map (·.id)) := (hruns.map (·.id)).symm
    exact (hchanged.map _).trans hback
  have hmem (z) (hz : z ∈ s₁.runs) : s.Gave z.id ∧ s.Gave z.workflowId ∧ z.Lawful := by
    rcases List.mem_cons.mp (hchanged.subset hz) with rfl | hz
    · obtain ⟨hid, hworkflow, -⟩ := h.runs x (List.mem_of_find?_eq_some hx)
      refine ⟨hid, hworkflow, told.status, rfl, ?_, fun _ => rfl⟩
      by_cases hsuspended : told.status = .suspended <;> simp [Runs.outcome, hsuspended, htold]
    · exact h.runs z (hruns.symm.subset (List.mem_cons_of_mem x hz))
  unfold Runs.recorded
  rw [hcounts]
  cases isTest with
  | true =>
    refine ⟨h.map rfl (List.map_id _).symm (fun _ _ => rfl) (fun r hr => hsame r hr ?_) hids hmem,
      .of_subset le_rfl fun _ hr => hr⟩
    rintro ⟨-, hnot, -⟩
    cases htest.symm.trans hnot
  | false =>
    constructor
    · refine h.map rfl rfl (fun r hr => ?_) (fun r hr => ?_) hids hmem
      · split
        · split <;> rfl
        · rfl
      · split
        · rename_i hid
          split
          · rename_i hsuspended
            have hnot : ¬ y.CountsFor r.id := by
              rintro ⟨-, -, hended⟩
              have hstatus : y.status = RunStatus.suspended.name :=
                congrArg RunStatus.name hsuspended
              rw [hstatus] at hended
              revert hended
              decide
            exact (hsame r hr hnot).congr rfl rfl rfl rfl rfl
          · rename_i hsuspended
            have hended : told.status = .success ∨ told.status = .failed := by
              cases hstatus : told.status <;> simp_all
            have hcounted : (r.count told now).Tallies (y :: rest) :=
              (hrest r hr).count (x := y) hid.symm htest rfl hended rfl now
            exact hcounted.perm hchanged.symm
        · rename_i hid
          exact hsame r hr fun hcounts => hid hcounts.1.symm
    · have hsucceeds : s.Succeeds (s.changeWorkflow x.workflowId fun r =>
          if told.status = .suspended then r.markRunning now else r.count told now) :=
        Succeeds.change fun r _ _ => by
          split
          · exact ⟨rfl, le_rfl, le_rfl, le_rfl⟩
          · exact .count r told now
      exact ⟨hsucceeds.given, hsucceeds.workflows⟩

end Store

end Automation
