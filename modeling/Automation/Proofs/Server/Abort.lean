import Automation.Proofs.Server.Service

/-!
# Aborted runs

Once a request to abort a run is accepted, no node of the run starts as long as its flag is kept and
in reach. Nothing but time takes the flag away before the run is over, but time does: a run that
waits for longer than the flag is kept goes on afterwards as if nobody had asked for its end.
-/

namespace Automation

namespace Server

section Starts

variable {τ : Type} [ActiveTime τ] {s s' : Server τ} {before behind : List (Task τ)} {t : Task τ}

/-- A task starts a node of its run in its turn. -/
def StartsNode (s : Server τ) (t : Task τ) : Prop :=
  ∃ (e : Engine) (origin : Dialogue (Except Escape (RunResult τ))) (history talk : List Exchange)
    (x : Exchange), t.CarriedOut e origin history ∧ talk ++ [x] <+: s.talkOf t ∧
      e.Starts t.runId origin (history ++ (talk ++ [x]))

/-- Before a node starts it was checked in the same turn whether the run was aborted. -/
theorem StartsNode.checked (h : s.StartsNode t) : ⟨.aborted t.runId, false⟩ ∈ s.talkOf t := by
  obtain ⟨e, origin, history, talk, x, ⟨hwatches, -, -⟩, hprefix, hstarts⟩ := h
  obtain ⟨asked, hasked, -⟩ := hstarts.checked hwatches
  rw [← List.append_assoc] at hasked
  obtain ⟨-, hx⟩ := List.append_inj' hasked rfl
  obtain rfl := List.singleton_inj.mp hx
  exact hprefix.subset (by simp)

variable [RunningMean τ]

/-- A task starts a node if it asks for something but the time after a check, and no flag is seen. -/
theorem startsNode_of_asks {first rest : List Request} (ht : t.UnderWay)
    (hasks : (s.talkOf t).map (·.request) = first ++ .aborted t.runId :: rest)
    (hrest : ∃ r ∈ rest, r ≠ .clock)
    (hflag : s.flags.isAborted t.runId (max s.elapsed t.wakesAt) = false) : s.StartsNode t := by
  obtain ⟨talk, checked, htalk, -, hchecked⟩ := List.map_eq_append_iff.mp hasks
  obtain ⟨⟨request, seen⟩, answered, rfl, hcheck, hanswered⟩ := List.map_eq_cons_iff.mp hchecked
  obtain rfl : request = .aborted t.runId := hcheck
  have hmem : ⟨.aborted t.runId, seen⟩ ∈ s.talkOf t := by simp [htalk]
  obtain rfl : seen = false := (talkOf_aborted hmem).trans hflag
  obtain ⟨e, origin, history, hcarried⟩ := ht
  obtain ⟨hwatches, hcarries, hreach⟩ := hcarried
  obtain ⟨more, result, hcourse⟩ := (s.turn_cases [] t []).2.1.course
  have hall := hreach.course hcourse
  have hsplit : history ++ (s.talkOf t ++ more)
      = (history ++ talk) ++ ⟨.aborted t.runId, false⟩ :: (answered ++ more) := by simp [htalk]
  rw [hsplit] at hall
  -- What is asked behind the check is asked by the visit of the node that has started.
  have hstarts := hcarries.starts_at hall <| by
    obtain ⟨r, hr, hclock⟩ := hrest
    obtain ⟨y, hy, rfl⟩ := List.mem_map.mp (hanswered ▸ hr)
    exact ⟨y, List.mem_append_left more hy, hclock⟩
  refine ⟨e, origin, history, talk, ⟨.aborted t.runId, false⟩, ⟨hwatches, hcarries, hreach⟩,
    ⟨answered, ?_⟩, ?_⟩
  · rw [htalk, List.append_assoc, List.singleton_append]
  · rwa [← List.append_assoc]

variable {s₀ : Server τ} {deeds : List Deed}

/-- On every trace, in whatever order the tasks have their turns: a task finds out that its run was
aborted if and only if a request was accepted less than a span ago and the flags are in reach. Then
no node of its run starts, and when it has found out, the run is over for good. -/
theorem aborted_run_stops (h₀ : s₀.Fresh) (h : s₀.Trace deeds s)
    (htasks : s.tasks = before ++ t :: behind) :
    t.UnderWay ∧
    (∀ since : Nat, .accepted t.runId since ∈ deeds → s.flags.reachable = true →
      ((max s.elapsed t.wakesAt : Nat) : Int) < since + s₀.flags.span → ¬s.StartsNode t) ∧
    (∀ x seen, ⟨.aborted x, seen⟩ ∈ s.talkOf t → x = t.runId ∧
      (seen = true ↔ s.flags.reachable = true ∧
        Requested deeds t.runId s₀.flags.span (max s.elapsed t.wakesAt))) ∧
    ∀ x, ⟨.aborted x, true⟩ ∈ s.talkOf t → ∀ more s',
      (s.turn before t behind).2.Trace more s' → t.runId ∉ s'.live := by
  have hkept := h.kept h₀
  have hchecked {x : String} {seen : Bool} (hx : ⟨.aborted x, seen⟩ ∈ s.talkOf t) :
      x = t.runId ∧ (seen = true ↔ s.flags.reachable = true ∧
        Requested deeds t.runId s₀.flags.span (max s.elapsed t.wakesAt)) := by
    rw [← h.span h₀]
    exact hkept.checked htasks hx
  refine ⟨hkept.tasks t (by rw [htasks]; simp), ?_, fun x seen => hchecked, ?_⟩
  · intro since haccepted hreach hspan hstarts
    obtain ⟨-, hseen⟩ := hchecked hstarts.checked
    cases hseen.mpr ⟨hreach, since, haccepted, hspan⟩
  · intro x hx more s' hmore
    have hturned := (h.step (.turn before t behind htasks)).trans hmore
    refine ((hturned.kept h₀).finished t.runId (max s.elapsed t.wakesAt) s.flags.reachable _ x ?_
      hx).2
    exact List.mem_append_left _ (List.mem_append_right _ (List.mem_singleton_self _))

end Starts

end Server

/-! ## A run that waits for days -/

/-- A definition of a branch in which the run waits for some days before it adds a note. -/
def Definition.noteAfter (days : Float) : Definition where
  id := some "workflow-1"
  tenantId := some "tenant-1"
  name := "Note"
  trigger := { kind := .manual }
  actions :=
    [{ id := "check"
       work := .condition { condition := "true", trueActions := ["wait"], falseActions := [] } },
     { id := "wait", nextAction := some "note", work := .delay { duration := days, unit := .days } },
     { id := "note", work := .action (.addNote { targetId := "lead-1", text := "Late" }) }]

namespace Server

/-- A server on which nothing has happened. -/
def idle : Server Float := { settings := { tokenSecret := "" }, origin := 0 }

/-- A run of the definition begins on an idle server. -/
def noteBegun (days : Float) : Server Float :=
  ((Service.spawn {} (.noteAfter days) .manual).run idle).2

/-- The run comes to its pause. -/
def notePausing (days : Float) : Server Float :=
  match (noteBegun days).tasks with
  | [] => noteBegun days
  | t :: behind => ((noteBegun days).turn [] t behind).2

/-- A request to abort the run is made meanwhile. -/
def noteAborted (days : Float) : Except Failed Bool × Server Float :=
  (Service.abortRun {} (idOf 1) "tenant-1").run (notePausing days)

section Note

variable (days : Float)

/-- All this is a trace on which the request is accepted at once, and the flags stay in reach. -/
theorem noteAborted_trace (haccepted : (noteAborted days).1.toOption = some true) :
    ∃ deeds, idle.Trace deeds (noteAborted days).2 ∧ .accepted (idOf 1) 0 ∈ deeds ∧
      ∀ id reading inReach talk, .talked id reading inReach talk ∈ deeds → inReach = true := by
  have hbegun : idle.Step [] (noteBegun days) := Service.spawn_step rfl _ _ _
  obtain ⟨t, htasks⟩ : ∃ t, (noteBegun days).tasks = [t] := ⟨_, rfl⟩
  have hwakes : (noteBegun days).tasks.map (·.wakesAt) = [0] := rfl
  have hpausing : notePausing days = ((noteBegun days).turn [] t []).2 := by
    rw [notePausing, htasks]
  have helapsed : (notePausing days).elapsed = 0 := by
    rw [htasks] at hwakes
    have hzero : t.wakesAt = 0 := List.singleton_inj.mp hwakes
    rw [hpausing, ((noteBegun days).turn_cases [] t []).2.2, hzero]
    rfl
  have hturn := Step.turn [] t [] htasks
  rw [← hpausing] at hturn
  have habort : (notePausing days).Step [.accepted (idOf 1) (notePausing days).elapsed]
      (noteAborted days).2 :=
    .abort {} (idOf 1) "tenant-1" (Prod.ext (Except.toOption_eq_some.mp haccepted) rfl)
  rw [helapsed] at habort
  refine ⟨_, (hbegun.trace.step hturn).step habort, by simp, ?_⟩
  intro id reading inReach talk hmem
  obtain ⟨-, -, hinReach, -⟩ : _ ∧ _ ∧ inReach = (noteBegun days).flags.reachable ∧ _ := by
    simpa using hmem
  exact hinReach

/-- The task of the run is alone on the server. -/
theorem noteAborted_task (wakesAt : Nat) (requests : List Request)
    (htask : (noteAborted days).2.tasks.map (fun t =>
        (t.runId, t.wakesAt, ((noteAborted days).2.talkOf t).map (·.request)))
      = [(idOf 1, wakesAt, requests)]) :
    ∃ t, (noteAborted days).2.tasks = [] ++ t :: [] ∧ t.runId = idOf 1 ∧ t.wakesAt = wakesAt ∧
      ((noteAborted days).2.talkOf t).map (·.request) = requests := by
  obtain ⟨t, ht, htask⟩ := List.map_eq_singleton_iff.mp htask
  obtain ⟨hrun, htask⟩ := Prod.mk.inj htask
  obtain ⟨hwakes, hrequests⟩ := Prod.mk.inj htask
  exact ⟨t, ht, hrun, hwakes, hrequests⟩

theorem idle_fresh : idle.Fresh := ⟨rfl, rfl, rfl⟩

end Note

/-- After a day the run finds out that it was aborted, and the note is not added. -/
theorem noteAfter_stops :
    let s := (noteAborted 1).2
    idle.Fresh ∧ ∃ (deeds : List Deed) (t : Task Float), idle.Trace deeds s ∧
      s.tasks = [] ++ t :: [] ∧ .accepted t.runId 0 ∈ deeds ∧ s.flags.reachable = true ∧
      max s.elapsed t.wakesAt = 86400000000 ∧ ¬s.StartsNode t ∧
      (s.talkOf t).map (·.request) = [.clock, .clock, .aborted t.runId, .clock] := by
  intro s
  obtain ⟨deeds, htrace, haccepted, -⟩ := noteAborted_trace 1 (by decide +kernel)
  obtain ⟨t, htasks, hrun, hwakes, hrequests⟩ := noteAborted_task 1 86400000000
    [.clock, .clock, .aborted (idOf 1), .clock] (by decide +kernel)
  have helapsed : s.elapsed = 0 := by decide +kernel
  have hreach : s.flags.reachable = true := by decide +kernel
  have hreading : max s.elapsed t.wakesAt = 86400000000 := by rw [helapsed, hwakes]; rfl
  have hspan : idle.flags.span = 604800000000 := by decide
  rw [← hrun] at haccepted hrequests
  refine ⟨idle_fresh, deeds, t, htrace, htasks, haccepted, hreach, hreading, ?_, hrequests⟩
  refine (aborted_run_stops idle_fresh htrace htasks).2.1 0 haccepted hreach ?_
  rw [hreading, hspan]
  decide

/-- After eight days the flag is gone, and the note is added. -/
theorem noteAfter_goes_on :
    let s := (noteAborted 8).2
    idle.Fresh ∧ idle.flags.span = 604800000000 ∧ ∃ (deeds : List Deed) (t : Task Float),
      idle.Trace deeds s ∧ s.tasks = [] ++ t :: [] ∧ .accepted t.runId 0 ∈ deeds ∧
      (∀ id reading inReach talk, .talked id reading inReach talk ∈ deeds → inReach = true) ∧
      s.flags.reachable = true ∧ max s.elapsed t.wakesAt = 691200000000 ∧ s.StartsNode t ∧
      (s.talkOf t).map (·.request) = [.clock, .clock, .aborted t.runId, .clock, .clock, .clock,
        .call (.addNote (.text "tenant-1") "lead-1" "Late" "id-1:note") 30.0] := by
  intro s
  obtain ⟨deeds, htrace, haccepted, hinReach⟩ := noteAborted_trace 8 (by decide +kernel)
  obtain ⟨t, htasks, hrun, hwakes, hrequests⟩ := noteAborted_task 8 691200000000
    [.clock, .clock, .aborted (idOf 1), .clock, .clock, .clock,
      .call (.addNote (.text "tenant-1") "lead-1" "Late" "id-1:note") 30.0] (by decide +kernel)
  have helapsed : s.elapsed = 0 := by decide +kernel
  have hreach : s.flags.reachable = true := by decide +kernel
  have hreading : max s.elapsed t.wakesAt = 691200000000 := by rw [helapsed, hwakes]; rfl
  have hgone : s.flags.isAborted (idOf 1) 691200000000 = false := by decide +kernel
  have hunderWay : t.UnderWay := (htrace.kept idle_fresh).tasks t (by rw [htasks]; simp)
  rw [← hrun] at haccepted hrequests hgone
  let rest : List Request := [.clock, .clock, .clock,
    .call (.addNote (.text "tenant-1") "lead-1" "Late" "id-1:note") 30.0]
  have hasks : (s.talkOf t).map (·.request) = [.clock, .clock] ++ .aborted t.runId :: rest :=
    hrequests
  have hstarts : s.StartsNode t :=
    startsNode_of_asks hunderWay hasks (by decide +kernel) (hreading ▸ hgone)
  exact ⟨idle_fresh, by decide, deeds, t, htrace, htasks, haccepted, hinReach, hreach, hreading,
    hstarts, hrequests⟩

end Server

end Automation
