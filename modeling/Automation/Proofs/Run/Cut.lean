import Automation.Proofs.Run.Lockstep
import Automation.Proofs.Run.Record

/-!
# Runs that are cut short

A run that is aborted at one of its checks, or that has fewer steps, does the same as one that is
not, up to where it stops. Both runs are followed side by side, in worlds that answer alike up to
that point.
-/

namespace Automation

variable {τ : Type} [ActiveTime τ] {e : Engine} {s s' : RunState τ} {t : List Exchange}

/-! ## Abort requests -/

/-- How often it is checked whether a run was aborted. -/
def Exchange.checks (t : List Exchange) : Nat :=
  t.countP fun x => match x.request with
    | .aborted _ => true
    | _ => false

/-- A world like another one, in which checks for abort requests are answered with no up to a number
of them, and with yes from then on. Without a number the answer is always no. -/
def World.abortingFrom (w : World) (number : Option Nat) : World
  | past, .aborted _ => number.any fun n => decide (n ≤ Exchange.checks past)
  | past, .clock => w past .clock
  | past, .sleep seconds => w past (.sleep seconds)
  | past, .call c timeout => w past (.call c timeout)

namespace Exchange

@[simp] theorem checks_append (t₁ t₂ : List Exchange) :
    checks (t₁ ++ t₂) = checks t₁ + checks t₂ := List.countP_append

theorem checks_eq_zero (h : ∀ runId seen, ⟨.aborted runId, seen⟩ ∉ t) : checks t = 0 := by
  refine List.countP_eq_zero.mpr fun x hx => ?_
  obtain ⟨request, answer⟩ := x
  cases request with
  | aborted runId => exact absurd hx (h runId answer)
  | _ => simp

theorem checks_clocks (h : ∀ x ∈ t, x.IsClock) : checks t = 0 :=
  checks_eq_zero fun runId seen hmem => by cases h _ hmem

end Exchange

/-- Up to the first yes nothing tells the two worlds apart. -/
theorem World.Answers.never {w : World} {n : Nat} {past : List Exchange}
    (h : (w.abortingFrom (some n)).Answers past t) (hno : ∀ runId, ⟨.aborted runId, true⟩ ∉ t) :
    (w.abortingFrom none).Answers past t := by
  induction t generalizing past with
  | nil => trivial
  | cons x t ih =>
    obtain ⟨hx, ht⟩ := h
    refine ⟨?_, ih ht fun runId hmem => hno runId (List.mem_cons_of_mem x hmem)⟩
    obtain ⟨request, answer⟩ := x
    cases request with
    | aborted runId =>
      cases answer with
      | true => exact absurd List.mem_cons_self (hno runId)
      | false => rfl
    | _ => exact hx

/-! ## Limits of steps -/

section Limited

variable {limit : Int} {v : Visit}

omit [ActiveTime τ]

theorem Visit.succeed_limited (input output : Entries Value) (attempts : Int) :
    (v.succeed (e.limited limit) input output attempts : Walk τ Unit)
      = v.succeed e input output attempts := rfl

theorem Visit.fail_limited (error errorKind : String) (input : Option (Entries Value))
    (attempts : Int) (fatal : Bool) :
    (v.fail (e.limited limit) error errorKind input attempts fatal : Walk τ Unit)
      = v.fail e error errorKind input attempts fatal := rfl

namespace Engine

theorem visitAction_limited (a : Action) :
    ((e.limited limit).visitAction v a : Walk τ Unit) = e.visitAction v a := by
  unfold visitAction
  simp only [Visit.succeed_limited, Visit.fail_limited]
  rfl

theorem visitBranch_limited (b : Branch) :
    ((e.limited limit).visitBranch v b : Walk τ (List String)) = e.visitBranch v b := by
  unfold visitBranch
  simp only [Visit.succeed_limited, Visit.fail_limited]

theorem visitLoop_limited (l : Loop) :
    ((e.limited limit).visitLoop v l : Walk τ (List (Entries Value))) = e.visitLoop v l := by
  unfold visitLoop
  simp only [Visit.succeed_limited, Visit.fail_limited]

theorem visitDelay_limited [ActiveTime τ] (d : Delay) (top : Bool) :
    ((e.limited limit).visitDelay v d top : Walk τ Unit) = e.visitDelay v d top := by
  unfold visitDelay
  simp only [Visit.succeed_limited]
  rfl

/-- The limit makes no difference to a visit. -/
theorem visit_limited [ActiveTime τ] (n : Node) (locals : Entries Value) (top : Bool) :
    ((e.limited limit).visit n locals top : Walk τ (List (String × Entries Value)))
      = e.visit n locals top := by
  unfold visit
  simp only [visitAction_limited, visitBranch_limited, visitLoop_limited, visitDelay_limited]

end Engine

end Limited

namespace Engine

/-! ## Passes that stop -/

/-- A halt that no visit came to leaves the state as it was. It came between two nodes, or before a
walk inside the walk. -/
theorem Does.before_visit {p : Pass τ} {halt : Halt} (h : e.Does p) (hr : p.result = .error halt)
    (hhalt : ¬halt.OfVisit) :
    p.after = p.before ∧ (Boundary e p.before p.exchanges (.error halt) ∨
      (p.exchanges = [] ∧ halt = .depthBudget e.maxDepth)) := by
  obtain ⟨errand, before, exchanges, result, after⟩ := p
  change result = _ at hr
  subst hr
  change (e.step errand).Course before exchanges (.error halt) after at h
  dsimp only
  cases step_cases h with
  | tooDeep => exact ⟨rfl, .inr ⟨rfl, rfl⟩⟩
  | missing => exact absurd trivial hhalt
  | stopped locals top hn hb => exact ⟨rfl, .inl hb⟩
  | halted hn hb hv => exact absurd (visit_halt hv) hhalt

/-- With a smaller limit a pass is the same, or the limit stops it. -/
theorem Does.unlimited {p : Pass τ} {limit : Int} (h : (e.limited limit).Does p)
    (hlimit : limit ≤ e.maxSteps) :
    e.Does p ∨ p.result = .error (.stepBudget limit) := by
  obtain ⟨errand, before, exchanges, result, after⟩ := p
  change ((e.limited limit).step errand).Course before exchanges result after at h
  change (e.step errand).Course before exchanges result after ∨ result = _
  have hpassed : ∀ {t : List Exchange} {r : Except Halt Unit},
      Boundary (e.limited limit) before t r → r ≠ .error (.stepBudget limit) →
      Boundary e before t r := by
    intro t r hb hne
    cases hb with
    | aborted hw => exact .aborted hw
    | stepBudget hs => exact absurd rfl hne
    | timeBudget reading hs ha => exact .timeBudget reading (Int.lt_of_lt_of_le hs hlimit) ha
    | passed reading hs ha => exact .passed reading (Int.lt_of_lt_of_le hs hlimit) ha
  -- The limit is only looked at by the check between two nodes.
  cases step_cases h with
  | tooDeep | entered | left | ended => exact .inl h
  | missing locals top hn => exact .inl (Steps.missing locals top hn).course
  | @stopped _ _ _ halt locals top hn hb =>
    by_cases hhalt : halt = .stepBudget limit
    · exact .inr (by rw [hhalt])
    · have hne : Except.error halt ≠ (.error (.stepBudget limit) : Except Halt Unit) := by
        rintro ⟨⟩
        exact hhalt rfl
      exact .inl (Steps.stopped locals top hn (hpassed hb hne)).course
  | halted hn hb hv =>
    rw [visit_limited] at hv
    exact .inl (Steps.halted hn (hpassed hb nofun) hv).course
  | visited hn hb hv =>
    rw [visit_limited] at hv
    exact .inl (Steps.visited hn (hpassed hb nofun) hv).course

omit [ActiveTime τ] in
theorem asked_checks (hw : e.watchesAborts = true) : Exchange.checks (e.asked s) = 1 := by
  rw [asked, if_pos hw]
  rfl

/-- A pass that goes on checks for abort requests once if it visits a node, and else not at all. -/
theorem Does.checks {p : Pass τ} (h : e.Does p) (hw : e.watchesAborts = true)
    (hgo : GoesOn p.result) :
    p.after.stepsVisited = p.before.stepsVisited + Exchange.checks p.exchanges ∧
      (Exchange.checks p.exchanges = 0 ∨
        Exchange.checks p.exchanges = 1 ∧
          ∃ rest, p.exchanges = ⟨.aborted p.before.runId, false⟩ :: rest) := by
  obtain ⟨errand, before, exchanges, result, after⟩ := p
  change (e.step errand).Course before exchanges result after at h
  change GoesOn result at hgo
  dsimp only
  cases step_cases h with
  | tooDeep | entered | left | ended => exact ⟨(Int.add_zero _).symm, .inl rfl⟩
  | missing => exact hgo.elim
  | stopped locals top hn hb => cases hb <;> exact hgo.elim
  | @halted _ _ _ _ t₁ t₂ _ _ hn hb hv | @visited _ _ _ _ t₁ t₂ _ _ hn hb hv =>
    have hvisit : Exchange.checks t₂ = 0 :=
      Exchange.checks_eq_zero fun runId seen hmem => visit_asks hv _ hmem
    cases hb with
    | passed reading hs ha =>
      have hone : Exchange.checks (e.asked before ++ [⟨.clock, reading⟩] ++ t₂) = 1 := by
        rw [Exchange.checks_append, Exchange.checks_append, asked_checks hw, hvisit]
        rfl
      rw [hone]
      refine ⟨(visit_depth hv).2, .inr ⟨rfl, [⟨.clock, reading⟩] ++ t₂, ?_⟩⟩
      rw [asked, if_pos hw]
      rfl

/-! ## Cutting a run short -/

variable {w : World} {n : Nat}

/-! ### By abort requests -/

/-- The run and the checks so far, as long as none was answered with yes. -/
def Unaborted (e : Engine) (runId : String) (n : Nat) (past : List Exchange) (s : RunState τ) :
    Prop :=
  s.runId = runId ∧ (e.watchesAborts = true →
    s.stepsVisited = Exchange.checks past ∧ Exchange.checks past ≤ n)

theorem aborting_step {runId : String} {past : List Exchange} {p p' : Pass τ}
    (hi : e.Unaborted runId n past p.before) (h : e.Does p) (h' : e.Does p')
    (herrand : p'.errand = p.errand) (hbefore : p'.before = p.before)
    (hw : (w.abortingFrom none).Answers past p.exchanges)
    (hw' : (w.abortingFrom (some n)).Answers past p'.exchanges) :
    (p' = p ∧ (GoesOn p.result → e.Unaborted runId n (past ++ p.exchanges) p.after)) ∨
      p'.Stopped (.aborted runId) n := by
  obtain ⟨hrun, hchecks⟩ := hi
  by_cases hyes : ∃ x, ⟨.aborted x, true⟩ ∈ p'.exchanges
  · obtain ⟨x, hx⟩ := hyes
    obtain ⟨rfl, hall⟩ := h'.aborted_mem hx
    obtain ⟨hexchanges, hr⟩ := hall rfl
    rw [hbefore, hrun] at hexchanges hr
    obtain ⟨hafter, hb | ⟨hnil, -⟩⟩ := h'.before_visit hr id
    · have hwatches : e.watchesAborts = true := by
        generalize p'.exchanges = t at hb
        cases hb with
        | aborted hw => exact hw
      obtain ⟨hvisited, hle⟩ := hchecks hwatches
      rw [hexchanges] at hw'
      have hge : n ≤ Exchange.checks past := of_decide_eq_true hw'.1.symm
      refine .inr ⟨hr, hafter, ?_, ?_⟩
      · rw [hbefore, hvisited]
        omega
      · exact List.filterMap_eq_nil_iff.mpr hb.call?
    · rw [hexchanges] at hnil
      cases hnil
  · obtain rfl := h.unique h' herrand hbefore hw (hw'.never fun x hx => hyes ⟨x, hx⟩)
    refine .inl ⟨rfl, fun hgo => ⟨?_, fun hwatches => ?_⟩⟩
    · obtain ⟨_, _, _, _, _, _, hafter⟩ := step_continues h
      rw [hafter]
      exact hrun
    · obtain ⟨hvisited, hle⟩ := hchecks hwatches
      obtain ⟨hafter, hcount⟩ := h.checks hwatches hgo
      rw [Exchange.checks_append]
      refine ⟨by omega, ?_⟩
      rcases hcount with hzero | ⟨hone, rest, hexchanges⟩
      · omega
      · rw [hexchanges] at hw'
        have hlt : ¬n ≤ Exchange.checks past := of_decide_eq_false hw'.1.symm
        omega

theorem aborting_lockstep (w : World) (n : Nat) (runId : String) :
    e.Lockstep e.maxSteps (w.abortingFrom none) (w.abortingFrom (some n)) (.aborted runId) n
      (e.Unaborted (τ := τ) runId n) where
  clock _ := rfl
  step _ _ _ hi h h' := aborting_step hi h h'
  never past p h hw hr := by
    obtain ⟨-, hb | ⟨-, hdepth⟩⟩ := h.before_visit hr id
    · generalize hexchanges : p.exchanges = t at hb hw
      cases hb with
      | aborted hwatches =>
        have hno : true = false := hw.1
        cases hno
    · cases hdepth
  ends := nofun
  resumed past s clocks suspended woken hi hclocks := by
    refine ⟨hi.1, fun hwatches => ?_⟩
    rw [Exchange.checks_append, Exchange.checks_clocks hclocks]
    exact hi.2 hwatches

/-! ### By the step budget -/

theorem limited_step {past : List Exchange} {p p' : Pass τ} (hn : n < e.maxSteps)
    (hi : p.before.stepsVisited ≤ n) (h : e.Does p) (h' : (e.limited n).Does p')
    (herrand : p'.errand = p.errand) (hbefore : p'.before = p.before)
    (hw : w.Answers past p.exchanges) (hw' : w.Answers past p'.exchanges) :
    (p' = p ∧ (GoesOn p.result → p.after.stepsVisited ≤ n)) ∨ p'.Stopped (.stepBudget n) n := by
  rcases h'.unlimited (Int.le_of_lt hn) with hsame | hr
  · obtain rfl := h.unique hsame herrand hbefore hw hw'
    refine .inl ⟨rfl, fun _ => ?_⟩
    rcases h'.visits_cases with ⟨hstarts, hlt, -⟩ | ⟨-, hkept, -⟩
    · have hvisited : p'.after.stepsVisited = p'.before.stepsVisited + 1 := hstarts
      have hbudget : p'.before.stepsVisited < n := hlt
      omega
    · omega
  · obtain ⟨hafter, hb | ⟨-, hdepth⟩⟩ := h'.before_visit hr id
    · refine .inr ⟨hr, hafter, ?_, List.filterMap_eq_nil_iff.mpr hb.call?⟩
      have hge : (n : Int) ≤ p'.before.stepsVisited := by
        generalize p'.exchanges = t at hb
        generalize hhalt : Halt.stepBudget n = halt at hb
        cases hb with
        | stepBudget hs => exact hs
        | aborted hw => cases hhalt
        | timeBudget reading hs ha => cases hhalt
      rw [hbefore] at hge ⊢
      omega
    · cases hdepth

theorem limited_lockstep (w : World) (hn : n < e.maxSteps) :
    e.Lockstep n w w (.stepBudget n) n (fun _ (s : RunState τ) => s.stepsVisited ≤ n) where
  clock _ := rfl
  step _ _ _ hi h h' := limited_step hn hi h h'
  never past p h hw hr := by
    obtain ⟨-, hb | ⟨-, hdepth⟩⟩ := h.before_visit hr id
    · generalize p.exchanges = t at hb
      generalize hhalt : Halt.stepBudget n = halt at hb
      cases hb with
      | stepBudget hs =>
        obtain hlimit := Halt.stepBudget.inj hhalt
        omega
      | aborted hw => cases hhalt
      | timeBudget reading hs ha => cases hhalt
    · cases hdepth
  ends := nofun
  resumed _ _ _ _ _ hi _ := hi

/-! ### Runs of definitions -/

/-- A run that is aborted at one of its checks, and a run with fewer steps, do what the run does that
is not aborted or has more steps, up to where they stop: their calls and their steps come first among
its calls and steps. If they stop there, they have visited as many nodes as there were checks before
or as they had steps. If they do not, they ask and come to the same. This holds in every world, with
any number of resumes. -/
theorem run_cut_short [ActiveTime.Storable τ] {σ : Type} [Schema.Source σ] {x y : σ}
    {d : Definition} {event : Event} {runId : String} (hd : Definition.codec.read x = .ok d)
    (hvalid : d.Valid) (hevent : Event.codec.read y = .ok event) (w : World) (resumes n : Nat) :
    (let full : _ × List (Except Escape (RunResult τ)) :=
        e.lifetime (w.abortingFrom none) resumes d event runId
      let cut := e.lifetime (w.abortingFrom (some n)) resumes d event runId
      e.OnCalendar full.1 → e.OnCalendar cut.1 →
        e.CutsShort d event runId (.aborted runId) n full cut) ∧
    (let full : _ × List (Except Escape (RunResult τ)) := e.lifetime w resumes d event runId
      let cut := (e.limited n).lifetime w resumes d event runId
      n < e.maxSteps → e.OnCalendar full.1 → e.OnCalendar cut.1 →
        (e.limited n).CutsShort d event runId (.stepBudget n) n full cut) := by
  have hwell := Definition.codec_ensures.of_read x d hd
  have hstorable := Event.codec_ensures.of_read y event hevent
  constructor
  · intro full cut ht ht'
    exact (aborting_lockstep w n runId).cutsShort hwell hvalid hstorable
      (fun _ => ⟨rfl, fun _ => ⟨rfl, Nat.zero_le n⟩⟩) ht ht'
  · intro full cut hn ht ht'
    exact (limited_lockstep w hn).cutsShort hwell hvalid hstorable
      (fun _ => Int.natCast_nonneg n) ht ht'

/-- A loop over one person, cut short after one visit. -/
theorem notesOn_cut_short :
    let e : Engine := { alone with watchesAborts := true }
    let d := Definition.notesOn "people"
    let w : World := fun _ => Dialogue.granting
    let full : _ × List (Except Escape (RunResult Float)) :=
      e.lifetime (w.abortingFrom none) 1 d .personAndFirm "run-1"
    let aborted : _ × List (Except Escape (RunResult Float)) :=
      e.lifetime (w.abortingFrom (some 1)) 1 d .personAndFirm "run-1"
    let limited : _ × List (Except Escape (RunResult Float)) :=
      (e.limited 1).lifetime (w.abortingFrom none) 1 d .personAndFirm "run-1"
    Definition.codec.read (Definition.codec.write .wire d) = .ok d ∧ d.Valid ∧
      Event.codec.read (Event.codec.write .wire .personAndFirm) = .ok .personAndFirm ∧
      (1 : Nat) < e.maxSteps ∧ e.OnCalendar full.1 ∧ e.OnCalendar aborted.1 ∧
      e.OnCalendar limited.1 ∧
      (lastSteps full.2).map (·.nodeId) = ["each", "note"] ∧
      (lastSteps aborted.2).map (·.nodeId) = ["each"] ∧
      (lastSteps limited.2).map (·.nodeId) = ["each"] ∧
      e.CutsShort d .personAndFirm "run-1" (.aborted "run-1") 1 full aborted ∧
      (e.limited 1).CutsShort d .personAndFirm "run-1" (.stepBudget 1) 1 full limited := by
  intro e d w full aborted limited
  have hread : Definition.codec.read (Definition.codec.write .wire d) = .ok d :=
    (Definition.codec_restores (Definition.notesOn_wellFormed "people")).read
  have hvalid : d.Valid := by decide +kernel
  have hevent : Event.codec.read (Event.codec.write .wire .personAndFirm) = .ok .personAndFirm :=
    (Event.codec_restores (by rintro _ ⟨⟩)).read
  have hcalendar {number : Option Nat} {past t : List Exchange}
      (h : (w.abortingFrom number).Answers past t) : e.OnCalendar t :=
    .of_answers 0 (fun _ => rfl) (by decide) h
  have hfull : e.OnCalendar full.1 := hcalendar (lives_answers _ _ _ _)
  have haborted : e.OnCalendar aborted.1 := hcalendar (lives_answers _ _ _ _)
  have hlimited : e.OnCalendar limited.1 := hcalendar (lives_answers (e := e.limited 1) _ _ _ _)
  exact ⟨hread, hvalid, hevent, by decide, hfull, haborted, hlimited, by decide +kernel,
    by decide +kernel, by decide +kernel,
    (run_cut_short hread hvalid hevent w 1 1).1 hfull haborted,
    (run_cut_short hread hvalid hevent (w.abortingFrom none) 1 1).2 (by decide) hfull hlimited⟩

end Engine

end Automation
