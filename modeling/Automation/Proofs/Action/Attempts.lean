import Automation.Proofs.Run.Course

/-!
# Attempts at an action

What happens when an action is done is a list of attempts with pauses between them. All but the last
have failed transiently, and the last decides: it did not, or there are no more. What an action comes
to and how often it was attempted follow from this list (`Action.perform_course`).
-/

namespace Automation

variable {policy : RetryPolicy} {t : List Exchange}

/-! ## One attempt -/

/-- An attempt: what is said in it, and what it comes to. -/
structure Trial where
  exchanges : List Exchange
  result : Except Fault (Entries Value)

/-- An attempt that another one may follow. -/
def Trial.IsTransient (x : Trial) : Prop :=
  ∃ fault, x.result = .error fault ∧ fault.isTransient = true

/-- What an attempt comes to by the answer to its call. One that takes too long fails transiently. -/
def Action.resultOf (a : Action) (timeout : Float) (plan : Plan) :
    Option Answer → Except Fault (Entries Value)
  | none =>
    .error (.transient a.kind.name s!"timed out after {Number.displayStyle.write timeout}s")
  | some (.fault (.failure f)) => .error (.failure (plan.retag f))
  | some (.fault (.defect d)) => .error (.defect d)
  | some (.reply reply) => plan.finish reply

/-- How an attempt at an action can go. It begins with a reading of the clock, and it makes the call
that is planned at that moment, if one is. -/
inductive Action.Attempted (a : Action) (nodeId : String) (c : Context) (places : Places)
    (origin : Int) (timeout : Float) : Trial → Prop where
  | refused {reading : Nat} {fault : Fault}
      (h : a.plan nodeId c places (stampAt origin reading) = .error fault) :
      Attempted a nodeId c places origin timeout ⟨[⟨.clock, reading⟩], .error fault⟩
  | called {reading : Nat} {plan : Plan} (answer : Option Answer)
      (h : a.plan nodeId c places (stampAt origin reading) = .ok plan) :
      Attempted a nodeId c places origin timeout
        ⟨[⟨.clock, reading⟩, ⟨.call plan.call timeout, answer⟩], a.resultOf timeout plan answer⟩

/-- The readings of the clock among some exchanges. -/
def Exchange.readings (t : List Exchange) : Nat :=
  t.countP fun x => match x.request with
    | .clock => true
    | _ => false

@[simp] theorem Exchange.readings_append (t₁ t₂ : List Exchange) :
    readings (t₁ ++ t₂) = readings t₁ + readings t₂ := List.countP_append

@[simp] theorem Exchange.readings_sleep (seconds : Float) (waited : Except String Unit)
    (t : List Exchange) : readings (⟨.sleep seconds, waited⟩ :: t) = readings t :=
  List.countP_cons_of_neg (by simp)

section Attempted

variable {a : Action} {nodeId : String} {c : Context} {places : Places} {origin : Int}
  {timeout : Float} {x : Trial}

/-- An attempt takes a look at the clock, and then it makes the call that it plans. -/
theorem Action.attempt_eq : a.attempt nodeId c places origin timeout =
    .ask .clock fun reading => match a.plan nodeId c places (stampAt origin reading) with
      | .error fault => .done (.error fault)
      | .ok plan => .ask (.call plan.call timeout) fun answer =>
        .done (a.resultOf timeout plan answer) := by
  unfold attempt
  change Dialogue.ask _ _ = _
  congr 1
  funext reading
  change (match a.plan nodeId c places (stampAt origin reading) with
    | .error fault => _
    | .ok plan => _) = _
  cases a.plan nodeId c places (stampAt origin reading) with
  | error fault => rfl
  | ok plan =>
    change Dialogue.ask _ _ = _
    congr 1
    funext answer
    match answer with
    | none | some (.fault (.failure f)) | some (.fault (.defect d)) | some (.reply reply) => rfl

theorem Action.attempt_course {r : Except Fault (Entries Value)} :
    (a.attempt nodeId c places origin timeout).Course t r ↔
      a.Attempted nodeId c places origin timeout ⟨t, r⟩ := by
  rw [attempt_eq, Dialogue.course_ask]
  constructor
  · rintro ⟨reading, t', rfl, hrest⟩
    cases hplan : a.plan nodeId c places (stampAt origin reading) with
    | error fault =>
      rw [hplan] at hrest
      obtain ⟨rfl, rfl⟩ := Dialogue.course_done.mp hrest
      exact .refused hplan
    | ok plan =>
      rw [hplan] at hrest
      obtain ⟨answer, t₂, rfl, hdone⟩ := Dialogue.course_ask.mp hrest
      obtain ⟨rfl, rfl⟩ := Dialogue.course_done.mp hdone
      exact .called answer hplan
  · intro h
    cases h with
    | @refused reading fault hplan =>
      refine ⟨reading, [], rfl, ?_⟩
      rw [hplan]
      exact .done _
    | @called reading plan answer hplan =>
      refine ⟨reading, _, rfl, ?_⟩
      rw [hplan]
      exact Dialogue.course_ask.mpr ⟨answer, [], rfl, .done _⟩

/-- The clock is read once in an attempt. -/
theorem Action.Attempted.readings (h : a.Attempted nodeId c places origin timeout x) :
    Exchange.readings x.exchanges = 1 := by
  cases h <;> rfl

end Attempted

/-! ## Attempts and pauses -/

/-- What is said in some attempts, from the attempt of a number on, each with the pause after it. -/
def RetryPolicy.waits (p : RetryPolicy) : Nat → List Trial → List Exchange
  | _, [] => []
  | number, x :: rest =>
    x.exchanges ++ ⟨.sleep (p.pause number), .ok ()⟩ :: p.waits (number + 1) rest

/-- How attempts can go, of which so many may follow the first and the first has a number: some that
fail transiently, each with a pause after it, and a last one. The last one decides, or the pause after
it breaks off. -/
inductive RetryPolicy.Tried (p : RetryPolicy) (one : Trial → Prop) (more number : Nat)
    (before : List Trial) (last : Trial) : List Exchange → Except Fault (Entries Value) → Prop where
  | decided (hbefore : ∀ x ∈ before, one x ∧ x.IsTransient) (hlast : one last)
      (hmore : before.length ≤ more) (hend : last.IsTransient → before.length = more) :
      Tried p one more number before last (p.waits number before ++ last.exchanges) last.result
  | brokenOff (message : String) (hbefore : ∀ x ∈ before, one x ∧ x.IsTransient)
      (hlast : one last) (hmore : before.length < more) (hend : last.IsTransient) :
      Tried p one more number before last
        (p.waits number before ++ (last.exchanges ++
          [⟨.sleep (p.pause (number + before.length)), .error message⟩]))
        (.error (.defect (.broken message)))

section Tried

variable {one : Trial → Prop} {more number : Nat} {before : List Trial} {first last : Trial}
  {r : Except Fault (Entries Value)}

/-- A last attempt with none before it. -/
theorem RetryPolicy.tried_nil : policy.Tried one more number [] last t r ↔ one last ∧
    ((last.IsTransient → more = 0) ∧ t = last.exchanges ∧ r = last.result ∨
      0 < more ∧ last.IsTransient ∧ ∃ message,
        t = last.exchanges ++ [⟨.sleep (policy.pause number), .error message⟩] ∧
          r = .error (.defect (.broken message))) := by
  constructor
  · rintro (⟨-, hlast, -, hend⟩ | ⟨message, -, hlast, hmore, hend⟩)
    · exact ⟨hlast, .inl ⟨fun h => (hend h).symm, rfl, rfl⟩⟩
    · exact ⟨hlast, .inr ⟨hmore, hend, message, rfl, rfl⟩⟩
  · rintro ⟨hlast, ⟨hend, rfl, rfl⟩ | ⟨hmore, hend, message, rfl, rfl⟩⟩
    · exact .decided (List.forall_mem_nil _) hlast (Nat.zero_le _) fun h => (hend h).symm
    · exact .brokenOff message (List.forall_mem_nil _) hlast hmore hend

/-- One more attempt before others. -/
theorem RetryPolicy.tried_cons :
    policy.Tried one (more + 1) number (first :: before) last t r ↔
      one first ∧ first.IsTransient ∧
        ∃ t', t = first.exchanges ++ ⟨.sleep (policy.pause number), .ok ()⟩ :: t' ∧
          policy.Tried one more (number + 1) before last t' r := by
  have hnumber : number + 1 + before.length = number + (first :: before).length := by
    rw [List.length_cons]
    omega
  constructor
  · rintro (⟨hbefore, hlast, hmore, hend⟩ | ⟨message, hbefore, hlast, hmore, hend⟩) <;>
      obtain ⟨⟨hfirst, htransient⟩, hrest⟩ := List.forall_mem_cons.mp hbefore
    · refine ⟨hfirst, htransient, _, List.append_assoc _ _ _, .decided hrest hlast ?_ fun h => ?_⟩
      · exact Nat.le_of_succ_le_succ hmore
      · exact Nat.succ.inj (hend h)
    · refine ⟨hfirst, htransient, _, List.append_assoc _ _ _, ?_⟩
      rw [← hnumber]
      exact .brokenOff message hrest hlast (Nat.lt_of_succ_lt_succ hmore) hend
  · rintro ⟨hfirst, htransient, t', rfl, ⟨hrest, hlast, hmore, hend⟩ |
      ⟨message, hrest, hlast, hmore, hend⟩⟩ <;>
      have hbefore := List.forall_mem_cons.mpr ⟨⟨hfirst, htransient⟩, hrest⟩ <;>
      rw [← List.cons_append, ← List.append_assoc]
    · exact .decided hbefore hlast (Nat.succ_le_succ hmore) fun h => congrArg (· + 1) (hend h)
    · rw [hnumber]
      exact .brokenOff message hbefore hlast (Nat.succ_lt_succ hmore) hend

/-- Where the clock is read once in an attempt, its readings count the attempts. -/
theorem RetryPolicy.Tried.readings (hone : ∀ x, one x → Exchange.readings x.exchanges = 1)
    (h : policy.Tried one more number before last t r) :
    Exchange.readings t = before.length + 1 := by
  have hwaits (hbefore : ∀ x ∈ before, one x ∧ x.IsTransient) :
      Exchange.readings (policy.waits number before) = before.length := by
    clear h
    induction before generalizing number with
    | nil => rfl
    | cons x rest ih =>
      obtain ⟨⟨hx, -⟩, hrest⟩ := List.forall_mem_cons.mp hbefore
      rw [waits, Exchange.readings_append, hone x hx, Exchange.readings_sleep, ih hrest,
        List.length_cons]
      omega
  cases h with
  | decided hbefore hlast hmore hend =>
    rw [Exchange.readings_append, hwaits hbefore, hone last hlast]
  | brokenOff message hbefore hlast hmore hend =>
    rw [Exchange.readings_append, Exchange.readings_append, hwaits hbefore, hone last hlast,
      Exchange.readings_sleep]
    rfl

end Tried

/-! ## All attempts -/

namespace Action

variable {one : Dialogue (Except Fault (Entries Value))} {more number count : Nat}
  {r : Except Fault (Entries Value)}

/-- The first of several attempts decides, or the pause after it breaks off, or there are others
after the pause. -/
theorem attemptsFrom_succ_course :
    (attemptsFrom policy one (more + 1) number).Course t (r, count) ↔
      ∃ first : Trial, one.Course first.exchanges first.result ∧
        (¬first.IsTransient ∧ t = first.exchanges ∧ r = first.result ∧ count = number ∨
          first.IsTransient ∧
            ((∃ message, t = first.exchanges ++ [⟨.sleep (policy.pause number), .error message⟩] ∧
                r = .error (.defect (.broken message)) ∧ count = number) ∨
              ∃ t', t = first.exchanges ++ ⟨.sleep (policy.pause number), .ok ()⟩ :: t' ∧
                (attemptsFrom policy one more (number + 1)).Course t' (r, count))) := by
  rw [attemptsFrom, Dialogue.course_bind]
  constructor
  · rintro ⟨result, t₁, t₂, rfl, hone, hrest⟩
    refine ⟨⟨t₁, result⟩, hone, ?_⟩
    cases result with
    | ok output =>
      obtain ⟨rfl, h⟩ := Dialogue.course_pure.mp hrest
      obtain ⟨rfl, rfl⟩ := Prod.mk.inj h
      exact .inl ⟨by rintro ⟨_, ⟨⟩, _⟩, List.append_nil _, rfl, rfl⟩
    | error fault =>
      dsimp only at hrest
      split at hrest <;> rename_i htransient
      · refine .inr ⟨⟨fault, rfl, htransient⟩, ?_⟩
        obtain ⟨waited, t', rfl, hwaited⟩ := Dialogue.course_ask.mp hrest
        match waited, hwaited with
        | .ok (), hwaited => exact .inr ⟨t', rfl, hwaited⟩
        | .error message, hwaited =>
          obtain ⟨rfl, h⟩ := Dialogue.course_pure.mp hwaited
          obtain ⟨rfl, rfl⟩ := Prod.mk.inj h
          exact .inl ⟨message, rfl, rfl, rfl⟩
      · obtain ⟨rfl, h⟩ := Dialogue.course_pure.mp hrest
        obtain ⟨rfl, rfl⟩ := Prod.mk.inj h
        refine .inl ⟨?_, List.append_nil _, rfl, rfl⟩
        rintro ⟨_, ⟨⟩, h⟩
        exact htransient h
  · rintro ⟨first, hone, ⟨hdecides, rfl, rfl, rfl⟩ | ⟨⟨fault, hfault, htransient⟩, hrest⟩⟩
    · refine ⟨first.result, first.exchanges, [], (List.append_nil _).symm, hone, ?_⟩
      cases hresult : first.result with
      | ok output => exact .done _
      | error fault =>
        have hnot : ¬fault.isTransient = true := fun h => hdecides ⟨fault, hresult, h⟩
        dsimp only
        rw [if_neg hnot]
        exact .done _
    · rw [hfault] at hone
      rcases hrest with ⟨message, rfl, rfl, rfl⟩ | ⟨t', rfl, hrest⟩ <;>
        refine ⟨.error fault, first.exchanges, _, rfl, hone, ?_⟩ <;> dsimp only <;>
        rw [if_pos htransient]
      · exact Dialogue.course_ask.mpr ⟨.error message, [], rfl, .done _⟩
      · exact Dialogue.course_ask.mpr ⟨.ok (), t', rfl, hrest⟩

/-- The induction is on the attempts that may follow the first. -/
theorem attemptsFrom_course :
    (attemptsFrom policy one more number).Course t (r, count) ↔
      ∃ before last, count = number + before.length ∧
        policy.Tried (fun x => one.Course x.exchanges x.result) more number before last t r := by
  induction more generalizing number t with
  | zero =>
    rw [attemptsFrom, Dialogue.course_bind]
    constructor
    · rintro ⟨result, t₁, t₂, rfl, hone, hdone⟩
      obtain ⟨rfl, h⟩ := Dialogue.course_pure.mp hdone
      obtain ⟨rfl, rfl⟩ := Prod.mk.inj h
      exact ⟨[], ⟨t₁, r⟩, rfl, RetryPolicy.tried_nil.mpr
        ⟨hone, .inl ⟨fun _ => rfl, List.append_nil _, rfl⟩⟩⟩
    · rintro ⟨before, last, rfl, ⟨hbefore, hlast, hmore, -⟩ | ⟨message, hbefore, hlast, hmore, -⟩⟩
      · obtain rfl := List.length_eq_zero_iff.mp (Nat.le_zero.mp hmore)
        exact ⟨_, _, [], (List.append_nil _).symm, hlast, .done _⟩
      · exact absurd hmore (Nat.not_lt_zero _)
  | succ more ih =>
    rw [attemptsFrom_succ_course]
    constructor
    · rintro ⟨first, hone, ⟨hdecides, rfl, rfl, rfl⟩ | ⟨htransient, hrest⟩⟩
      · exact ⟨[], first, rfl, RetryPolicy.tried_nil.mpr
          ⟨hone, .inl ⟨fun h => absurd h hdecides, rfl, rfl⟩⟩⟩
      · rcases hrest with ⟨message, rfl, rfl, rfl⟩ | ⟨t', rfl, hrest⟩
        · exact ⟨[], first, rfl, RetryPolicy.tried_nil.mpr
            ⟨hone, .inr ⟨Nat.succ_pos _, htransient, message, rfl, rfl⟩⟩⟩
        · obtain ⟨before, last, rfl, htried⟩ := ih.mp hrest
          refine ⟨first :: before, last, ?_, RetryPolicy.tried_cons.mpr
            ⟨hone, htransient, t', rfl, htried⟩⟩
          rw [List.length_cons]
          omega
    · rintro ⟨before, last, rfl, htried⟩
      cases before with
      | nil =>
        obtain ⟨hone, ⟨hend, rfl, rfl⟩ | ⟨-, hend, message, rfl, rfl⟩⟩ :=
          RetryPolicy.tried_nil.mp htried
        · exact ⟨last, hone, .inl ⟨fun h => Nat.succ_ne_zero _ (hend h), rfl, rfl, rfl⟩⟩
        · exact ⟨last, hone, .inr ⟨hend, .inl ⟨message, rfl, rfl, rfl⟩⟩⟩
      | cons first before =>
        obtain ⟨hone, htransient, t', rfl, hrest⟩ := RetryPolicy.tried_cons.mp htried
        refine ⟨first, hone, .inr ⟨htransient, .inr ⟨t', rfl, ih.mpr ⟨before, last, ?_, hrest⟩⟩⟩⟩
        rw [List.length_cons]
        omega

variable {a : Action} {nodeId : String} {c : Context} {places : Places} {origin : Int}

/-- An action whose time is bounded is attempted as its policy has it. -/
theorem perform_course {timeout : Float} (h : a.timeout = .ok timeout) :
    (a.perform nodeId c places origin policy).Course t (r, count) ↔
      ∃ before last, count = before.length + 1 ∧ policy.Tried
        (a.Attempted nodeId c places origin timeout) (policy.attempts - 1) 1 before last t r := by
  have hone : (fun x : Trial => (a.attempt nodeId c places origin timeout).Course x.exchanges
      x.result) = a.Attempted nodeId c places origin timeout :=
    funext fun x => propext attempt_course
  unfold perform
  rw [h, attemptsFrom_course, hone]
  simp only [Nat.add_comm 1]

/-- Without a bound on its time an action is not attempted. -/
theorem perform_course_of_error {fault : Fault} (h : a.timeout = .error fault) :
    (a.perform nodeId c places origin policy).Course t (r, count) ↔
      t = [] ∧ r = .error fault ∧ count = 0 := by
  unfold perform
  rw [h, Dialogue.course_pure, Prod.mk.injEq]

/-- The attempts that are counted are those that have begun. -/
theorem perform_readings (h : (a.perform nodeId c places origin policy).Course t (r, count)) :
    count = Exchange.readings t := by
  cases htimeout : a.timeout with
  | error fault =>
    obtain ⟨rfl, -, rfl⟩ := (perform_course_of_error htimeout).mp h
    rfl
  | ok timeout =>
    obtain ⟨before, last, rfl, htried⟩ := (perform_course htimeout).mp h
    exact (htried.readings fun x hx => hx.readings).symm

end Action

end Automation
