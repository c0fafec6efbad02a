import Automation.Proofs.Action.Attempts
import Automation.Proofs.Number.Scaling

/-!
# Retries

Of every sequence of attempts one decides: the first that does not fail transiently, or the last
that is allowed. An action is attempted until then (`Action.perform_decides`). The pauses between
the attempts double up to a bound (`RetryPolicy.pause_extended`), and where the power of two is
beyond the floats they are the bound.
-/

namespace Automation

open Number

namespace RetryPolicy

variable {p : RetryPolicy} {i k : Nat}

/-! ## Pauses -/

section Pauses

variable {m w : EReal}

theorem pause_eq (hi : i ≤ 1024) : p.pause i =
    greatest 0 (least (p.multiplier * .ofNat (Nat.pow 2 (i - 1))) p.maxWait) :=
  if_neg (Nat.not_lt.mpr hi)

/-- The pauses double up to the bound, as far as there are floats. -/
theorem pause_extended (hm : extended p.multiplier = some m) (hw : extended p.maxWait = some w)
    (hi : i ≤ 1024) :
    extended (p.pause i) = some (inRange (max 0 (min (m * 2 ^ (i - 1)) w))) := by
  have hdoubled := extended_mul_two_pow hm (show i - 1 ≤ 1023 by omega)
  -- What is too large keeps its place in the order, so the bound may be taken first.
  have hmap : inRange (max 0 (min (m * 2 ^ (i - 1)) w))
      = max 0 (min (inRange (m * 2 ^ (i - 1))) w) := by
    rw [inRange_mono.map_max, inRange_mono.map_min, inRange_extended hw,
      inRange_extended extended_zero]
  rw [hmap, pause_eq hi]
  exact extended_greatest extended_zero (extended_least hdoubled hw)

/-- Under a bound that is not infinite no pause is out of range. -/
theorem pause_bounded (hm : extended p.multiplier = some m) (hw : extended p.maxWait = some w)
    (hbound : w ≠ ⊤) (hi : i ≤ 1024) :
    extended (p.pause i) = some (max 0 (min (m * 2 ^ (i - 1)) w)) := by
  have hlt : max 0 (min (m * 2 ^ (i - 1)) w) < 2 ^ 1024 :=
    max_lt (two_pow_pos_extended _) ((min_le_right _ _).trans_lt (extended_lt hw hbound))
  rw [pause_extended hm hw hi, inRange_of_lt (le_max_left _ _) hlt]

theorem pause_of_lt (hi : 1024 < i) : p.pause i = p.maxWait := if_pos hi

end Pauses

theorem waits_concat (number : Nat) (before : List Trial) (x : Trial) :
    p.waits number (before ++ [x]) = p.waits number before ++ x.exchanges ++
      [⟨.sleep (p.pause (number + before.length)), .ok ()⟩] := by
  induction before generalizing number with
  | nil => rfl
  | cons first before ih =>
    have hnumber : number + 1 + before.length = number + (first :: before).length := by
      rw [List.length_cons]
      omega
    rw [List.cons_append, waits, ih, waits, hnumber]
    simp only [List.append_assoc, List.cons_append]

/-! ## The attempt that decides -/

/-- An attempt decides if it is the first that does not fail transiently, or the last that is
allowed. -/
structure Decides (p : RetryPolicy) (outcomes : Nat → Trial) (k : Nat) : Prop where
  pos : 1 ≤ k
  le : k ≤ p.attempts
  before : ∀ i, 1 ≤ i → i < k → (outcomes i).IsTransient
  last : (outcomes k).IsTransient → k = p.attempts

variable {outcomes : Nat → Trial}

theorem Decides.unique (h : p.Decides outcomes k) (h' : p.Decides outcomes i) : i = k := by
  rcases Nat.lt_trichotomy i k with hlt | rfl | hlt
  · exact absurd (h'.last (h.before i h'.pos hlt)) (by have := h.le; omega)
  · rfl
  · exact absurd (h.last (h'.before k h.pos hlt)) (by have := h'.le; omega)

theorem exists_decides (p : RetryPolicy) (outcomes : Nat → Trial) :
    ∃ k, p.Decides outcomes k := by
  classical
  -- It is the least attempt that is the last one allowed or does not fail transiently.
  have hattempts : 1 ≤ p.attempts := Nat.le_max_left _ _
  have hsome : ∃ k, 1 ≤ k ∧ (k = p.attempts ∨ ¬(outcomes k).IsTransient) :=
    ⟨p.attempts, hattempts, .inl rfl⟩
  obtain ⟨hpos, hlast⟩ := Nat.find_spec hsome
  refine ⟨Nat.find hsome, hpos, Nat.find_min' hsome ⟨hattempts, .inl rfl⟩, fun i hi hlt => ?_,
    hlast.resolve_right ∘ not_not_intro⟩
  by_contra htransient
  exact Nat.find_min hsome hlt ⟨hi, .inr htransient⟩

/-- What is said up to an attempt of a sequence, with the pauses. -/
def spent (p : RetryPolicy) (outcomes : Nat → Trial) (k : Nat) : List Exchange :=
  p.waits 1 ((List.range' 1 (k - 1)).map outcomes) ++ (outcomes k).exchanges

end RetryPolicy

namespace Action

variable {a : Action} {nodeId : String} {c : Context} {places : Places} {origin : Int}
  {policy : RetryPolicy} {timeout : Float} {x : Trial} {t : List Exchange}
  {r : Except Fault (Entries Value)} {count : Nat}

/-- An action is attempted until an attempt decides. -/
theorem perform_decides {outcomes : Nat → Trial} {k : Nat} (h : a.timeout = .ok timeout)
    (houtcomes : ∀ i, a.Attempted nodeId c places origin timeout (outcomes i))
    (hk : policy.Decides outcomes k) :
    (a.perform nodeId c places origin policy).Course (policy.spent outcomes k)
      ((outcomes k).result, k) := by
  have hlength : ((List.range' 1 (k - 1)).map outcomes).length = k - 1 := by
    rw [List.length_map, List.length_range']
  have hpos := hk.pos
  refine (perform_course h).mpr ⟨(List.range' 1 (k - 1)).map outcomes, outcomes k, by omega,
    .decided ?_ (houtcomes k) ?_ fun htransient => ?_⟩
  · intro x hx
    obtain ⟨i, hi, rfl⟩ := List.mem_map.mp hx
    obtain ⟨hlow, hhigh⟩ := List.mem_range'_1.mp hi
    exact ⟨houtcomes i, hk.before i hlow (by omega)⟩
  · rw [hlength]
    exact Nat.sub_le_sub_right hk.le 1
  · rw [hlength, hk.last htransient]

/-- An attempt whose call is not answered in time fails transiently. -/
theorem Attempted.isTransient {call : Call} (h : a.Attempted nodeId c places origin timeout x)
    (hx : (⟨.call call timeout, none⟩ : Exchange) ∈ x.exchanges) : x.IsTransient := by
  cases h with
  | refused hplan => cases List.mem_singleton.mp hx
  | called answer hplan =>
    rcases List.mem_cons.mp hx with h | h
    · cases h
    · cases List.mem_singleton.mp h
      exact ⟨_, rfl, rfl⟩

/-- Where no pause breaks off, an action comes to what the attempt that decides comes to. -/
theorem exists_decides_of_perform (h : a.timeout = .ok timeout)
    (ht : (a.perform nodeId c places origin policy).Course t (r, count))
    (hpauses : ∀ seconds message, (⟨.sleep seconds, .error message⟩ : Exchange) ∉ t) :
    ∃ outcomes : Nat → Trial,
      (∀ i, a.Attempted nodeId c places origin timeout (outcomes i)) ∧
        policy.Decides outcomes count ∧ t = policy.spent outcomes count ∧
          r = (outcomes count).result := by
  obtain ⟨before, last, rfl, htried⟩ := (perform_course h).mp ht
  cases htried with
  | brokenOff message hbefore hlast hmore hend =>
    exact absurd (by simp) (hpauses (policy.pause (1 + before.length)) message)
  | decided hbefore hlast hmore hend =>
    -- After the last attempt the sequence goes on with more of its kind.
    let outcomes (i : Nat) : Trial := before.getD (i - 1) last
    have hlist : (List.range' 1 before.length).map outcomes = before := by
      refine List.ext_getElem (by simp) fun i hi hi' => ?_
      simp [outcomes, hi']
    have hends : outcomes (before.length + 1) = last := by
      simp [outcomes]
    have hspent : policy.spent outcomes (before.length + 1)
        = policy.waits 1 before ++ last.exchanges := by
      rw [RetryPolicy.spent, Nat.add_sub_cancel, hlist, hends]
    have hinside {i : Nat} (hi : i - 1 < before.length) : outcomes i ∈ before := by
      rw [show outcomes i = before[i - 1] from List.getD_eq_getElem _ _ hi]
      exact List.getElem_mem hi
    have hattempts : 1 ≤ policy.attempts := Nat.le_max_left _ _
    refine ⟨outcomes, fun i => ?_, ⟨Nat.succ_pos _, by omega, fun i hi hlt => ?_, ?_⟩,
      hspent.symm, congrArg Trial.result hends.symm⟩
    · by_cases hi : i - 1 < before.length
      · exact (hbefore _ (hinside hi)).1
      · rw [show outcomes i = last from List.getD_eq_default _ _ (Nat.le_of_not_lt hi)]
        exact hlast
    · exact (hbefore _ (hinside (by omega))).2
    · rw [hends]
      intro htransient
      have := hend htransient
      omega

/-- An action whose time is bounded is attempted until an attempt decides, whatever the attempts
come to: there is a course for each sequence of them, and without a pause that breaks off there is
no other. The result and the count are those of the attempt that decides. An attempt whose call is
not answered in time fails transiently. The pauses double up to the bound, exactly as far as there
are floats, and behind the last power of two that is a float they are the bound. -/
theorem perform_retries (h : a.timeout = .ok timeout) (nodeId : String) (c : Context)
    (places : Places) (origin : Int) (policy : RetryPolicy) :
    (∀ outcomes : Nat → Trial, (∀ i, a.Attempted nodeId c places origin timeout (outcomes i)) →
      ∃! k, policy.Decides outcomes k ∧ (a.perform nodeId c places origin policy).Course
        (policy.spent outcomes k) ((outcomes k).result, k)) ∧
    (∀ t r count, (a.perform nodeId c places origin policy).Course t (r, count) →
      (∀ seconds message, (⟨.sleep seconds, .error message⟩ : Exchange) ∉ t) →
      ∃ outcomes : Nat → Trial,
        (∀ i, a.Attempted nodeId c places origin timeout (outcomes i)) ∧
          policy.Decides outcomes count ∧ t = policy.spent outcomes count ∧
            r = (outcomes count).result) ∧
    (∀ x, a.Attempted nodeId c places origin timeout x →
      ∀ call, (⟨.call call timeout, none⟩ : Exchange) ∈ x.exchanges → x.IsTransient) ∧
    (∀ i ≤ 1024, policy.pause i =
        greatest 0 (least (policy.multiplier * .ofNat (Nat.pow 2 (i - 1))) policy.maxWait) ∧
      ∀ m w, extended policy.multiplier = some m → extended policy.maxWait = some w →
        extended (policy.pause i) = some (inRange (max 0 (min (m * 2 ^ (i - 1)) w))) ∧
          (w ≠ ⊤ → extended (policy.pause i) = some (max 0 (min (m * 2 ^ (i - 1)) w)))) ∧
    ∀ i, 1024 < i → policy.pause i = policy.maxWait := by
  refine ⟨fun outcomes houtcomes => ?_, fun t r count => exists_decides_of_perform h,
    fun x hx call => hx.isTransient,
    fun i hi => ⟨RetryPolicy.pause_eq hi, fun m w hm hw => ?_⟩, fun i => RetryPolicy.pause_of_lt⟩
  · obtain ⟨k, hk⟩ := policy.exists_decides outcomes
    exact ⟨k, ⟨hk, perform_decides h houtcomes hk⟩, fun i hi => hk.unique hi.1⟩
  · exact ⟨RetryPolicy.pause_extended hm hw hi, fun hbound =>
      RetryPolicy.pause_bounded hm hw hbound hi⟩

end Action

/-! ## A greeting without answers -/

/-- A short message to a phone. -/
def SendSms.greeting : SendSms where
  recipient := "+14155550100"
  message := "hi"

theorem Number.extended_eight : extended 8.0 = some ((8 : ℝ) : EReal) := by
  have hdyadic : Dyadic.ofFloat? 8.0 = some ⟨false, 2 ^ 52, -49, true⟩ := by decide
  rw [extended_finite hdyadic, Dyadic.value_eq]
  norm_num [Dyadic.magnitude]

namespace Action

/-- A greeting can be left without an answer. -/
theorem greeting_attempted : ∃ x,
    (sendSms .greeting).Attempted "text" default ⟨""⟩ 0 30.0 x ∧ x.IsTransient := by
  have hplan : ((sendSms .greeting).plan "text" default ⟨""⟩ (stampAt 0 0)).isOk = true := by
    decide +kernel
  cases h : (sendSms .greeting).plan "text" default ⟨""⟩ (stampAt 0 (0 : Nat)) with
  | error fault =>
    rw [h] at hplan
    cases hplan
  | ok plan => exact ⟨_, .called none h, _, rfl, rfl⟩

/-- A greeting that is never answered is attempted three times, and the pauses double. -/
theorem perform_greeting_retries :
    let a : Action := .sendSms .greeting
    let policy : RetryPolicy := {}
    a.timeout = .ok 30.0 ∧ extended policy.multiplier = some ((1 / 2 : ℝ) : EReal) ∧
      extended policy.maxWait = some ((8 : ℝ) : EReal) ∧ ∃ outcomes : Nat → Trial,
        (∀ i, a.Attempted "text" default ⟨""⟩ 0 30.0 (outcomes i)) ∧
        (a.perform "text" default ⟨""⟩ 0 policy).Course (policy.spent outcomes 3)
          ((outcomes 3).result, 3) ∧
        extended (policy.pause 2) = some
          (max 0 (min (((1 / 2 : ℝ) : EReal) * 2 ^ (2 - 1)) ((8 : ℝ) : EReal))) := by
  intro a policy
  have hmultiplier : extended policy.multiplier = some ((1 / 2 : ℝ) : EReal) := by
    have hdyadic : Dyadic.ofFloat? policy.multiplier = some ⟨false, 2 ^ 52, -53, true⟩ := by decide
    rw [extended_finite hdyadic, Dyadic.value_eq]
    norm_num [Dyadic.magnitude]
  have htimeout : a.timeout = .ok 30.0 := rfl
  obtain ⟨x, hx, htransient⟩ := greeting_attempted
  obtain ⟨hcourses, -, -, hpauses, -⟩ := perform_retries htimeout "text" default ⟨""⟩ 0 policy
  obtain ⟨k, ⟨hk, hcourse⟩, -⟩ := hcourses (fun _ => x) fun _ => hx
  obtain rfl : k = 3 := hk.last htransient
  exact ⟨htimeout, hmultiplier, extended_eight, _, fun _ => hx, hcourse,
    ((hpauses 2 (by decide)).2 _ _ hmultiplier extended_eight).2 (EReal.coe_ne_top _)⟩

/-- A greeting that is never answered, under a bound of eight seconds and without any doubling: the
first pauses are none, but behind the last power of two that is a float they are the bound. -/
theorem perform_greeting_leaps :
    let a : Action := .sendSms .greeting
    let policy : RetryPolicy := { maxAttempts := 1026, multiplier := 0, maxWait := 8.0 }
    extended policy.multiplier = some 0 ∧ extended policy.maxWait = some ((8 : ℝ) : EReal) ∧
      ∃ before last result, (a.perform "text" default ⟨""⟩ 0 policy).Course
        (before ++ ⟨.sleep 8.0, .ok ()⟩ :: last) (result, 1026) ∧
        Exchange.readings before = 1025 ∧ Exchange.readings last = 1 ∧
        extended 8.0 ≠ some (max 0 (min (0 * 2 ^ (1025 - 1)) ((8 : ℝ) : EReal))) := by
  intro a policy
  have htimeout : a.timeout = .ok 30.0 := rfl
  obtain ⟨x, hx, htransient⟩ := greeting_attempted
  have hbefore (n : Nat) : ∀ y ∈ List.replicate n x,
      a.Attempted "text" default ⟨""⟩ 0 30.0 y ∧ y.IsTransient := fun y hy =>
    List.eq_of_mem_replicate hy ▸ ⟨hx, htransient⟩
  have htried (n : Nat) : policy.Tried (a.Attempted "text" default ⟨""⟩ 0 30.0) n 1
      (List.replicate n x) x (policy.waits 1 (List.replicate n x) ++ x.exchanges) x.result :=
    .decided (hbefore n) hx (List.length_replicate ▸ Nat.le_refl _) fun _ => List.length_replicate
  have hcourse := (perform_course htimeout).mpr ⟨_, _, rfl, htried 1025⟩
  rw [List.replicate_succ', RetryPolicy.waits_concat, List.append_assoc, List.length_append,
    List.length_replicate] at hcourse
  have hreadings := (htried 1024).readings fun y hy => hy.readings
  rw [List.length_replicate] at hreadings
  refine ⟨extended_zero, extended_eight, _, _, _, hcourse, hreadings, hx.readings, ?_⟩
  have hnone : max 0 (min 0 ((8 : ℝ) : EReal)) = 0 := max_eq_left (min_le_left _ _)
  rw [extended_eight, zero_mul, hnone, Ne, Option.some_inj, EReal.coe_eq_zero]
  norm_num

end Action

end Automation
