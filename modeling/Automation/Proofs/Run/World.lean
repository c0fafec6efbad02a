import Automation.Proofs.Run.Machine

/-!
# Worlds

A world answers each request in the light of all that was asked before. In a world a dialogue has
one course, and the machine has one way to do its errands. Where two machines, each in its own
world, begin alike, they go side by side as long as each pass of the one is one of the other
(`Engine.Passes.lockstep`).
-/

namespace Automation

variable {α β τ : Type}

/-- How each request is answered, after some exchanges. -/
abbrev World := List Exchange → (r : Request) → r.Answer

namespace World

variable {w w' : World} {past t t' : List Exchange}

/-- After some exchanges, others are answered as the world does. -/
def Answers (w : World) : List Exchange → List Exchange → Prop
  | _, [] => True
  | past, x :: t => x.answer = w past x.request ∧ w.Answers (past ++ [x]) t

@[simp] theorem answers_nil : w.Answers past [] := trivial

@[simp] theorem answers_cons {x : Exchange} :
    w.Answers past (x :: t) ↔ x.answer = w past x.request ∧ w.Answers (past ++ [x]) t := Iff.rfl

@[simp] theorem answers_append :
    w.Answers past (t ++ t') ↔ w.Answers past t ∧ w.Answers (past ++ t) t' := by
  induction t generalizing past with
  | nil => simp
  | cons x t ih => simp [ih, and_assoc]

/-- Worlds that agree on what is asked answer it alike. -/
theorem Answers.congr (h : w.Answers past t)
    (hsame : ∀ pre x post, t = pre ++ x :: post →
      w' (past ++ pre) x.request = w (past ++ pre) x.request) : w'.Answers past t := by
  induction t generalizing past with
  | nil => trivial
  | cons x t ih =>
    obtain ⟨hx, ht⟩ := h
    refine ⟨?_, ih ht fun pre y post hpre => ?_⟩
    · rw [hx]
      simpa using (hsame [] x t rfl).symm
    · subst hpre
      simpa using hsame (x :: pre) y post rfl

/-- Any exchanges are answered as some world does. -/
theorem exists_answers (past t : List Exchange) : ∃ w : World, w.Answers past t := by
  classical
  induction t generalizing past with
  | nil => exact ⟨fun _ => Dialogue.still, trivial⟩
  | cons x t ih =>
    obtain ⟨w, hw⟩ := ih (past ++ [x])
    refine ⟨fun before r => if h : before = past ∧ x.request = r then h.2 ▸ x.answer else w before r,
      by simp, hw.congr fun pre y post _ => ?_⟩
    rw [dif_neg]
    simp

end World

/-! ## Dialogues in worlds -/

namespace Dialogue

variable {w : World} {past t : List Exchange} {d : Dialogue α} {a : α}

/-- The course of a dialogue in a world, after some exchanges. -/
def lived (w : World) : List Exchange → Dialogue α → List Exchange × α
  | _, .done a => ([], a)
  | past, .ask r next =>
    let (t, a) := (next (w past r)).lived w (past ++ [⟨r, w past r⟩])
    (⟨r, w past r⟩ :: t, a)

theorem lived_course (w : World) (past : List Exchange) (d : Dialogue α) :
    d.Course (d.lived w past).1 (d.lived w past).2 := by
  induction d generalizing past with
  | done a => exact .done a
  | ask r next ih => exact .ask (w past r) (ih (w past r) _)

theorem lived_answers (w : World) (past : List Exchange) (d : Dialogue α) :
    w.Answers past (d.lived w past).1 := by
  induction d generalizing past with
  | done a => trivial
  | ask r next ih => exact ⟨rfl, ih (w past r) _⟩

/-- A dialogue has no other course in a world. -/
theorem Course.lived_eq (h : d.Course t a) (hw : w.Answers past t) : d.lived w past = (t, a) := by
  induction h generalizing past with
  | done a => rfl
  | @ask r next t a answer rest ih =>
    obtain ⟨hanswer, ht⟩ := hw
    obtain rfl : answer = w past r := hanswer
    rw [lived, ih ht]

/-- What a dialogue has come to in a world, it goes on from there. -/
theorem Reaches.lived_eq {d' : Dialogue α} (h : d.Reaches t d') (hw : w.Answers past t) :
    d.lived w past = (t ++ (d'.lived w (past ++ t)).1, (d'.lived w (past ++ t)).2) :=
  (h.course (lived_course w _ d')).lived_eq (World.answers_append.mpr ⟨hw, lived_answers w _ d'⟩)

/-- Worlds with the same clock are one for a dialogue that only looks at the clock. -/
theorem Only.lived_eq {w' : World} (h : d.Only (· = .clock))
    (hclock : ∀ past, w' past .clock = w past .clock) : d.lived w' past = d.lived w past := by
  induction h generalizing past with
  | done a => rfl
  | @ask r next hr hnext ih =>
    obtain rfl : r = .clock := hr
    rw [lived, lived, hclock past, ih]

theorem lived_bind (d : Dialogue α) (f : α → Dialogue β) :
    (d >>= f).lived w past =
      ((d.lived w past).1 ++ ((f (d.lived w past).2).lived w (past ++ (d.lived w past).1)).1,
        ((f (d.lived w past).2).lived w (past ++ (d.lived w past).1)).2) := by
  obtain ⟨hfirst, hsecond⟩ := And.intro (lived_answers w past d)
    (lived_answers w (past ++ (d.lived w past).1) (f (d.lived w past).2))
  refine Course.lived_eq (course_bind.mpr ⟨_, _, _, rfl, lived_course w past d, ?_⟩)
    (World.answers_append.mpr ⟨hfirst, hsecond⟩)
  exact lived_course w _ _

end Dialogue

/-! ## The machine in worlds -/

/-- A result after which a run goes on, at once or after a suspension. -/
def GoesOn : Except Halt α → Prop
  | .ok _ => True
  | .error (.suspended _ _) => True
  | .error _ => False

namespace Engine

variable [ActiveTime τ] {e e' : Engine} {w w' : World} {s s₁ s₂ : RunState τ}
  {errands : List Errand} {past : List Exchange} {log log' : List (Pass τ)}
  {r r' : Except Halt Unit}

/-- In a world an errand is done in one way. -/
theorem Does.unique {p p' : Pass τ} (h : e.Does p) (h' : e.Does p') (herrand : p'.errand = p.errand)
    (hbefore : p'.before = p.before) (hw : w.Answers past p.exchanges)
    (hw' : w.Answers past p'.exchanges) : p' = p := by
  obtain ⟨errand, before, exchanges, result, after⟩ := p
  obtain ⟨errand', before', exchanges', result', after'⟩ := p'
  obtain rfl : errand' = errand := herrand
  obtain rfl : before' = before := hbefore
  have hsame := (Dialogue.Course.lived_eq h' hw').symm.trans (Dialogue.Course.lived_eq h hw)
  obtain ⟨rfl, hrest⟩ := Prod.mk.inj hsame
  obtain ⟨rfl, rfl⟩ := Prod.mk.inj hrest
  rfl

/-- Two machines that begin with the same errands in the same state do the same, as long as each
pass of the second one is a pass of the first. The first pass that is not, if there is one, ends the
second. The induction is on the passes of the first machine, for the errands that are left. -/
theorem Passes.lockstep {I : List Exchange → RunState τ → Prop}
    {C : List Exchange → Pass τ → Prop}
    (hstep : ∀ past (p p' : Pass τ), I past p.before → e.Does p → e'.Does p' →
      p'.errand = p.errand → p'.before = p.before →
      w.Answers past p.exchanges → w'.Answers past p'.exchanges →
      (p' = p ∧ (GoesOn p.result → I (past ++ p.exchanges) p.after)) ∨
        (C past p' ∧ ∃ halt, p'.result = .error halt))
    (h : e.Passes errands s log r s₁) (h' : e'.Passes errands s log' r' s₂) (hi : I past s)
    (hw : w.Answers past (Pass.talk log)) (hw' : w'.Answers past (Pass.talk log')) :
    (log' = log ∧ r' = r ∧ s₂ = s₁ ∧ (GoesOn r → I (past ++ Pass.talk log) s₁)) ∨
      ∃ pre p post, log' = pre ++ [p] ∧ log = pre ++ post ∧ C (past ++ Pass.talk pre) p ∧
        p.before.Continues s₁ ∧ s₂ = p.after ∧ ∀ halt, p.result = .error halt → r' = .error halt := by
  induction log generalizing errands s past log' with
  | nil =>
    cases h
    cases h'
    exact .inl ⟨rfl, rfl, rfl, fun _ => by simpa [Pass.talk] using hi⟩
  | cons p log ih =>
    have hs₁ := h.continues
    obtain ⟨rest, rfl⟩ : ∃ rest, errands = p.errand :: rest := by cases h <;> exact ⟨_, rfl⟩
    obtain ⟨_, _, hlog, -, rfl, hp, hends⟩ := h.cons_cases
    obtain ⟨rfl, rfl⟩ := List.cons.inj hlog
    obtain ⟨p', log', rfl, herrand, hbefore, hp', hends'⟩ := h'.cons_cases
    obtain ⟨hfirst, hw⟩ := World.answers_append.mp hw
    obtain ⟨hfirst', hw'⟩ := World.answers_append.mp hw'
    rcases hstep past p p' hi hp hp' herrand hbefore hfirst hfirst' with
      ⟨rfl, hafter⟩ | ⟨hc, halt, hhalt⟩
    · -- The same pass: it ends both, or both go on with the same errands.
      rcases hends with ⟨halt, hr, rfl, rfl, rfl⟩ | ⟨more, hr, hrest⟩ <;>
        rcases hends' with ⟨halt', hr', rfl, rfl, rfl⟩ | ⟨more', hr', hrest'⟩ <;>
        rw [hr] at hr' hafter <;> cases hr'
      · refine .inl ⟨rfl, rfl, rfl, fun hgo => ?_⟩
        simpa [Pass.talk] using hafter (by cases halt <;> exact hgo)
      · rcases ih hrest hrest' (hafter trivial) hw hw' with ⟨rfl, rfl, rfl, hend⟩ |
          ⟨pre, q, post, rfl, rfl, hq, hcontinues, hend, hhalt⟩
        · exact .inl ⟨rfl, rfl, rfl, fun hgo => by simpa [Pass.talk] using hend hgo⟩
        · exact .inr ⟨p' :: pre, q, post, rfl, rfl, by simpa [Pass.talk] using hq, hcontinues, hend,
            hhalt⟩
    · -- Another pass, which ends the second machine.
      rcases hends' with ⟨halt', hr', rfl, rfl, rfl⟩ | ⟨more', hr', _⟩
      · refine .inr ⟨[], p', p :: log, rfl, rfl, by simpa [Pass.talk] using hc, ?_, rfl, ?_⟩
        · rw [hbefore]
          exact hs₁
        · intro halt'' hhalt''
          rw [hr'] at hhalt''
          exact congrArg Except.error (Except.error.inj hhalt'')
      · rw [hhalt] at hr'
        cases hr'

/-- In a world the machine does its errands in one way. -/
theorem Passes.unique (h : e.Passes errands s log r s₁) (h' : e.Passes errands s log' r' s₂)
    (hw : w.Answers past (Pass.talk log)) (hw' : w.Answers past (Pass.talk log')) :
    log' = log ∧ r' = r ∧ s₂ = s₁ := by
  rcases h.lockstep (I := fun _ _ => True) (C := fun _ _ => False)
    (fun past p p' _ hp hp' herrand hbefore hx hx' =>
      .inl ⟨hp.unique hp' herrand hbefore hx hx', fun _ => trivial⟩)
    h' trivial hw hw' with ⟨hlog, hr, hs, -⟩ | ⟨_, _, _, _, _, hfalse, _⟩
  · exact ⟨hlog, hr, hs⟩
  · exact hfalse.elim

end Engine

end Automation
