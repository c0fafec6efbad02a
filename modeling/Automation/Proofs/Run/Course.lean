import Automation.Run.Engine

/-!
# Courses

A course of a dialogue is one way that it can go: the requests that are made, each with the answer
that it gets, and what the dialogue comes to. A course of a walk is one of the dialogue that the
walk is from a state of the run, and it ends in a state too.
-/

namespace Automation

/-- A request and the answer to it. -/
structure Exchange where
  request : Request
  answer : request.Answer

/-! ## Courses of dialogues -/

namespace Dialogue

variable {α β : Type}

/-- A dialogue can go through some exchanges and come to a value. -/
inductive Course : Dialogue α → List Exchange → α → Prop where
  | done (a : α) : Course (.done a) [] a
  | ask {r : Request} {next : r.Answer → Dialogue α} {t : List Exchange} {a : α}
      (answer : r.Answer) (rest : Course (next answer) t a) :
      Course (.ask r next) (⟨r, answer⟩ :: t) a

@[simp] theorem course_done {a b : α} {t : List Exchange} :
    Course (.done a) t b ↔ t = [] ∧ b = a := by
  constructor
  · intro h
    cases h
    exact ⟨rfl, rfl⟩
  · rintro ⟨rfl, rfl⟩
    exact .done b

@[simp] theorem course_pure {a b : α} {t : List Exchange} :
    Course (pure a) t b ↔ t = [] ∧ b = a := course_done

theorem course_ask {r : Request} {next : r.Answer → Dialogue α} {t : List Exchange} {a : α} :
    Course (.ask r next) t a ↔
      ∃ answer t', t = ⟨r, answer⟩ :: t' ∧ Course (next answer) t' a := by
  constructor
  · intro h
    cases h with
    | ask answer rest => exact ⟨answer, _, rfl, rest⟩
  · rintro ⟨answer, t', rfl, rest⟩
    exact .ask answer rest

/-- A course through a dialogue and what follows it is a course through each. -/
theorem course_bind {d : Dialogue α} {f : α → Dialogue β} {t : List Exchange} {b : β} :
    Course (d >>= f) t b ↔ ∃ a t₁ t₂, t = t₁ ++ t₂ ∧ Course d t₁ a ∧ Course (f a) t₂ b := by
  change Course (d.bind f) t b ↔ _
  induction d generalizing t with
  | done a =>
    constructor
    · intro h
      exact ⟨a, [], t, rfl, .done a, h⟩
    · rintro ⟨a', t₁, t₂, rfl, h₁, h₂⟩
      obtain ⟨rfl, rfl⟩ := course_done.mp h₁
      exact h₂
  | ask r next ih =>
    rw [ask_bind]
    constructor
    · intro h
      obtain ⟨answer, t', rfl, rest⟩ := course_ask.mp h
      obtain ⟨a, t₁, t₂, rfl, h₁, h₂⟩ := (ih answer).mp rest
      exact ⟨a, ⟨r, answer⟩ :: t₁, t₂, rfl, .ask answer h₁, h₂⟩
    · rintro ⟨a, t₁, t₂, rfl, h₁, h₂⟩
      obtain ⟨answer, t', rfl, rest⟩ := course_ask.mp h₁
      exact .ask answer ((ih answer).mpr ⟨a, t', t₂, rfl, rest, h₂⟩)

@[simp] theorem course_map {d : Dialogue α} {f : α → β} {t : List Exchange} {b : β} :
    Course (f <$> d) t b ↔ ∃ a, b = f a ∧ Course d t a := by
  rw [← bind_pure_comp, course_bind]
  constructor
  · rintro ⟨a, t₁, t₂, rfl, h₁, h₂⟩
    obtain ⟨rfl, rfl⟩ := course_pure.mp h₂
    exact ⟨a, rfl, by simpa using h₁⟩
  · rintro ⟨a, rfl, h⟩
    exact ⟨a, t, [], by simp, h, course_pure.mpr ⟨rfl, rfl⟩⟩

theorem course_request {r : Request} {t : List Exchange} {answer : r.Answer} :
    Course (request r) t answer ↔ t = [⟨r, answer⟩] := by
  rw [request, course_ask]
  constructor
  · rintro ⟨answer', t', rfl, h⟩
    obtain ⟨rfl, rfl⟩ := course_done.mp h
    rfl
  · rintro rfl
    exact ⟨answer, [], rfl, .done answer⟩

theorem course_clock {t : List Exchange} {reading : Nat} :
    Course clock t reading ↔ t = [⟨.clock, reading⟩] := course_request

/-- What a dialogue comes to follows from the exchanges. -/
theorem Course.unique {d : Dialogue α} {t : List Exchange} {a b : α} (ha : Course d t a)
    (hb : Course d t b) : a = b := by
  induction ha with
  | done a => exact (course_done.mp hb).2.symm
  | ask answer rest ih =>
    obtain ⟨answer', t', heq, rest'⟩ := course_ask.mp hb
    obtain ⟨rfl, rfl⟩ : answer = answer' ∧ _ = t' := by simpa using heq
    exact ih rest'

/-! ### Parts of courses -/

/-- A dialogue can come to another through some exchanges. -/
inductive Reaches : Dialogue α → List Exchange → Dialogue α → Prop where
  | here (d : Dialogue α) : Reaches d [] d
  | ask {r : Request} {next : r.Answer → Dialogue α} {t : List Exchange} {d : Dialogue α}
      (answer : r.Answer) (rest : Reaches (next answer) t d) :
      Reaches (.ask r next) (⟨r, answer⟩ :: t) d

section Reaches

variable {d d' d'' : Dialogue α} {t t' : List Exchange} {a : α}

theorem Reaches.trans (h : d.Reaches t d') (h' : d'.Reaches t' d'') : d.Reaches (t ++ t') d'' := by
  induction h with
  | here d => exact h'
  | ask answer rest ih => exact .ask answer (ih h')

theorem Reaches.course (h : d.Reaches t d') (h' : d'.Course t' a) : d.Course (t ++ t') a := by
  induction h with
  | here d => exact h'
  | ask answer rest ih => exact .ask answer (ih h')

end Reaches

/-! ### What is asked -/

/-- Only requests of a kind are made, whatever the answers are. -/
inductive Only (P : Request → Prop) : Dialogue α → Prop where
  | done (a : α) : Only P (.done a)
  | ask {r : Request} {next : r.Answer → Dialogue α} (h : P r)
      (hnext : ∀ answer, Only P (next answer)) : Only P (.ask r next)

section Only

variable {P : Request → Prop} {d : Dialogue α}

theorem only_pure (a : α) : (pure a : Dialogue α).Only P := .done a

theorem only_request {r : Request} (h : P r) : (request r).Only P := .ask h .done

theorem Only.bind {f : α → Dialogue β} (hd : d.Only P) (hf : ∀ a, (f a).Only P) :
    (d >>= f).Only P := by
  change (d.bind f).Only P
  induction hd with
  | done a => exact hf a
  | ask h hnext ih => exact .ask h ih

theorem Only.mem {t : List Exchange} {a : α} (h : d.Only P) (hd : d.Course t a) :
    ∀ x ∈ t, P x.request := by
  induction hd with
  | done a => exact List.forall_mem_nil _
  | ask answer rest ih =>
    cases h with
    | ask hr hnext => exact List.forall_mem_cons.mpr ⟨hr, ih (hnext answer)⟩

theorem Only.reaches {d' : Dialogue α} {t : List Exchange} (h : d.Only P) (hd : d.Reaches t d') :
    d'.Only P := by
  induction hd with
  | here d => exact h
  | ask answer rest ih =>
    cases h with
    | ask hr hnext => exact ih (hnext answer)

end Only

/-! ### Worlds -/

/-- The course of a dialogue in a world that answers each request in its own way. -/
def answered (world : (r : Request) → r.Answer) : Dialogue α → List Exchange × α
  | .done a => ([], a)
  | .ask r next =>
    let (t, a) := (next (world r)).answered world
    (⟨r, world r⟩ :: t, a)

theorem course_answered (world : (r : Request) → r.Answer) (d : Dialogue α) :
    d.Course (d.answered world).1 (d.answered world).2 := by
  induction d with
  | done a => exact .done a
  | ask r next ih => exact .ask (world r) (ih (world r))

theorem answered_mem {world : (r : Request) → r.Answer} {d : Dialogue α} {x : Exchange}
    (h : x ∈ (d.answered world).1) : x.answer = world x.request := by
  induction d with
  | done a => cases h
  | ask r next ih =>
    rcases List.mem_cons.mp h with rfl | hrest
    · rfl
    · exact ih (world r) hrest

/-- A world in which no time passes, no run is aborted and no call is answered. -/
def still : (r : Request) → r.Answer
  | .clock => (0 : Nat)
  | .aborted _ => false
  | .sleep _ => .ok ()
  | .call _ _ => none

/-- If all courses ask only for what is of a kind, the dialogue does. -/
theorem only_of_courses {P : Request → Prop} {d : Dialogue α}
    (h : ∀ t a, d.Course t a → ∀ x ∈ t, P x.request) : d.Only P := by
  induction d with
  | done a => exact .done a
  | ask r next ih =>
    refine .ask ?_ fun answer => ih answer fun t a hc x hx => ?_
    · exact h _ _ (.ask (still r) (course_answered still _)) _ List.mem_cons_self
    · exact h _ a (.ask answer hc) x (List.mem_cons_of_mem _ hx)

end Dialogue

/-! ## Courses of walks -/

namespace Walk

variable {τ α β : Type} {s s' : RunState τ} {t : List Exchange} {r : Except Halt α}

/-- A walk can go from a state through some exchanges, and end with a result in a state. -/
def Course (w : Walk τ α) (s : RunState τ) (t : List Exchange) (r : Except Halt α)
    (s' : RunState τ) : Prop := Dialogue.Course (w.run s) t (r, s')

@[simp] theorem course_pure {a : α} :
    Course (pure a) s t r s' ↔ t = [] ∧ r = .ok a ∧ s' = s := by
  change Dialogue.Course (.done (.ok a, s)) t (r, s') ↔ _
  rw [Dialogue.course_done, Prod.mk.injEq]

@[simp] theorem course_throw {h : Halt} :
    Course (throw h : Walk τ α) s t r s' ↔ t = [] ∧ r = .error h ∧ s' = s := by
  change Dialogue.Course (.done (.error h, s)) t (r, s') ↔ _
  rw [Dialogue.course_done, Prod.mk.injEq]

@[simp] theorem course_surprise {x : Surprise} :
    Course (surprise x : Walk τ α) s t r s' ↔ t = [] ∧ r = .error (.surprise x) ∧ s' = s :=
  course_throw

@[simp] theorem course_get {r : Except Halt (RunState τ)} :
    Course (get : Walk τ (RunState τ)) s t r s' ↔ t = [] ∧ r = .ok s ∧ s' = s := by
  change Dialogue.Course (.done (.ok s, s)) t (r, s') ↔ _
  rw [Dialogue.course_done, Prod.mk.injEq]

@[simp] theorem course_modify {f : RunState τ → RunState τ} {r : Except Halt PUnit} :
    Course (modify f : Walk τ PUnit) s t r s' ↔ t = [] ∧ r = .ok ⟨⟩ ∧ s' = f s := by
  change Dialogue.Course (.done (.ok ⟨⟩, f s)) t (r, s') ↔ _
  rw [Dialogue.course_done, Prod.mk.injEq]

/-- A dialogue inside a walk leaves the state as it is. -/
theorem course_lift {d : Dialogue α} :
    Course (liftM d : Walk τ α) s t r s' ↔ ∃ a, r = .ok a ∧ s' = s ∧ d.Course t a := by
  change Dialogue.Course ((d >>= fun a => pure (a, s)) >>= fun p => pure (.ok p.1, p.2)) t (r, s') ↔ _
  simp only [Dialogue.course_bind, Dialogue.course_pure, Prod.mk.injEq]
  constructor
  · rintro ⟨_, _, _, rfl, ⟨a, t₁, _, rfl, h, rfl, rfl⟩, rfl, rfl, rfl⟩
    exact ⟨a, rfl, rfl, by simpa using h⟩
  · rintro ⟨a, rfl, rfl, h⟩
    exact ⟨_, t, [], by simp, ⟨a, t, [], by simp, h, rfl, rfl⟩, rfl, rfl, rfl⟩

theorem course_request {q : Request} {r : Except Halt q.Answer} :
    Course (request q : Walk τ q.Answer) s t r s' ↔
      ∃ answer, t = [⟨q, answer⟩] ∧ r = .ok answer ∧ s' = s := by
  rw [request, course_lift]
  constructor
  · rintro ⟨answer, rfl, rfl, h⟩
    exact ⟨answer, Dialogue.course_request.mp h, rfl, rfl⟩
  · rintro ⟨answer, rfl, rfl, rfl⟩
    exact ⟨answer, rfl, rfl, Dialogue.course_request.mpr rfl⟩

@[simp] theorem course_clock {r : Except Halt Nat} :
    Course (clock : Walk τ Nat) s t r s' ↔
      ∃ reading : Nat, t = [⟨.clock, reading⟩] ∧ r = .ok reading ∧ s' = s := course_request

/-- A walk and what follows it: either the walk halts, or what follows goes on where it ended. -/
theorem course_bind {w : Walk τ α} {f : α → Walk τ β} {r : Except Halt β} :
    Course (w >>= f) s t r s' ↔
      (∃ h, r = .error h ∧ Course w s t (.error h) s') ∨
        ∃ a t₁ t₂ s₁, t = t₁ ++ t₂ ∧ Course w s t₁ (.ok a) s₁ ∧ Course (f a) s₁ t₂ r s' := by
  change Dialogue.Course ((w.run s : Dialogue _) >>= fun p => ExceptT.bindCont f p.1 p.2) t (r, s') ↔ _
  rw [Dialogue.course_bind]
  constructor
  · rintro ⟨⟨a | a, s₁⟩, t₁, t₂, rfl, h₁, h₂⟩
    · obtain ⟨rfl, h⟩ := Dialogue.course_done.mp h₂
      obtain ⟨rfl, rfl⟩ := Prod.mk.injEq .. ▸ h
      rw [List.append_nil]
      exact .inl ⟨a, rfl, h₁⟩
    · exact .inr ⟨a, t₁, t₂, s₁, rfl, h₁, h₂⟩
  · rintro (⟨h, rfl, hw⟩ | ⟨a, t₁, t₂, s₁, rfl, hw, hf⟩)
    · exact ⟨(.error h, s'), t, [], by simp, hw, .done _⟩
    · exact ⟨(.ok a, s₁), t₁, t₂, rfl, hw, hf⟩

@[simp] theorem course_pure_bind {a : α} {f : α → Walk τ β} {r : Except Halt β} :
    Course (pure a >>= f) s t r s' ↔ Course (f a) s t r s' := by
  rw [pure_bind]

@[simp] theorem course_throw_bind {h : Halt} {f : α → Walk τ β} {r : Except Halt β} :
    Course ((throw h : Walk τ α) >>= f) s t r s' ↔ t = [] ∧ r = .error h ∧ s' = s :=
  course_throw

@[simp] theorem course_get_bind {f : RunState τ → Walk τ β} {r : Except Halt β} :
    Course (get >>= f) s t r s' ↔ Course (f s) s t r s' := Iff.rfl

@[simp] theorem course_modify_bind {g : RunState τ → RunState τ} {f : PUnit → Walk τ β}
    {r : Except Halt β} :
    Course (modify g >>= f) s t r s' ↔ Course (f ⟨⟩) (g s) t r s' := Iff.rfl

@[simp] theorem course_contextWith_bind {locals : Entries Value} {f : Context → Walk τ β}
    {r : Except Halt β} :
    Course (contextWith locals >>= f) s t r s' ↔
      Course (f { s.context with locals }) s t r s' := Iff.rfl

/-- What follows is done unless something does not fit. -/
theorem course_unlessMisfit_bind {misfit? : Context → Option Misfit} {f : Unit → Walk τ β}
    {r : Except Halt β} :
    Course (unlessMisfit misfit? >>= f) s t r s' ↔
      (∃ m, misfit? s.context = some m ∧ t = [] ∧ r = .error (.surprise (.misfit m)) ∧ s' = s) ∨
        misfit? s.context = none ∧ Course (f ()) s t r s' := by
  rw [unlessMisfit, bind_assoc, course_get_bind]
  cases h : misfit? s.context with
  | none => simp
  | some m => simp [surprise]

theorem course_recordOutput_bind {nodeId : String} {output : Entries Value}
    {f : Unit → Walk τ β} {r : Except Halt β} :
    Course (recordOutput nodeId output >>= f) s t r s' ↔
      (∃ m, s.context.outputsMisfit = some m ∧ t = [] ∧ r = .error (.surprise (.misfit m)) ∧
        s' = s) ∨ s.context.outputsMisfit = none ∧
      Course (f ()) { s with context := s.context.recordOutput nodeId (.object output) } t r s' := by
  rw [recordOutput, bind_assoc, course_unlessMisfit_bind]
  rfl

/-- A dialogue inside a walk never halts it. -/
theorem course_lift_bind {d : Dialogue α} {f : α → Walk τ β} {r : Except Halt β} :
    Course (liftM d >>= f) s t r s' ↔
      ∃ a t₁ t₂, t = t₁ ++ t₂ ∧ d.Course t₁ a ∧ Course (f a) s t₂ r s' := by
  rw [course_bind]
  constructor
  · rintro (⟨h, rfl, hd⟩ | ⟨a, t₁, t₂, s₁, rfl, hd, hf⟩)
    · obtain ⟨a, hr, _⟩ := course_lift.mp hd
      cases hr
    · obtain ⟨a', hr, rfl, hd⟩ := course_lift.mp hd
      cases hr
      exact ⟨a, t₁, t₂, rfl, hd, hf⟩
  · rintro ⟨a, t₁, t₂, rfl, hd, hf⟩
    exact .inr ⟨a, t₁, t₂, s, rfl, course_lift.mpr ⟨a, rfl, rfl, hd⟩, hf⟩

theorem course_request_bind {q : Request} {f : q.Answer → Walk τ β} {r : Except Halt β} :
    Course (request q >>= f) s t r s' ↔
      ∃ answer t', t = ⟨q, answer⟩ :: t' ∧ Course (f answer) s t' r s' := by
  rw [request, course_lift_bind]
  constructor
  · rintro ⟨answer, t₁, t₂, rfl, h, hf⟩
    obtain rfl := Dialogue.course_request.mp h
    exact ⟨answer, t₂, rfl, hf⟩
  · rintro ⟨answer, t', rfl, hf⟩
    exact ⟨answer, [⟨q, answer⟩], t', rfl, Dialogue.course_request.mpr rfl, hf⟩

@[simp] theorem course_clock_bind {f : Nat → Walk τ β} {r : Except Halt β} :
    Course (clock >>= f) s t r s' ↔
      ∃ (reading : Nat) (t' : _), t = ⟨.clock, reading⟩ :: t' ∧ Course (f reading) s t' r s' :=
  course_request_bind

/-- What follows a walk that does not halt goes on where it ended. -/
theorem Course.bind {w : Walk τ α} {f : α → Walk τ β} {r : Except Halt β} {a : α}
    {t₁ t₂ : List Exchange} {s₁ : RunState τ} (hw : Course w s t₁ (.ok a) s₁)
    (hf : Course (f a) s₁ t₂ r s') : Course (w >>= f) s (t₁ ++ t₂) r s' :=
  course_bind.mpr (.inr ⟨a, t₁, t₂, s₁, rfl, hw, hf⟩)

@[simp] theorem course_map {w : Walk τ α} {f : α → β} {r : Except Halt β} :
    Course (f <$> w) s t r s' ↔ ∃ r₀, r = r₀.map f ∧ Course w s t r₀ s' := by
  rw [← bind_pure_comp, course_bind]
  constructor
  · rintro (⟨h, rfl, hw⟩ | ⟨a, t₁, t₂, s₁, rfl, hw, hf⟩)
    · exact ⟨.error h, rfl, hw⟩
    · obtain ⟨rfl, rfl, rfl⟩ := course_pure.mp hf
      exact ⟨.ok a, rfl, by simpa using hw⟩
  · rintro ⟨h | a, rfl, hw⟩
    · exact .inl ⟨h, rfl, hw⟩
    · exact .inr ⟨a, t, [], s', by simp, hw, course_pure.mpr ⟨rfl, rfl, rfl⟩⟩

theorem course_bind_pure {w : Walk τ α} {b : β} {r : Except Halt β} :
    Course (w >>= fun _ => pure b) s t r s' ↔
      ∃ r₀, r = r₀.map (fun _ => b) ∧ Course w s t r₀ s' := by
  rw [bind_pure_comp, course_map]

@[simp] theorem course_contextWith {locals : Entries Value} {r : Except Halt Context} :
    Course (contextWith locals) s t r s' ↔
      t = [] ∧ r = .ok { s.context with locals } ∧ s' = s := by
  change Dialogue.Course (.done (.ok { s.context with locals }, s)) t (r, s') ↔ _
  rw [Dialogue.course_done, Prod.mk.injEq]

theorem course_nested {w : Walk τ α} :
    Course (nested w) s t r s' ↔
      ∃ s₁, s' = { s₁ with depth := s₁.depth - 1 } ∧
        Course w { s with depth := s.depth + 1 } t r s₁ := by
  change Dialogue.Course ((w.run { s with depth := s.depth + 1 } : Dialogue _) >>= fun p =>
    pure (p.1, { p.2 with depth := p.2.depth - 1 })) t (r, s') ↔ _
  rw [Dialogue.course_bind]
  constructor
  · rintro ⟨⟨r₁, s₁⟩, t₁, t₂, rfl, h₁, h₂⟩
    obtain ⟨rfl, h⟩ := Dialogue.course_pure.mp h₂
    obtain ⟨rfl, rfl⟩ := Prod.mk.injEq .. ▸ h
    rw [List.append_nil]
    exact ⟨s₁, rfl, h₁⟩
  · rintro ⟨s₁, rfl, h⟩
    exact ⟨(r, s₁), t, [], by simp, h, .done _⟩

/-! ### What is asked -/

/-- Only requests of a kind are made, in whatever state the walk begins. -/
def Only (P : Request → Prop) (w : Walk τ α) : Prop := ∀ s, Dialogue.Only P (w.run s)

section Only

variable {P : Request → Prop} {w : Walk τ α}

theorem only_pure (a : α) : Only P (pure a : Walk τ α) := fun _ => .done _

theorem only_throw (h : Halt) : Only P (throw h : Walk τ α) := fun _ => .done _

theorem only_modify (f : RunState τ → RunState τ) : Only P (modify f : Walk τ PUnit) :=
  fun _ => .done _

theorem Only.bind {f : α → Walk τ β} (hw : Only P w) (hf : ∀ a, Only P (f a)) :
    Only P (w >>= f) := by
  intro s
  change Dialogue.Only P ((w.run s : Dialogue _) >>= fun p => ExceptT.bindCont f p.1 p.2)
  refine (hw s).bind ?_
  rintro ⟨h | a, s₁⟩
  · exact .done _
  · exact hf a s₁

theorem only_get_bind {f : RunState τ → Walk τ β} (h : ∀ s, Dialogue.Only P ((f s).run s)) :
    Only P (get >>= f) := fun s => h s

theorem only_unlessMisfit (misfit? : Context → Option Misfit) :
    Only P (unlessMisfit misfit? : Walk τ Unit) := by
  refine only_get_bind fun s => ?_
  split
  · exact only_throw _ s
  · exact only_pure () s

theorem Only.map {f : α → β} (hw : Only P w) : Only P (f <$> w) := by
  rw [← bind_pure_comp]
  exact hw.bind fun a => only_pure (f a)

theorem only_lift {d : Dialogue α} (h : d.Only P) : Only P (liftM d : Walk τ α) := by
  intro s
  change Dialogue.Only P
    ((d >>= fun a => pure (a, s)) >>= fun p => pure ((Except.ok p.1 : Except Halt α), p.2))
  exact (h.bind fun a => Dialogue.only_pure (a, s)).bind fun p => .done _

theorem only_request {r : Request} (h : P r) : Only P (request r : Walk τ r.Answer) :=
  only_lift (Dialogue.only_request h)

/-- What is asked may depend on the context in which the walk begins. -/
theorem only_contextWith {locals : Entries Value} {f : Context → Walk τ α}
    (h : Only P (f { s.context with locals })) :
    Dialogue.Only P ((contextWith locals >>= f).run s) :=
  h s

end Only

end Walk

end Automation
