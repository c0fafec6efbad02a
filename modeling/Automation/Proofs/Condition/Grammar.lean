import Automation.Condition.Parser
import Automation.Proofs.Text.Digits

/-!
# The grammar of conditions

`Derives` says which tokens make up which tree, with one rule for each way to build a phrase. The reader
accepts exactly what the grammar derives, with the one tree that it derives, and refuses all else for
a fault of syntax (`ofTokens_iff_derives`).
-/

namespace Automation.Condition

/-! ## Phrases -/

/-- The kinds of phrases, from the loosest to the tightest. -/
inductive Phrase where
  | disjunction
  | conjunction
  | unary
  | comparison
  | operand

/-- The words that are literals, each with its value. -/
def literals : List (String × Value) :=
  [("true", .bool true), ("false", .bool false), ("null", .null), ("undefined", .null)]

/-- The tokens make up a phrase, and this is its tree. Connectives group to the left, a negation covers
the whole comparison behind it, and a comparison has one operator at most. -/
inductive Derives : Phrase → List Token → Expr → Prop where
  | conjunct {ts e} (h : Derives .conjunction ts e) : Derives .disjunction ts e
  | or {ts us l r} (hl : Derives .disjunction ts l) (hr : Derives .conjunction us r) :
      Derives .disjunction (ts ++ .symbol .or :: us) (.or l r)
  | unit {ts e} (h : Derives .unary ts e) : Derives .conjunction ts e
  | and {ts us l r} (hl : Derives .conjunction ts l) (hr : Derives .unary us r) :
      Derives .conjunction (ts ++ .symbol .and :: us) (.and l r)
  | not {ts e} (h : Derives .unary ts e) : Derives .unary (.symbol .not :: ts) (.not e)
  | compared {ts e} (h : Derives .comparison ts e) : Derives .unary ts e
  | alone {ts e} (h : Derives .operand ts e) : Derives .comparison ts e
  | compare {ts us l r} (op : Comparison) (hl : Derives .operand ts l) (hr : Derives .operand us r) :
      Derives .comparison (ts ++ .symbol (.compare op) :: us) (.compare op l r)
  | group {ts e} (h : Derives .disjunction ts e) :
      Derives .operand (.symbol .opening :: ts ++ [.symbol .closing]) e
  | text (s verbatim : String) : Derives .operand [.text s verbatim] (.literal (.text s))
  | number {verbatim v} (h : numberValue verbatim = .ok v) :
      Derives .operand [.number verbatim] (.literal v)
  | keyword {word v} (h : (word, v) ∈ literals) : Derives .operand [.word word] (.literal v)
  | word {path} (h : ∀ v, (path, v) ∉ literals) : Derives .operand [.word path] (.path path)
  | placeholder (path verbatim : String) : Derives .operand [.placeholder path verbatim] (.path path)

theorem keyword?_eq_some {word : String} {v : Value} :
    keyword? word = some v ↔ (word, v) ∈ literals := by
  unfold keyword? literals
  grind

theorem keyword?_eq_none {word : String} :
    keyword? word = none ↔ ∀ v, (word, v) ∉ literals := by
  simp only [Option.eq_none_iff_forall_ne_some, ne_eq, keyword?_eq_some]

variable {ts us rest : List Token} {e l r : Expr} {phrase : Phrase}

/-! ## What readers come to -/

/-- What a reader may come to in front of tokens: a tree for the first of them, a fault of syntax, or a
number among them that has too many digits. -/
def Outcome (P : List Token → Expr → Prop) (ts : List Token) :
    Except ReadFault (Expr × List Token) → Prop
  | .ok (e, rest) => ∃ used, ts = used ++ rest ∧ P used e
  | .error (.badSyntax _) => True
  | .error (.longInteger digits) =>
    ∃ verbatim, .number verbatim ∈ ts ∧ numberValue verbatim = .error (.longInteger digits)

namespace Outcome

variable {P Q : List Token → Expr → Prop} {x : Except ReadFault (Expr × List Token)}
  {f : Expr × List Token → Except ReadFault (Expr × List Token)}

/-- What was read first stands in front of what is read next. -/
theorem bind (h : Outcome P ts x)
    (hf : ∀ used e rest, P used e → Outcome (fun more => Q (used ++ more)) rest (f (e, rest))) :
    Outcome Q ts (x >>= f) := by
  match x with
  | .error (.badSyntax _) => trivial
  | .error (.longInteger _) => exact h
  | .ok (e, rest) =>
    obtain ⟨used, rfl, he⟩ := h
    have hnext := hf used e rest he
    change Outcome Q (used ++ rest) (f (e, rest))
    revert hnext
    match f (e, rest) with
    | .error (.badSyntax _) => exact fun _ => trivial
    | .error (.longInteger _) =>
      rintro ⟨verbatim, hmem, hvalue⟩
      exact ⟨verbatim, List.mem_append_right used hmem, hvalue⟩
    | .ok (e', rest') =>
      rintro ⟨more, rfl, he'⟩
      exact ⟨used ++ more, (List.append_assoc ..).symm, he'⟩

/-- A token only leads up to what is read. -/
theorem behind {t : Token} (h : Outcome (fun more => Q (t :: more)) ts x) : Outcome Q (t :: ts) x := by
  match x with
  | .error (.badSyntax _) => trivial
  | .error (.longInteger _) =>
    obtain ⟨verbatim, hmem, hvalue⟩ := h
    exact ⟨verbatim, List.mem_cons_of_mem t hmem, hvalue⟩
  | .ok (e, rest) =>
    obtain ⟨used, rfl, he⟩ := h
    exact ⟨t :: used, rfl, he⟩

/-- A phrase that was read is left as it is. -/
theorem stop (h : Derives phrase ts e) (rest : List Token) :
    Outcome (fun more => Derives phrase (ts ++ more)) rest (.ok (e, rest)) :=
  ⟨[], rfl, by simpa only [List.append_nil] using h⟩

end Outcome

/-- With some fuel the readers read phrases. The tails of connectives go on with a phrase that was read
before. -/
structure Sound (fuel : Nat) : Prop where
  or : ∀ ts, Outcome (Derives .disjunction) ts (readOr fuel ts)
  orTail : ∀ {ts l}, Derives .disjunction ts l →
    ∀ rest, Outcome (fun more => Derives .disjunction (ts ++ more)) rest (readOrTail fuel l rest)
  and : ∀ ts, Outcome (Derives .conjunction) ts (readAnd fuel ts)
  andTail : ∀ {ts l}, Derives .conjunction ts l →
    ∀ rest, Outcome (fun more => Derives .conjunction (ts ++ more)) rest (readAndTail fuel l rest)
  unary : ∀ ts, Outcome (Derives .unary) ts (readUnary fuel ts)
  operand : ∀ ts, Outcome (Derives .operand) ts (readOperand fuel ts)

section

variable {fuel : Nat} (hfuel : ∀ less, fuel = less + 1 → Sound less)
include hfuel

theorem readOr_outcome (ts : List Token) : Outcome (Derives .disjunction) ts (readOr fuel ts) := by
  cases fuel with
  | zero => trivial
  | succ less =>
    have hless := hfuel less rfl
    exact (hless.and ts).bind fun used l rest hl => hless.orTail (.conjunct hl) rest

theorem readOrTail_outcome (hl : Derives .disjunction ts l) (rest : List Token) :
    Outcome (fun more => Derives .disjunction (ts ++ more)) rest (readOrTail fuel l rest) := by
  unfold readOrTail
  split
  · rename_i less rest
    have hless := hfuel less rfl
    refine .behind ((hless.and rest).bind fun used r rest hr => ?_)
    have hmore := hless.orTail (.or hl hr) rest
    simpa only [List.append_assoc, List.cons_append] using hmore
  · exact .stop hl rest

theorem readAnd_outcome (ts : List Token) : Outcome (Derives .conjunction) ts (readAnd fuel ts) := by
  cases fuel with
  | zero => trivial
  | succ less =>
    have hless := hfuel less rfl
    exact (hless.unary ts).bind fun used l rest hl => hless.andTail (.unit hl) rest

theorem readAndTail_outcome (hl : Derives .conjunction ts l) (rest : List Token) :
    Outcome (fun more => Derives .conjunction (ts ++ more)) rest (readAndTail fuel l rest) := by
  unfold readAndTail
  split
  · rename_i less rest
    have hless := hfuel less rfl
    refine .behind ((hless.unary rest).bind fun used r rest hr => ?_)
    have hmore := hless.andTail (.and hl hr) rest
    simpa only [List.append_assoc, List.cons_append] using hmore
  · exact .stop hl rest

theorem readUnary_outcome (ts : List Token) : Outcome (Derives .unary) ts (readUnary fuel ts) := by
  unfold readUnary
  split
  · trivial
  · rename_i less rest
    refine .behind (((hfuel less rfl).unary rest).bind fun used e rest he => ?_)
    exact .stop (.not he) rest
  · rename_i less _
    have hless := hfuel less rfl
    refine (hless.operand ts).bind fun used l rest hl => ?_
    dsimp only
    split
    · rename_i op rest
      refine .behind ((hless.operand rest).bind fun used' r rest hr => ?_)
      have hmore := Outcome.stop (.compared (.compare op hl hr)) rest
      simp only [List.append_assoc, List.cons_append] at hmore
      exact hmore
    · exact .stop (.compared (.alone hl)) _

theorem readOperand_outcome (ts : List Token) :
    Outcome (Derives .operand) ts (readOperand fuel ts) := by
  unfold readOperand
  split
  · trivial
  · trivial
  · exact .behind (.stop (.placeholder _ _) _)
  · exact .behind (.stop (.text _ _) _)
  · rename_i verbatim rest _
    match hv : numberValue verbatim with
    | .ok v => exact .behind (.stop (.number hv) rest)
    | .error (.badSyntax _) => trivial
    | .error (.longInteger digits) =>
      have hlong : Outcome (Derives .operand) (.number verbatim :: rest)
          (.error (.longInteger digits)) := ⟨verbatim, List.mem_cons_self, hv⟩
      exact hlong
  · split
    · exact .behind (.stop (.keyword (keyword?_eq_some.1 ‹_›)) _)
    · exact .behind (.stop (.word (keyword?_eq_none.1 ‹_›)) _)
  · rename_i less rest
    refine .behind (((hfuel less rfl).or rest).bind fun used e rest he => ?_)
    dsimp only
    split
    · rename_i more
      have hmore := Outcome.stop (.group he) more
      simp only [List.append_assoc, List.cons_append, List.nil_append] at hmore
      exact .behind hmore
    · trivial
  · trivial

theorem sound_of_less : Sound fuel where
  or := readOr_outcome hfuel
  orTail := readOrTail_outcome hfuel
  and := readAnd_outcome hfuel
  andTail := readAndTail_outcome hfuel
  unary := readUnary_outcome hfuel
  operand := readOperand_outcome hfuel

end

theorem sound (fuel : Nat) : Sound fuel := by
  induction fuel with
  | zero => exact sound_of_less nofun
  | succ fuel ih => exact sound_of_less fun less hless => Nat.succ.inj hless ▸ ih

/-! ## What readers take -/

/-- The rest does not go on with a comparison. -/
def NoComparison (rest : List Token) : Prop := ∀ op more, rest ≠ .symbol (.compare op) :: more

/-- With fuel for its tokens a phrase in front of a rest is read as its tree. The readers of
connectives come to their tails, with what is then left of the fuel. -/
def Taken : Phrase → List Token → Expr → Prop
  | .disjunction, ts, e => ∀ rest, NoComparison rest → (∀ more, rest ≠ .symbol .and :: more) →
      ∃ spent ≤ ts.length + 1, ∀ fuel, 2 * ts.length + 3 ≤ fuel →
        readOr fuel (ts ++ rest) = readOrTail (fuel - spent) e rest
  | .conjunction, ts, e => ∀ rest, NoComparison rest →
      ∃ spent ≤ ts.length + 1, ∀ fuel, 2 * ts.length + 2 ≤ fuel →
        readAnd fuel (ts ++ rest) = readAndTail (fuel - spent) e rest
  | .unary, ts, e => ∀ rest, NoComparison rest →
      ∀ fuel, 2 * ts.length + 1 ≤ fuel → readUnary fuel (ts ++ rest) = .ok (e, rest)
  | .comparison, ts, e => ∀ rest, NoComparison rest →
      ∀ fuel, 2 * ts.length + 1 ≤ fuel → readUnary fuel (ts ++ rest) = .ok (e, rest)
  | .operand, ts, e => ∀ rest,
      ∀ fuel, 2 * ts.length ≤ fuel → readOperand fuel (ts ++ rest) = .ok (e, rest)

theorem exists_eq_succ {n fuel : Nat} (h : n < fuel) : ∃ less, fuel = less + 1 ∧ n ≤ less :=
  ⟨fuel - 1, by omega, by omega⟩

theorem readOrTail_stop {fuel : Nat} (h : ∀ more, rest ≠ .symbol .or :: more) :
    readOrTail fuel e rest = .ok (e, rest) := by
  unfold readOrTail
  split
  · exact absurd rfl (h _)
  · rfl

theorem readAndTail_stop {fuel : Nat} (h : ∀ more, rest ≠ .symbol .and :: more) :
    readAndTail fuel e rest = .ok (e, rest) := by
  unfold readAndTail
  split
  · exact absurd rfl (h _)
  · rfl

/-- What an operand begins with is no negation. -/
theorem readUnary_operand {fuel : Nat} : readOperand fuel ts = .ok (e, rest) →
    readUnary (fuel + 1) ts = match rest with
      | .symbol (.compare op) :: rest => do
        let (right, rest) ← readOperand fuel rest
        return (.compare op e right, rest)
      | rest => return (e, rest) := by
  intro h
  unfold readUnary
  split
  · contradiction
  · rename_i hfuel
    cases hfuel
    cases fuel <;> simp [readOperand] at h
  · rename_i hfuel _
    cases hfuel
    rw [h]
    rfl

theorem taken_conjunct (h : Taken .conjunction ts e) : Taken .disjunction ts e := by
  intro rest hrest hand
  obtain ⟨spent, -, hread⟩ := h rest hrest
  refine ⟨1, by omega, fun fuel hfuel => ?_⟩
  obtain ⟨less, rfl, hless⟩ := exists_eq_succ hfuel
  rw [readOr, hread less hless, readAndTail_stop hand]
  rfl

theorem taken_or (hl : Taken .disjunction ts l) (hr : Taken .conjunction us r) :
    Taken .disjunction (ts ++ .symbol .or :: us) (.or l r) := by
  intro rest hrest hand
  obtain ⟨before, hbefore, hleft⟩ := hl (.symbol .or :: (us ++ rest)) nofun nofun
  obtain ⟨inside, -, hright⟩ := hr rest hrest
  simp only [List.length_append, List.length_cons, List.append_assoc, List.cons_append]
  refine ⟨before + 1, by omega, fun fuel hfuel => ?_⟩
  obtain ⟨less, hless, hus⟩ : ∃ less, fuel - before = less + 1 ∧ 2 * us.length + 2 ≤ less :=
    exists_eq_succ (by omega)
  have hspent : fuel - (before + 1) = less := by omega
  rw [hleft fuel (by omega), hless, readOrTail, hright less hus, readAndTail_stop hand, hspent]
  rfl

theorem taken_unit (h : Taken .unary ts e) : Taken .conjunction ts e := by
  intro rest hrest
  refine ⟨1, by omega, fun fuel hfuel => ?_⟩
  obtain ⟨less, rfl, hless⟩ := exists_eq_succ hfuel
  rw [readAnd, h rest hrest less hless]
  rfl

theorem taken_and (hl : Taken .conjunction ts l) (hr : Taken .unary us r) :
    Taken .conjunction (ts ++ .symbol .and :: us) (.and l r) := by
  intro rest hrest
  obtain ⟨before, hbefore, hleft⟩ := hl (.symbol .and :: (us ++ rest)) nofun
  simp only [List.length_append, List.length_cons, List.append_assoc, List.cons_append]
  refine ⟨before + 1, by omega, fun fuel hfuel => ?_⟩
  obtain ⟨less, hless, hus⟩ : ∃ less, fuel - before = less + 1 ∧ 2 * us.length + 1 ≤ less :=
    exists_eq_succ (by omega)
  have hspent : fuel - (before + 1) = less := by omega
  rw [hleft fuel (by omega), hless, readAndTail, hr rest hrest less hus, hspent]
  rfl

theorem taken_not (h : Taken .unary ts e) : Taken .unary (.symbol .not :: ts) (.not e) := by
  intro rest hrest fuel hfuel
  obtain ⟨less, rfl, hless⟩ := exists_eq_succ hfuel
  rw [List.length_cons] at hless
  rw [List.cons_append, readUnary, h rest hrest less (by omega)]
  rfl

theorem taken_alone (h : Taken .operand ts e) : Taken .comparison ts e := by
  intro rest hrest fuel hfuel
  obtain ⟨less, rfl, hless⟩ := exists_eq_succ hfuel
  rw [readUnary_operand (h rest less hless)]
  split
  · exact absurd rfl (hrest _ _)
  · rfl

theorem taken_compare (op : Comparison) (hl : Taken .operand ts l) (hr : Taken .operand us r) :
    Taken .comparison (ts ++ .symbol (.compare op) :: us) (.compare op l r) := by
  intro rest _ fuel hfuel
  obtain ⟨less, rfl, hless⟩ := exists_eq_succ hfuel
  simp only [List.length_append, List.length_cons] at hless
  simp only [List.append_assoc, List.cons_append]
  rw [readUnary_operand (hl _ less (by omega))]
  dsimp only
  rw [hr rest less (by omega)]
  rfl

theorem taken_group (h : Taken .disjunction ts e) :
    Taken .operand (.symbol .opening :: ts ++ [.symbol .closing]) e := by
  intro rest fuel hfuel
  obtain ⟨spent, -, hread⟩ := h (.symbol .closing :: rest) nofun nofun
  simp only [List.length_append, List.length_cons, List.length_nil] at hfuel
  obtain ⟨less, rfl, hless⟩ : ∃ less, fuel = less + 1 ∧ 2 * ts.length + 3 ≤ less :=
    exists_eq_succ (by omega)
  simp only [List.cons_append, List.append_assoc, List.nil_append]
  have hstop : ∀ more, Token.symbol .closing :: rest ≠ .symbol .or :: more := nofun
  rw [readOperand, hread less hless, readOrTail_stop hstop]
  rfl

/-- An operand of one token is read with any fuel at all. -/
theorem taken_token {t : Token}
    (h : ∀ less rest, readOperand (less + 1) (t :: rest) = .ok (e, rest)) : Taken .operand [t] e := by
  intro rest fuel hfuel
  obtain ⟨less, rfl, -⟩ := exists_eq_succ hfuel
  exact h less rest

/-- What the grammar derives the readers take. -/
theorem Derives.taken (h : Derives phrase ts e) : Taken phrase ts e := by
  induction h with
  | conjunct _ ih => exact taken_conjunct ih
  | or _ _ ihl ihr => exact taken_or ihl ihr
  | unit _ ih => exact taken_unit ih
  | and _ _ ihl ihr => exact taken_and ihl ihr
  | not _ ih => exact taken_not ih
  | compared _ ih => exact ih
  | alone _ ih => exact taken_alone ih
  | compare op _ _ ihl ihr => exact taken_compare op ihl ihr
  | group _ ih => exact taken_group ih
  | text s verbatim => exact taken_token fun _ _ => rfl
  | number h =>
    refine taken_token fun less rest => ?_
    rw [readOperand, h]
    · rfl
    · nofun
  | keyword h =>
    refine taken_token fun less rest => ?_
    simp only [readOperand, keyword?_eq_some.2 h]
  | word h =>
    refine taken_token fun less rest => ?_
    simp only [readOperand, keyword?_eq_none.2 h]
  | placeholder path verbatim => exact taken_token fun _ _ => rfl

/-! ## Numbers -/

/-- A numeral of no more digits than an integer may have. -/
def Numeral (verbatim : String) : Prop :=
  takeNumber? verbatim.toList = some (verbatim.toList, []) ∧
    verbatim.toList.countP Text.isDecimal ≤ Number.digitLimit

/-- Behind its sign a numeral without a point is all digits. -/
theorem decimal_of_numeral {cs : List Char} (h : takeNumber? cs = some (cs, [])) (hpoint : '.' ∉ cs) :
    ∀ c ∈ (Number.takeSign cs).2, Text.isDecimal c = true := by
  unfold takeNumber? at h
  split at h
  rename_i sign tail hsign
  have htail : (∀ c ∈ tail, c ∈ cs) ∧ ∀ c ∈ (Number.takeSign cs).2, c ∈ tail := by
    split at hsign <;> cases hsign
    · exact ⟨fun c hc => List.mem_cons_of_mem _ hc, fun c hc => hc⟩
    · refine ⟨fun c hc => hc, fun c hc => ?_⟩
      unfold Number.takeSign at hc
      split at hc
      · exact List.mem_cons_of_mem _ hc
      · exact List.mem_cons_of_mem _ hc
      · exact hc
  have hwhole : tail.drop (tail.takeWhile Text.isDecimal).length = [] := by
    dsimp only at h
    split at h
    · cases h
    · split at h
      · rename_i after hdrop
        have hmem : '.' ∈ tail := List.mem_of_mem_drop (hdrop ▸ List.mem_cons_self)
        exact absurd (htail.1 _ hmem) hpoint
      · exact (Prod.mk.inj (Option.some.inj h)).2
  intro c hc
  have hmem := htail.2 c hc
  rw [← List.take_append_drop (tail.takeWhile Text.isDecimal).length tail, hwhole,
    List.append_nil, ← List.prefix_iff_eq_take.1 (List.takeWhile_prefix _)] at hmem
  exact List.mem_takeWhile_imp hmem

theorem Numeral.value {verbatim : String} (h : Numeral verbatim) :
    ∃ v, numberValue verbatim = .ok v := by
  obtain ⟨hnumeral, hdigits⟩ := h
  unfold numberValue
  dsimp only
  by_cases hpoint : '.' ∈ verbatim.toList
  · rw [if_pos (List.contains_iff_mem.2 hpoint)]
    exact ⟨_, rfl⟩
  · have hlength : (Number.takeSign verbatim.toList).2.length ≤ Number.digitLimit := by
      rw [← List.countP_eq_length.2 (decimal_of_numeral hnumeral hpoint)]
      exact (Number.takeSign_sublist _).countP_le.trans hdigits
    rw [if_neg (mt List.contains_iff_mem.1 hpoint), if_neg (by omega)]
    exact ⟨_, rfl⟩

/-! ## The reader and the grammar -/

/-- The tokens make up a condition, or they have a fault of syntax, or a number among them is too
long. -/
theorem ofTokens_cases (ts : List Token) :
    (∃ e, ofTokens ts = .ok e ∧ Derives .disjunction ts e) ∨
    (∃ fault, ofTokens ts = .error (.badSyntax fault)) ∨
    ∃ verbatim digits, ofTokens ts = .error (.longInteger digits) ∧ .number verbatim ∈ ts ∧
      numberValue verbatim = .error (.longInteger digits) := by
  unfold ofTokens
  split
  · exact .inr (.inl ⟨_, rfl⟩)
  · have hread := (sound (8 * ts.length + 8)).or ts
    match h : readOr (8 * ts.length + 8) ts with
    | .error (.badSyntax fault) => exact .inr (.inl ⟨fault, rfl⟩)
    | .error (.longInteger digits) =>
      rw [h] at hread
      obtain ⟨verbatim, hmem, hvalue⟩ := hread
      exact .inr (.inr ⟨verbatim, digits, rfl, hmem, hvalue⟩)
    | .ok (e, []) =>
      rw [h] at hread
      obtain ⟨used, rfl, he⟩ := hread
      exact .inl ⟨e, rfl, (List.append_nil used).symm ▸ he⟩
    | .ok (e, token :: rest) => exact .inr (.inl ⟨_, rfl⟩)

theorem Derives.ofTokens_eq (h : Derives .disjunction ts e) : ofTokens ts = .ok e := by
  obtain ⟨spent, -, hread⟩ := h.taken [] nofun nofun
  rw [List.append_nil] at hread
  have hstop : ∀ more, ([] : List Token) ≠ .symbol .or :: more := nofun
  have hor : readOr (8 * ts.length + 8) ts = .ok (e, []) := by
    rw [hread _ (by omega), readOrTail_stop hstop]
  unfold ofTokens
  split
  · exact nomatch hor
  · rw [hor]
    rfl

/-- The reader accepts exactly what the grammar derives. A condition has one tree, and tokens that make
up none have a fault of syntax. -/
theorem ofTokens_iff_derives (ts : List Token) (hnumerals : ∀ s, .number s ∈ ts → Numeral s) :
    (∀ e, ofTokens ts = .ok e ↔ Derives .disjunction ts e) ∧
    (∀ e e', Derives .disjunction ts e → Derives .disjunction ts e' → e = e') ∧
    ((∀ e, ¬ Derives .disjunction ts e) → ∃ fault, ofTokens ts = .error (.badSyntax fault)) := by
  have hunique : ∀ e e', Derives .disjunction ts e → Derives .disjunction ts e' → e = e' := by
    intro e e' h h'
    exact Except.ok.inj (h.ofTokens_eq.symm.trans h'.ofTokens_eq)
  obtain ⟨e, hok, he⟩ | ⟨fault, hbad⟩ | ⟨verbatim, digits, -, hmem, hlong⟩ := ofTokens_cases ts
  · refine ⟨fun e' => ⟨fun h => ?_, Derives.ofTokens_eq⟩, hunique, fun hnone => absurd he (hnone e)⟩
    obtain rfl : e = e' := Except.ok.inj (hok.symm.trans h)
    exact he
  · refine ⟨fun e' => ⟨fun h => ?_, Derives.ofTokens_eq⟩, hunique, fun _ => ⟨fault, hbad⟩⟩
    exact nomatch hbad.symm.trans h
  · obtain ⟨v, hv⟩ := (hnumerals _ hmem).value
    exact nomatch hv.symm.trans hlong

/-- The tokens of `a || b && !c == 10`. -/
def mixedTokens : List Token :=
  [.word "a", .symbol .or, .word "b", .symbol .and, .symbol .not, .word "c",
    .symbol (.compare .equal), .number "10"]

/-- A conjunction binds tighter than a disjunction, and a negation covers the comparison. -/
theorem mixedTokens_derived :
    (∀ s, .number s ∈ mixedTokens → Numeral s) ∧
    Derives .disjunction mixedTokens
      (.or (.path "a") (.and (.path "b") (.not (.compare .equal (.path "c") (.literal (.int 10)))))) := by
  have hnumerals : ∀ s, .number s ∈ mixedTokens → Numeral s := by
    intro s hs
    obtain rfl : s = "10" := by simpa [mixedTokens] using hs
    exact ⟨by decide, by decide⟩
  exact ⟨hnumerals, ((ofTokens_iff_derives mixedTokens hnumerals).1 _).1 rfl⟩

end Automation.Condition
