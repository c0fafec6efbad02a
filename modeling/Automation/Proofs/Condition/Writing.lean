import Automation.Proofs.Condition.Grammar
import Automation.Proofs.Json.Number
import Automation.Proofs.Template.Cut

/-!
# Writing conditions

`Written` says which tokens a tree may be written with: a literal or a path as one token, an operator
between its operands, and an operand that is more than one token in parentheses. `Spaced` puts any white
space between the tokens, or none.

What is written so is read as the tree that it was written from (`read_written`). At each place it is
only a matter of what stands behind a token: behind an operand there is nothing, white space or a symbol
that does not begin an operand (`EndsOperand`), and behind any other symbol there is no equality sign.
-/

namespace Automation.Condition

open Text (isSpace isDecimal)

/-! ## Trees that can be written -/

/-- A value that a literal can write: no float, list or object, and no integer of too many digits. -/
def IsLiteral : Value → Prop
  | .null | .bool _ | .text _ => True
  | .int n => (Nat.toDigits 10 n.natAbs).length ≤ Number.digitLimit
  | .float _ | .list _ | .object _ => False

/-- A tree of literals and paths. -/
def Expr.Writable : Expr → Prop
  | .literal v => IsLiteral v
  | .path p => Template.IsPath p.toList
  | .not e => e.Writable
  | .and l r | .or l r | .compare _ l r => l.Writable ∧ r.Writable

/-! ## Tokens of a tree -/

/-- A quote that a text may stand in. -/
def IsQuote (quote : Char) : Prop := quote = '"' ∨ quote = '\''

/-- The characters of a text between quotes, with a backslash before each quote and backslash. -/
def escaped (quote : Char) : List Char → List Char
  | [] => []
  | c :: cs => if c = quote ∨ c = '\\' then '\\' :: c :: escaped quote cs else c :: escaped quote cs

/-- A text in quotes. -/
def quoted (quote : Char) (s : String) : String :=
  String.ofList (quote :: escaped quote s.toList ++ [quote])

/-- A token that writes a tree by itself. -/
inductive Atom : Token → Expr → Prop where
  | text {quote : Char} (hquote : IsQuote quote) (s : String) :
      Atom (.text s (quoted quote s)) (.literal (.text s))
  | int {n : Int} (h : (Nat.toDigits 10 n.natAbs).length ≤ Number.digitLimit) :
      Atom (.number (Number.writeInt n)) (.literal (.int n))
  | keyword {word : String} {v : Value} (h : (word, v) ∈ literals) : Atom (.word word) (.literal v)
  | word {path : String} (h : Template.IsPath path.toList) (hnone : ∀ v, (path, v) ∉ literals) :
      Atom (.word path) (.path path)
  | path {path verbatim : String} (h : Template.IsPlaceholder path verbatim.toList) :
      Atom (.placeholder path verbatim) (.path path)

/-- Where a tree is written: on its own, or as an operand. -/
inductive Place where
  | whole
  | operand

/-- The tokens write the tree. -/
inductive Written : Place → List Token → Expr → Prop where
  | atom {place t e} (h : Atom t e) : Written place [t] e
  | group {place ts e} (h : Written .whole ts e) :
      Written place (.symbol .opening :: ts ++ [.symbol .closing]) e
  | not {ts e} (h : Written .operand ts e) : Written .whole (.symbol .not :: ts) (.not e)
  | and {ts us l r} (hl : Written .operand ts l) (hr : Written .operand us r) :
      Written .whole (ts ++ .symbol .and :: us) (.and l r)
  | or {ts us l r} (hl : Written .operand ts l) (hr : Written .operand us r) :
      Written .whole (ts ++ .symbol .or :: us) (.or l r)
  | compare (op : Comparison) {ts us l r} (hl : Written .operand ts l) (hr : Written .operand us r) :
      Written .whole (ts ++ .symbol (.compare op) :: us) (.compare op l r)

/-- The tokens one after another, with white space, or none, around each. -/
inductive Spaced : List Token → List Char → Prop where
  | done {gap} (hgap : ∀ c ∈ gap, isSpace c) : Spaced [] gap
  | token {gap t ts cs} (hgap : ∀ c ∈ gap, isSpace c) (hrest : Spaced ts cs) :
      Spaced (t :: ts) (gap ++ (t.verbatim.toList ++ cs))

variable {place : Place} {ts us : List Token} {t : Token} {e : Expr} {cs rest : List Char} {c : Char}

/-! ### Every tree can be written -/

theorem Atom.of_literal {v : Value} (h : IsLiteral v) : ∃ t, Atom t (.literal v) := by
  cases v with
  | null => exact ⟨.word "null", .keyword (by simp [literals])⟩
  | bool b => cases b with
    | true => exact ⟨.word "true", .keyword (by simp [literals])⟩
    | false => exact ⟨.word "false", .keyword (by simp [literals])⟩
  | int n => exact ⟨_, .int h⟩
  | text s => exact ⟨_, .text (.inl rfl) s⟩
  | float | list | object => exact h.elim

theorem Atom.of_path {path : String} (h : Template.IsPath path.toList) : ∃ t, Atom t (.path path) :=
  ⟨.placeholder path (String.ofList ('\x7b' :: '\x7b' :: path.toList ++ ['\x7d', '\x7d'])),
    .path ⟨[], [], h, nofun, nofun, by simp⟩⟩

theorem Expr.Writable.exists_written (h : e.Writable) : ∃ ts, Written .whole ts e := by
  induction e with
  | literal v => exact (Atom.of_literal h).imp' ([·]) fun _ => .atom
  | path p => exact (Atom.of_path h).imp' ([·]) fun _ => .atom
  | not e ih =>
    obtain ⟨ts, hts⟩ := ih h
    exact ⟨_, .not (.group hts)⟩
  | and l r ihl ihr =>
    obtain ⟨ts, hts⟩ := ihl h.1
    obtain ⟨us, hus⟩ := ihr h.2
    exact ⟨_, .and (.group hts) (.group hus)⟩
  | or l r ihl ihr =>
    obtain ⟨ts, hts⟩ := ihl h.1
    obtain ⟨us, hus⟩ := ihr h.2
    exact ⟨_, .or (.group hts) (.group hus)⟩
  | compare op l r ihl ihr =>
    obtain ⟨ts, hts⟩ := ihl h.1
    obtain ⟨us, hus⟩ := ihr h.2
    exact ⟨_, .compare op (.group hts) (.group hus)⟩

/-! ### What is written is derived -/

/-- The value of an integer's text. -/
theorem numberValue_writeInt {n : Int} (h : (Nat.toDigits 10 n.natAbs).length ≤ Number.digitLimit) :
    numberValue (Number.writeInt n) = .ok (.int n) := by
  have hdigits := Number.toDigits_digits n.natAbs
  have hne := Nat.toDigits_ne_nil (b := 10) (n := n.natAbs)
  have hsign : Number.takeSign (Number.writeInt n).toList =
      (decide (n < 0), Nat.toDigits 10 n.natAbs) := by
    rw [Json.writeInt_toList]
    by_cases hn : n < 0
    · rw [decide_eq_true hn]
      rfl
    · rw [decide_eq_false hn]
      obtain ⟨d, ds, hds⟩ := List.exists_cons_of_ne_nil hne
      have hd := hdigits d (hds ▸ List.mem_cons_self)
      rw [hds]
      change Number.takeSign (d :: ds) = _
      unfold Number.takeSign
      split <;> simp_all [Text.isLatinDigit]
  have hpoint : (Number.writeInt n).toList.contains '.' = false := by
    rw [Json.writeInt_toList, Bool.eq_false_iff, ne_eq, List.contains_iff_mem, List.mem_append]
    rintro (hsign | hdigit)
    · by_cases hn : n < 0 <;> simp [hn, Json.signText] at hsign
    · exact absurd (hdigits _ hdigit) (by decide)
  unfold numberValue
  simp only [hpoint, hsign, Bool.false_eq_true, if_false]
  rw [if_neg (by omega), Text.natOfDigits?_toDigits]
  simp only [decide_eq_true_eq, Option.getD_some]
  congr 2
  split <;> omega

theorem Atom.derives (h : Atom t e) : Derives .operand [t] e := by
  cases h with
  | text _ s => exact .text s _
  | int h => exact .number (numberValue_writeInt h)
  | keyword h => exact .keyword h
  | word _ hnone => exact .word hnone
  | path => exact .placeholder _ _

/-- The phrase that stands at a place. -/
def Place.phrase : Place → Phrase
  | .whole => .disjunction
  | .operand => .operand

theorem Derives.loosen (h : Derives .operand ts e) : Derives place.phrase ts e :=
  match place with
  | .whole => .conjunct (.unit (.compared (.alone h)))
  | .operand => h

theorem Written.derives (h : Written place ts e) : Derives place.phrase ts e := by
  induction h with
  | atom h => exact h.derives.loosen
  | group _ ih => exact (Derives.group ih).loosen
  | not _ ih => exact .conjunct (.unit (.not (.compared (.alone ih))))
  | and _ _ ihl ihr =>
    exact .conjunct (.and (.unit (.compared (.alone ihl))) (.compared (.alone ihr)))
  | or _ _ ihl ihr =>
    exact .or (.conjunct (.unit (.compared (.alone ihl)))) (.unit (.compared (.alone ihr)))
  | compare op _ _ ihl ihr => exact .conjunct (.unit (.compared (.compare op ihl ihr)))

/-! ## Cutting what is written -/

/-- What may stand behind an operand: nothing, white space, or a symbol that begins none. -/
def EndsOperand (rest : List Char) : Prop :=
  ∀ c ∈ rest.head?, isSpace c = true ∨ c ∈ ['=', '!', '<', '>', '&', '|', ')']

theorem EndsOperand.not_decimal (h : EndsOperand rest) : ∀ c ∈ rest.head?, isDecimal c = false := by
  intro c hc
  rcases h c hc with hspace | hmem
  · exact Text.isDecimal_of_isSpace hspace
  · have hall : ∀ c ∈ ['=', '!', '<', '>', '&', '|', ')'], isDecimal c = false := by
      simp only [List.forall_mem_cons]
      exact ⟨rfl, rfl, rfl, rfl, rfl, rfl, rfl, nofun⟩
    exact hall c hmem

theorem EndsOperand.stops (h : EndsOperand rest) : Template.Stops rest := by
  intro c hc
  rcases h c hc with hspace | hmem
  · refine ⟨Template.isNameChar_of_isSpace hspace, ?_⟩
    rintro rfl
    exact absurd hspace (by decide)
  · have hname : ∀ c ∈ ['=', '!', '<', '>', '&', '|', ')'], Template.isNameChar c = false := by
      simp only [List.forall_mem_cons]
      exact ⟨rfl, rfl, rfl, rfl, rfl, rfl, rfl, nofun⟩
    refine ⟨hname c hmem, ?_⟩
    rintro rfl
    exact absurd hmem (by decide)

/-! ### What a text does not begin with -/

theorem takePlaceholder?_none (h : c ≠ '\x7b') : Template.takePlaceholder? (c :: cs) = none := by
  unfold Template.takePlaceholder?
  split
  · rename_i heq
    exact absurd (List.cons.inj heq).1 h
  · rfl

theorem takeNumber?_none (hsign : c ≠ '-') (hdigit : isDecimal c = false) :
    takeNumber? (c :: cs) = none := by
  unfold takeNumber?
  split
  rename_i hpair
  split at hpair
  · rename_i heq
    exact absurd (List.cons.inj heq).1 hsign
  · cases hpair
    simp [hdigit]

/-! ### One token -/

theorem IsQuote.ne_backslash {quote : Char} (h : IsQuote quote) : quote ≠ '\\' := by
  rcases h with rfl | rfl <;> decide

theorem IsQuote.ne_newline {quote : Char} (h : IsQuote quote) : quote ≠ '\n' := by
  rcases h with rfl | rfl <;> decide

theorem takeQuoted?_escaped {quote : Char} (hquote : IsQuote quote) (value : List Char) :
    takeQuoted? quote (escaped quote value ++ quote :: rest)
      = some (value, escaped quote value, rest) := by
  induction value with
  | nil => simp [escaped, takeQuoted?.eq_def]
  | cons c value ih =>
    rw [escaped]
    split
    · rename_i hspecial
      have hbackslash : '\\' ≠ quote := hquote.ne_backslash.symm
      have hnewline : c ≠ '\n' := by
        rcases hspecial with rfl | rfl
        · exact hquote.ne_newline
        · decide
      rw [List.cons_append, List.cons_append, takeQuoted?.eq_def]
      simp [hbackslash, hnewline, ih]
    · rename_i hplain
      rw [not_or] at hplain
      rw [List.cons_append, takeQuoted?.eq_def]
      simp [hplain.1, hplain.2, ih]

theorem takeToken?_quoted {quote : Char} (hquote : IsQuote quote) (s : String) :
    takeToken? ((quoted quote s).toList ++ rest) = some (.text s (quoted quote s), rest) := by
  have hhead : quote ≠ '\x7b' := by rcases hquote with rfl | rfl <;> decide
  have hchoice : (quote == '"' || quote == '\'') = true := by
    rcases hquote with rfl | rfl <;> rfl
  have hcs : (quoted quote s).toList ++ rest = quote :: (escaped quote s.toList ++ quote :: rest) := by
    simp [quoted]
  rw [hcs, takeToken?, takePlaceholder?_none hhead]
  simp [hchoice, takeQuoted?_escaped hquote, quoted]

/-- What stands in front of a text that is neither a placeholder nor in quotes. -/
theorem takeToken?_plain (h : c ≠ '\x7b') (hdouble : c ≠ '"') (hsingle : c ≠ '\'') :
    takeToken? (c :: cs) = match takeNumber? (c :: cs) with
      | some (digits, rest) => some (.number (String.ofList digits), rest)
      | none =>
        match takeSymbol? (c :: cs) with
        | some (s, rest) => some (.symbol s, rest)
        | none => (Template.takePath? (c :: cs)).map fun (path, rest) =>
          (.word (String.ofList path), rest) := by
  have hquote : (c == '"' || c == '\'') = false := by simp [hdouble, hsingle]
  rw [takeToken?, takePlaceholder?_none h]
  dsimp only
  rw [hquote]
  rfl

theorem takeToken?_placeholder {path verbatim : String}
    (h : Template.IsPlaceholder path verbatim.toList) :
    takeToken? (verbatim.toList ++ rest) = some (.placeholder path verbatim, rest) := by
  rw [takeToken?.eq_def, Template.takePlaceholder?_iff.mpr ⟨_, h, rfl⟩]
  simp

theorem takeSymbol?_text (s : Symbol) (h : s = .closing ∨ ∀ c ∈ rest.head?, c ≠ '=') :
    takeSymbol? (s.text.toList ++ rest) = some (s, rest) := by
  have hshort : s = .closing ∨ rest = [] ∨ ∃ c cs, rest = c :: cs ∧ c ≠ '=' := by
    refine h.imp_right fun h => ?_
    cases rest with
    | nil => exact .inl rfl
    | cons c cs => exact .inr ⟨c, cs, rfl, h c rfl⟩
  cases s with
  | compare op =>
    cases op
    case strictEqual | strictUnequal | atLeast | atMost => rfl
    all_goals
      obtain _ | rfl | ⟨c, cs, rfl, hc⟩ := hshort
      · contradiction
      · rfl
      · simp [Symbol.text, Comparison.symbol, takeSymbol?, hc]
  | not =>
    obtain _ | rfl | ⟨c, cs, rfl, hc⟩ := hshort
    · contradiction
    · rfl
    · simp [Symbol.text, takeSymbol?, hc]
  | _ => rfl

/-- The characters that a symbol may begin with. -/
def symbolStarts : List Char := ['=', '!', '<', '>', '&', '|', '(', ')']

theorem Symbol.text_start (s : Symbol) : ∃ c cs, s.text.toList = c :: cs ∧ c ∈ symbolStarts := by
  cases s with
  | compare op => cases op <;> exact ⟨_, _, rfl, by decide⟩
  | _ => exact ⟨_, _, rfl, by decide⟩

theorem takeToken?_symbol (s : Symbol) (h : s = .closing ∨ ∀ c ∈ rest.head?, c ≠ '=') :
    takeToken? (s.text.toList ++ rest) = some (.symbol s, rest) := by
  have hsymbol := takeSymbol?_text s h
  obtain ⟨c, cs, hs, hc⟩ := s.text_start
  have hplain : ∀ c ∈ symbolStarts, c ≠ '\x7b' ∧ c ≠ '"' ∧ c ≠ '\'' ∧ c ≠ '-' := by
    simp [symbolStarts]
  have hdecimal : ∀ c ∈ symbolStarts, isDecimal c = false := by
    simp only [symbolStarts, List.forall_mem_cons]
    exact ⟨rfl, rfl, rfl, rfl, rfl, rfl, rfl, rfl, nofun⟩
  obtain ⟨hbrace, hdouble, hsingle, hsign⟩ := hplain c hc
  rw [hs, List.cons_append] at hsymbol ⊢
  rw [takeToken?_plain hbrace hdouble hsingle, takeNumber?_none hsign (hdecimal c hc)]
  dsimp only
  rw [hsymbol]

/-- The digits of a number in front of what is none. -/
theorem takeNumber?_digits (negative : Bool) (n : Nat) (hrest : EndsOperand rest) :
    takeNumber? (Json.signText negative ++ Nat.toDigits 10 n ++ rest)
      = some (Json.signText negative ++ Nat.toDigits 10 n, rest) := by
  have hdigits : ∀ c ∈ Nat.toDigits 10 n, isDecimal c := by
    intro c hc
    obtain ⟨d, -, hd⟩ := Text.decimalValue?_latin (Number.toDigits_digits n c hc)
    simp [isDecimal, hd]
  have hwhole := (Template.takeWhile_run hdigits hrest.not_decimal).1
  have hne := Nat.toDigits_ne_nil (b := 10) (n := n)
  have hpoint : ∀ after, rest ≠ '.' :: after := by
    rintro after rfl
    exact (hrest.stops '.' rfl).2 rfl
  generalize Nat.toDigits 10 n = digits at *
  unfold takeNumber?
  split
  rename_i sign cs hpair
  obtain ⟨rfl, rfl⟩ : sign = Json.signText negative ∧ cs = digits ++ rest := by
    cases negative with
    | true =>
      cases hpair
      exact ⟨rfl, rfl⟩
    | false =>
      obtain ⟨d, ds, rfl⟩ := List.exists_cons_of_ne_nil hne
      split at hpair
      · rename_i heq
        obtain rfl : d = '-' := (List.cons.inj heq).1
        exact absurd (hdigits _ List.mem_cons_self) (by decide)
      · cases hpair
        exact ⟨rfl, rfl⟩
  dsimp only
  rw [hwhole, List.drop_left, if_neg (by simpa using hne)]
  split
  · exact absurd rfl (hpoint _)
  · rfl

/-- An integer begins with a sign or a digit. -/
theorem writeInt_start (n : Int) :
    ∃ c cs, (Number.writeInt n).toList = c :: cs ∧ (c = '-' ∨ Text.isLatinDigit c = true) := by
  rw [Json.writeInt_toList]
  by_cases hn : n < 0
  · rw [decide_eq_true hn]
    exact ⟨_, _, rfl, .inl rfl⟩
  · rw [decide_eq_false hn]
    obtain ⟨d, ds, hds⟩ := List.exists_cons_of_ne_nil (Nat.toDigits_ne_nil (b := 10) (n := n.natAbs))
    exact ⟨d, ds, hds, .inr (Number.toDigits_digits n.natAbs d (hds ▸ List.mem_cons_self))⟩

theorem takeToken?_int (n : Int) (hrest : EndsOperand rest) :
    takeToken? ((Number.writeInt n).toList ++ rest) = some (.number (Number.writeInt n), rest) := by
  have hnumber := takeNumber?_digits (decide (n < 0)) n.natAbs hrest
  rw [← Json.writeInt_toList] at hnumber
  obtain ⟨c, cs, hcs, hstart⟩ := writeInt_start n
  have hother (d : Char) (hsign : d ≠ '-') (hdigit : Text.isLatinDigit d = false) : c ≠ d := by
    rintro rfl
    simp [hsign, hdigit] at hstart
  rw [hcs, List.cons_append] at hnumber ⊢
  rw [takeToken?_plain (hother _ (by decide) rfl) (hother _ (by decide) rfl)
    (hother _ (by decide) rfl), hnumber, ← hcs]
  simp

theorem takeSymbol?_none (h : c ∉ symbolStarts) : takeSymbol? (c :: cs) = none := by
  unfold takeSymbol?
  split <;> simp_all [symbolStarts]

theorem isDecimal_of_isPathStart (h : Template.isPathStart c = true) : isDecimal c = false := by
  simp only [Template.isPathStart, Bool.or_eq_true, beq_iff_eq] at h
  rcases h with rfl | h
  · rfl
  · exact Text.isDecimal_of_isLatinLetter h

theorem takeToken?_word {word : String} (hpath : Template.IsPath word.toList)
    (hrest : EndsOperand rest) : takeToken? (word.toList ++ rest) = some (.word word, rest) := by
  have hword := Template.takePath?_path hpath hrest.stops
  obtain ⟨c, name, names, hcs, hstart, -⟩ := hpath
  have hother (d : Char) (hd : Template.isPathStart d = false) : c ≠ d := by
    rintro rfl
    simp [hstart] at hd
  have hsymbol : c ∉ symbolStarts := fun hmem => by
    have hall : ∀ d ∈ symbolStarts, Template.isPathStart d = false := by
      simp only [symbolStarts, List.forall_mem_cons]
      exact ⟨rfl, rfl, rfl, rfl, rfl, rfl, rfl, rfl, nofun⟩
    exact hother c (hall c hmem) rfl
  rw [hcs, List.cons_append, List.cons_append] at hword ⊢
  rw [takeToken?_plain (hother _ rfl) (hother _ rfl) (hother _ rfl),
    takeNumber?_none (hother _ rfl) (isDecimal_of_isPathStart hstart)]
  dsimp only
  rw [takeSymbol?_none hsymbol, hword, ← List.cons_append, ← hcs]
  simp

/-- The words that are literals are paths. -/
theorem isPath_of_mem_literals {word : String} {v : Value} (h : (word, v) ∈ literals) :
    Template.IsPath word.toList := by
  simp only [literals, List.mem_cons, Prod.mk.injEq, List.not_mem_nil, or_false] at h
  obtain ⟨c, name, hword, hstart, hname⟩ : ∃ c name, word.toList = c :: name ∧
      Template.isPathStart c = true ∧ name.all Template.isNameChar = true := by
    rcases h with ⟨rfl, -⟩ | ⟨rfl, -⟩ | ⟨rfl, -⟩ | ⟨rfl, -⟩ <;> exact ⟨_, _, rfl, rfl, rfl⟩
  exact ⟨c, name, [], by simpa using hword, hstart, by simpa using hname, [], nofun, rfl⟩

theorem Atom.takeToken? (h : Atom t e) (hrest : EndsOperand rest) :
    takeToken? (t.verbatim.toList ++ rest) = some (t, rest) := by
  cases h with
  | text hquote s => exact takeToken?_quoted hquote s
  | int => exact takeToken?_int _ hrest
  | keyword h => exact takeToken?_word (isPath_of_mem_literals h) hrest
  | word h => exact takeToken?_word h hrest
  | path h => exact takeToken?_placeholder h

/-- What a token begins with that is no white space and does not go on with the symbol before it. -/
def Begins (t : Token) : Prop :=
  ∃ c cs, t.verbatim.toList = c :: cs ∧ isSpace c = false ∧ c ≠ '='

theorem begins_of_isPath {path : String} (h : Template.IsPath path.toList) : Begins (.word path) := by
  obtain ⟨c, name, names, hcs, hstart, -⟩ := h
  refine ⟨c, name ++ names, hcs, ?_, ?_⟩
  · rw [Bool.eq_false_iff]
    intro hspace
    have hname := Template.isNameChar_of_isPathStart hstart
    rw [Template.isNameChar_of_isSpace hspace] at hname
    cases hname
  · rintro rfl
    exact absurd hstart (by decide)

theorem Atom.begins (h : Atom t e) : Begins t := by
  cases h with
  | @text quote hquote s =>
    refine ⟨quote, escaped quote s.toList ++ [quote], by simp [Token.verbatim, quoted], ?_, ?_⟩ <;>
      rcases hquote with rfl | rfl <;> decide
  | int =>
    obtain ⟨c, cs, hcs, hstart⟩ := writeInt_start _
    refine ⟨c, cs, hcs, ?_, ?_⟩
    · rw [Bool.eq_false_iff]
      intro hspace
      rcases hstart with rfl | hdigit
      · exact absurd hspace (by decide)
      · obtain ⟨d, -, hd⟩ := Text.decimalValue?_latin hdigit
        simpa [isDecimal, hd] using Text.isDecimal_of_isSpace hspace
    · rintro rfl
      revert hstart
      decide
  | keyword h => exact begins_of_isPath (isPath_of_mem_literals h)
  | word h => exact begins_of_isPath h
  | path h =>
    obtain ⟨before, after, -, -, -, hverbatim⟩ := h
    exact ⟨_, _, hverbatim, by decide, by decide⟩

/-! ## Reading what is written -/

/-- With any white space between them, the tokens are cut as they are. -/
def Lexed (ts : List Token) : Prop :=
  ∀ cs fuel, Spaced ts cs → cs.length ≤ fuel → tokensFrom fuel cs = .ok ts

theorem tokensFrom_gap {gap : List Char} (hgap : ∀ c ∈ gap, isSpace c) {fuel : Nat}
    (h : ∀ fuel, cs.length ≤ fuel → tokensFrom fuel cs = .ok ts)
    (hfuel : (gap ++ cs).length ≤ fuel) : tokensFrom fuel (gap ++ cs) = .ok ts := by
  induction gap generalizing fuel with
  | nil => exact h fuel hfuel
  | cons c gap ih =>
    obtain ⟨hspace, hgap⟩ := List.forall_mem_cons.mp hgap
    obtain ⟨fuel, rfl⟩ := Nat.exists_eq_add_of_lt (Nat.lt_of_lt_of_le (Nat.succ_pos _) hfuel)
    rw [Nat.zero_add, List.cons_append, tokensFrom, if_pos hspace]
    exact ih hgap (by simpa using hfuel)

theorem lexed_nil : Lexed [] := by
  intro cs fuel hspaced hfuel
  cases hspaced with
  | done hgap =>
    rw [← List.append_nil cs] at hfuel ⊢
    refine tokensFrom_gap hgap (fun fuel _ => ?_) hfuel
    cases fuel <;> rfl

/-- A token that is taken from in front of whatever is written behind it is cut. -/
theorem Lexed.cons (hstart : ∃ c cs, t.verbatim.toList = c :: cs ∧ isSpace c = false)
    (htake : ∀ {cs}, Spaced ts cs → takeToken? (t.verbatim.toList ++ cs) = some (t, cs))
    (h : Lexed ts) : Lexed (t :: ts) := by
  intro cs fuel hspaced hfuel
  cases hspaced with
  | token hgap hrest =>
    refine tokensFrom_gap hgap (fun fuel hfuel => ?_) hfuel
    have hcut := htake hrest
    obtain ⟨c, verbatim, hc, hspace⟩ := hstart
    rw [hc, List.cons_append] at hcut hfuel ⊢
    obtain ⟨fuel, rfl⟩ := Nat.exists_eq_add_of_lt (Nat.lt_of_lt_of_le (Nat.succ_pos _) hfuel)
    rw [Nat.zero_add, tokensFrom, hcut]
    simp only [hspace, Bool.false_eq_true, if_false]
    rw [h _ fuel hrest (by simp at hfuel; omega)]
    rfl

theorem Symbol.start_not_space (s : Symbol) :
    ∃ c cs, (Token.symbol s).verbatim.toList = c :: cs ∧ isSpace c = false := by
  obtain ⟨c, cs, hs, hc⟩ := s.text_start
  have hall : ∀ c ∈ symbolStarts, isSpace c = false := by
    simp only [symbolStarts, List.forall_mem_cons]
    exact ⟨rfl, rfl, rfl, rfl, rfl, rfl, rfl, rfl, nofun⟩
  exact ⟨c, cs, hs, hall c hc⟩

/-- Any symbol but an opening parenthesis may stand behind an operand. -/
theorem Spaced.endsOperand {s : Symbol} (hs : s ≠ .opening) (h : Spaced (.symbol s :: ts) cs) :
    EndsOperand cs := by
  cases h with
  | @token gap _ _ cs hgap _ =>
    intro c hc
    cases gap with
    | cons d gap =>
      obtain rfl : d = c := by simpa using hc
      exact .inl (hgap d List.mem_cons_self)
    | nil =>
      have hopening : c = '(' → s = .opening := by
        rintro rfl
        cases s with
        | compare op => cases op <;> cases hc
        | opening => rfl
        | _ => cases hc
      obtain ⟨d, verbatim, htext, hmem⟩ := s.text_start
      obtain rfl : d = c := by simpa [Token.verbatim, htext] using hc
      have hne : d ≠ '(' := fun hd => hs (hopening hd)
      exact .inr (by simpa [symbolStarts, hne] using hmem)

theorem Spaced.ne_equal (hbegins : Begins t) (h : Spaced (t :: ts) cs) :
    ∀ c ∈ cs.head?, c ≠ '=' := by
  cases h with
  | @token gap _ _ cs hgap _ =>
    intro c hc
    cases gap with
    | cons d gap =>
      obtain rfl : d = c := by simpa using hc
      rintro rfl
      exact absurd (hgap _ List.mem_cons_self) (by decide)
    | nil =>
      obtain ⟨d, verbatim, htext, -, hne⟩ := hbegins
      obtain rfl : d = c := by simpa [htext] using hc
      exact hne

/-- A symbol in front of what begins an operand. -/
theorem Lexed.symbol (s : Symbol) (hbegins : Begins t) (h : Lexed (t :: ts)) :
    Lexed (.symbol s :: t :: ts) :=
  h.cons s.start_not_space fun hspaced => takeToken?_symbol s (.inr (hspaced.ne_equal hbegins))

theorem Lexed.closing (h : Lexed ts) : Lexed (.symbol .closing :: ts) :=
  h.cons (Symbol.start_not_space _) fun _ => takeToken?_symbol .closing (.inl rfl)

theorem Written.begins (h : Written place ts e) : ∃ t more, ts = t :: more ∧ Begins t := by
  induction h with
  | atom h => exact ⟨_, _, rfl, h.begins⟩
  | group => exact ⟨_, _, rfl, '(', [], rfl, by decide, by decide⟩
  | not => exact ⟨_, _, rfl, '!', [], rfl, by decide, by decide⟩
  | and _ _ ihl | or _ _ ihl | compare _ _ _ ihl =>
    obtain ⟨t, more, rfl, hbegins⟩ := ihl
    exact ⟨t, _, rfl, hbegins⟩

theorem Lexed.before (hr : Written place ts e) (h : Lexed (ts ++ us)) (s : Symbol) :
    Lexed (.symbol s :: (ts ++ us)) := by
  obtain ⟨t, more, rfl, hbegins⟩ := hr.begins
  exact h.symbol s hbegins

/-- What is written is cut as it is, if what stands behind it may follow an operand. -/
theorem Written.lexed (h : Written place ts e) (hus : Lexed us)
    (hends : ∀ {cs}, Spaced us cs → EndsOperand cs) : Lexed (ts ++ us) := by
  induction h generalizing us with
  | atom h =>
    obtain ⟨c, cs, hc, hspace, -⟩ := h.begins
    exact hus.cons ⟨c, cs, hc, hspace⟩ fun hspaced => h.takeToken? (hends hspaced)
  | group h ih =>
    simp only [List.cons_append, List.append_assoc, List.nil_append]
    exact (ih hus.closing (Spaced.endsOperand nofun)).before h _
  | not h ih => exact (ih hus hends).before h _
  | and _ hr ihl ihr =>
    rw [List.append_assoc]
    exact ihl ((ihr hus hends).before hr _) (Spaced.endsOperand nofun)
  | or _ hr ihl ihr =>
    rw [List.append_assoc]
    exact ihl ((ihr hus hends).before hr _) (Spaced.endsOperand nofun)
  | compare _ _ hr ihl ihr =>
    rw [List.append_assoc]
    exact ihl ((ihr hus hends).before hr _) (Spaced.endsOperand nofun)

/-- White space ends an operand. -/
theorem Spaced.endsOperand_nil (h : Spaced [] cs) : EndsOperand cs := by
  cases h with
  | done hgap => exact fun c hc => .inl (hgap c (List.mem_of_mem_head? hc))

/-- However a tree is written, it is read. -/
theorem Written.read_eq {text : String} (h : Written .whole ts e) (htext : Spaced ts text.toList) :
    read text = .ok e := by
  have hlexed : Lexed ts := by
    rw [← List.append_nil ts]
    exact h.lexed lexed_nil Spaced.endsOperand_nil
  have htokens : tokens text = .ok ts := by
    simp only [tokens, hlexed _ _ htext le_rfl]
    rfl
  simp only [read, htokens]
  exact h.derives.ofTokens_eq

/-- The tokens with the same white space in front of each. -/
theorem spaced_evenly {gap : List Char} (hgap : ∀ c ∈ gap, isSpace c) (ts : List Token) :
    Spaced ts (ts.flatMap fun t => gap ++ t.verbatim.toList) := by
  induction ts with
  | nil => exact .done nofun
  | cons t ts ih =>
    rw [List.flatMap_cons, List.append_assoc]
    exact .token hgap ih

/-- Every tree of literals and paths can be written down, and however it is written, with any white
space between the tokens, it is read back. -/
theorem read_written (h : e.Writable) :
    (∃ ts, ∃ text : String, Written .whole ts e ∧ Spaced ts text.toList) ∧
      ∀ ts, ∀ text : String, Written .whole ts e → Spaced ts text.toList → read text = .ok e := by
  obtain ⟨ts, hts⟩ := h.exists_written
  refine ⟨⟨ts, .ofList (ts.flatMap (·.verbatim.toList)), hts, ?_⟩, fun _ _ h htext => h.read_eq htext⟩
  have hnone : ∀ c ∈ ([] : List Char), isSpace c := nofun
  rw [String.toList_ofList]
  exact spaced_evenly hnone ts

/-- A quote in a text, a path that is a keyword, and a negative number. -/
def mixedExpr : Expr :=
  .and (.not (.compare .strictEqual (.path "true") (.literal (.text "it's"))))
    (.compare .atMost (.path "n-1") (.literal (.int (-1))))

theorem mixedExpr_read : mixedExpr.Writable ∧
    read " ( ! ( \x7b\x7btrue\x7d\x7d === 'it\\'s' ) ) && ( \x7b\x7b n-1 \x7d\x7d <= -1 )"
      = .ok mixedExpr := by
  have htrue : Template.IsPath "true".toList :=
    ⟨'t', ['r', 'u', 'e'], [], rfl, rfl, by simp; decide, [], nofun, rfl⟩
  have hcount : Template.IsPath "n-1".toList :=
    ⟨'n', ['-', '1'], [], rfl, rfl, by simp; decide, [], nofun, rfl⟩
  have hwritable : mixedExpr.Writable := ⟨⟨htrue, trivial⟩, hcount, by change _ ≤ 4300; decide⟩
  have hkeyword : Atom (.placeholder "true" "\x7b\x7btrue\x7d\x7d") (.path "true") :=
    .path ⟨[], [], htrue, nofun, nofun, rfl⟩
  have hname : Atom (.placeholder "n-1" "\x7b\x7b n-1 \x7d\x7d") (.path "n-1") :=
    .path ⟨[' '], [' '], hcount, by simp; decide, by simp; decide, rfl⟩
  have htext : Atom (.text "it's" "'it\\'s'") (.literal (.text "it's")) := .text (.inr rfl) "it's"
  have hminus : Number.writeInt (-1) = "-1" := by decide +kernel
  have hint : Atom (.number "-1") (.literal (.int (-1))) := hminus ▸ .int (by change _ ≤ 4300; decide)
  have hwritten : Written .whole [.symbol .opening, .symbol .not, .symbol .opening,
      .placeholder "true" "\x7b\x7btrue\x7d\x7d", .symbol (.compare .strictEqual),
      .text "it's" "'it\\'s'", .symbol .closing, .symbol .closing, .symbol .and, .symbol .opening,
      .placeholder "n-1" "\x7b\x7b n-1 \x7d\x7d", .symbol (.compare .atMost), .number "-1",
      .symbol .closing] mixedExpr :=
    .and (.group (.not (.group (.compare _ (.atom hkeyword) (.atom htext)))))
      (.group (.compare _ (.atom hname) (.atom hint)))
  refine ⟨hwritable, (read_written hwritable).2 _ _ hwritten ?_⟩
  have hspace : ∀ c ∈ [' '], isSpace c := by simp; decide
  exact spaced_evenly hspace _

end Automation.Condition
