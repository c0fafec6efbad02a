import Automation.Template
import Automation.Proofs.Text.Class
import Mathlib.Data.List.TakeWhile

/-!
# Where templates are cut

`IsPlaceholder` says what a placeholder looks like, and `Cut` where a text is cut at its leftmost
placeholders: at each place either a placeholder begins there and is one piece, or none does and the
character is a piece of its own. A text is cut in exactly one way (`cut_iff`), and no context has a
part in it. Whether the braces are balanced is decided by another scan of the same text, over pairs of
braces (`isBalanced_iff`).
-/

namespace Automation.Template

open Text (isSpace)

/-! ## Paths and placeholders -/

/-- The names behind the first one of a path, each with the dot in front. -/
def IsNames (cs : List Char) : Prop :=
  ∃ names : List (List Char),
    (∀ name ∈ names, name ≠ [] ∧ ∀ c ∈ name, isNameChar c) ∧ cs = names.flatMap ('.' :: ·)

/-- A path: a name that begins with a letter or an underscore, then further names behind dots. -/
def IsPath (cs : List Char) : Prop :=
  ∃ c name names, cs = c :: name ++ names ∧
    isPathStart c ∧ (∀ d ∈ name, isNameChar d) ∧ IsNames names

/-- A placeholder of a path: the path between double braces, with any white space around it. -/
def IsPlaceholder (path : String) (text : List Char) : Prop :=
  ∃ before after, IsPath path.toList ∧ (∀ c ∈ before, isSpace c) ∧ (∀ c ∈ after, isSpace c) ∧
    text = '\x7b' :: '\x7b' :: before ++ path.toList ++ after ++ ['\x7d', '\x7d']

variable {c : Char} {cs rest verbatim : List Char} {path : String}

theorem isNameChar_of_isSpace (h : isSpace c = true) : isNameChar c = false := by
  have hdash : c ≠ '-' := by
    rintro rfl
    exact absurd h (by decide)
  simp [isNameChar, Text.isWord_of_isSpace h, hdash]

theorem isNameChar_of_isPathStart (h : isPathStart c = true) : isNameChar c = true := by
  simp only [isPathStart, isNameChar, Bool.or_eq_true, beq_iff_eq] at h ⊢
  rcases h with rfl | h
  · exact .inr (by decide)
  · exact .inr (Text.isWord_of_isLatinLetter h)

/-- What stands behind a name that is not to go on: neither a character of a name nor a dot. -/
def Stops (rest : List Char) : Prop := ∀ c ∈ rest.head?, isNameChar c = false ∧ c ≠ '.'

/-- Behind a path there is white space, or the braces that close the placeholder. -/
theorem stops_closing {after : List Char} (h : ∀ c ∈ after, isSpace c) :
    Stops (after ++ '\x7d' :: '\x7d' :: rest) := by
  intro c hc
  cases after with
  | nil =>
    obtain rfl : '\x7d' = c := by simpa using hc
    decide
  | cons d after =>
    obtain rfl : d = c := by simpa using hc
    have hspace := h d (by simp)
    refine ⟨isNameChar_of_isSpace hspace, ?_⟩
    rintro rfl
    exact absurd hspace (by decide)

/-! ## Reading paths and placeholders -/

/-- A run of characters of one kind ends where the first of another kind stands. -/
theorem takeWhile_run {p : Char → Bool} {run : List Char} (hrun : ∀ c ∈ run, p c)
    (hrest : ∀ c ∈ rest.head?, p c = false) :
    (run ++ rest).takeWhile p = run ∧ (run ++ rest).dropWhile p = rest := by
  rw [List.takeWhile_append_of_pos hrun, List.dropWhile_append_of_pos hrun]
  cases rest <;> simp_all

theorem takeNames_sound (fuel : Nat) (cs : List Char) :
    IsNames (takeNames fuel cs).1 ∧ cs = (takeNames fuel cs).1 ++ (takeNames fuel cs).2 := by
  fun_induction takeNames fuel cs with
  | case1 cs => exact ⟨⟨[], by simp, rfl⟩, rfl⟩
  | case2 => exact ⟨⟨[], by simp, rfl⟩, rfl⟩
  | case3 fuel rest name hname names rest' heq ih =>
    rw [heq] at ih
    obtain ⟨⟨names', hnames, rfl⟩, hrest⟩ := ih
    refine ⟨⟨name :: names', ?_, by simp⟩, ?_⟩
    · intro n hn
      rcases List.mem_cons.1 hn with rfl | hn
      · exact ⟨by simpa using hname, fun c => List.mem_takeWhile_imp⟩
      · exact hnames n hn
    · simp only [List.cons_append, List.append_assoc, ← hrest, name, List.takeWhile_append_dropWhile]
  | case4 => exact ⟨⟨[], by simp, rfl⟩, rfl⟩

/-- Behind a name there is a dot, or what stops the path. -/
theorem Stops.behind_name (hstops : Stops rest) (names : List (List Char)) :
    ∀ c ∈ (names.flatMap ('.' :: ·) ++ rest).head?, isNameChar c = false := by
  intro c hc
  cases names with
  | nil => exact (hstops c hc).1
  | cons =>
    obtain rfl : '.' = c := by simpa using hc
    decide

/-- No fuel is missing where there is as much as characters, and names are read to their end. -/
theorem takeNames_names {fuel : Nat} {names : List (List Char)} (hstops : Stops rest)
    (hnames : ∀ name ∈ names, name ≠ [] ∧ ∀ c ∈ name, isNameChar c)
    (hfuel : (names.flatMap ('.' :: ·) ++ rest).length ≤ fuel) :
    takeNames fuel (names.flatMap ('.' :: ·) ++ rest) = (names.flatMap ('.' :: ·), rest) := by
  induction names generalizing fuel with
  | nil =>
    simp only [List.flatMap_nil, List.nil_append]
    fun_cases takeNames fuel rest with
    | case1 => rfl
    | case2 => rfl
    | case3 => exact absurd rfl (hstops '.' rfl).2
    | case4 => rfl
  | cons name names ih =>
    obtain ⟨⟨hne, hname⟩, hnames⟩ := List.forall_mem_cons.1 hnames
    obtain ⟨htake, hdrop⟩ := takeWhile_run hname (hstops.behind_name names)
    simp only [List.flatMap_cons, List.cons_append, List.append_assoc, List.length_cons,
      List.length_append] at hfuel ⊢
    obtain ⟨fuel, rfl⟩ := Nat.exists_eq_add_of_lt (Nat.lt_of_lt_of_le (Nat.succ_pos _) hfuel)
    rw [Nat.zero_add, takeNames]
    simp only [htake, hdrop]
    rw [ih hnames (by simp only [List.length_append]; omega)]
    simp [hne]

theorem takePath?_sound (h : takePath? cs = some (verbatim, rest)) :
    IsPath verbatim ∧ cs = verbatim ++ rest := by
  cases cs with
  | nil => cases h
  | cons c cs =>
    simp only [takePath?, Option.ite_none_right_eq_some, Option.some.injEq, Prod.mk.injEq] at h
    obtain ⟨hstart, rfl, rfl⟩ := h
    obtain ⟨hnames, hrest⟩ := takeNames_sound cs.length (cs.dropWhile isNameChar)
    refine ⟨⟨c, _, _, rfl, hstart, fun d => List.mem_takeWhile_imp, hnames⟩, ?_⟩
    simp only [List.cons_append, List.append_assoc, ← hrest, List.takeWhile_append_dropWhile]

theorem takePath?_path (h : IsPath verbatim) (hstops : Stops rest) :
    takePath? (verbatim ++ rest) = some (verbatim, rest) := by
  obtain ⟨c, name, _, rfl, hstart, hname, names, hnames, rfl⟩ := h
  obtain ⟨htake, hdrop⟩ := takeWhile_run hname (hstops.behind_name names)
  simp only [List.cons_append, List.append_assoc, takePath?, hstart, if_true, htake, hdrop]
  rw [takeNames_names hstops hnames (by simp only [List.length_append]; omega)]

/-- What is taken is the placeholder in front, and there is no other way to read one there. -/
theorem takePlaceholder?_iff :
    takePlaceholder? cs = some (path, rest) ↔ ∃ text, IsPlaceholder path text ∧ cs = text ++ rest := by
  constructor
  · intro h
    fun_cases takePlaceholder? cs with
    | case1 cs =>
      simp only [takePlaceholder?, Option.bind_eq_bind, Option.bind_eq_some_iff, Prod.exists] at h
      obtain ⟨name, more, hname, h⟩ := h
      split at h
      · next closing hclosing =>
        obtain ⟨rfl, rfl⟩ : String.ofList name = path ∧ closing = rest := by simpa using h
        obtain ⟨hpath, hcs⟩ := takePath?_sound hname
        have hmore : more.takeWhile isSpace ++ '\x7d' :: '\x7d' :: closing = more := by
          rw [← hclosing, List.takeWhile_append_dropWhile]
        have hfront : cs.takeWhile isSpace ++ (name ++ more) = cs := by
          rw [← hcs, List.takeWhile_append_dropWhile]
        refine ⟨_, ⟨cs.takeWhile isSpace, more.takeWhile isSpace, by simpa using hpath,
          fun c => List.mem_takeWhile_imp, fun c => List.mem_takeWhile_imp, rfl⟩, ?_⟩
        rw [← hmore] at hfront
        simpa using hfront.symm
      · cases h
    | case2 => simp [takePlaceholder?] at h
  · rintro ⟨_, ⟨before, after, hpath, hbefore, hafter, rfl⟩, rfl⟩
    have hstart : ∀ c ∈ (path.toList ++ (after ++ '\x7d' :: '\x7d' :: rest)).head?, isSpace c = false := by
      obtain ⟨c, name, names, heq, hc, -⟩ := hpath
      intro d hd
      obtain rfl : c = d := by simpa [heq] using hd
      rw [Bool.eq_false_iff]
      intro hspace
      exact absurd (isNameChar_of_isPathStart hc) (by simp [isNameChar_of_isSpace hspace])
    have hclosing : ∀ c ∈ ('\x7d' :: '\x7d' :: rest).head?, isSpace c = false := by
      rintro c hc
      obtain rfl : '\x7d' = c := by simpa using hc
      decide
    simp only [List.cons_append, List.append_assoc, List.nil_append, takePlaceholder?,
      (takeWhile_run hbefore hstart).2, takePath?_path hpath (stops_closing hafter),
      (takeWhile_run hafter hclosing).2, Option.bind_eq_bind, Option.bind_some, String.ofList_toList]

/-! ## Cutting -/

/-- The text is cut into these pieces. A placeholder is taken wherever one begins, so the pieces do not
overlap, and each placeholder is the leftmost of those that are left. -/
inductive Cut : List Char → List Piece → Prop where
  | done : Cut [] []
  | placeholder {path : String} {verbatim rest : List Char} {pieces : List Piece}
      (h : IsPlaceholder path verbatim) (hrest : Cut rest pieces) :
      Cut (verbatim ++ rest) (.placeholder path verbatim :: pieces)
  | char {c : Char} {rest : List Char} {pieces : List Piece}
      (h : ∀ path text, IsPlaceholder path text → ¬ text <+: c :: rest) (hrest : Cut rest pieces) :
      Cut (c :: rest) (.char c :: pieces)

/-- The text that a piece was cut from. -/
def Piece.text : Piece → List Char
  | .char c => [c]
  | .placeholder _ verbatim => verbatim

variable {pieces : List Piece}

/-- Nothing of a text is lost when it is cut, and all stays in order. -/
theorem Cut.text (h : Cut cs pieces) : pieces.flatMap Piece.text = cs := by
  induction h with
  | done => rfl
  | placeholder _ _ ih => simp [Piece.text, ih]
  | char _ _ ih => simp [Piece.text, ih]

theorem cutFrom_skip (skip : Nat) (cs : List Char) : cutFrom skip cs = cutFrom 0 (cs.drop skip) := by
  induction skip generalizing cs with
  | zero => rfl
  | succ skip ih =>
    cases cs with
    | nil => rfl
    | cons c cs => exact ih cs

theorem IsPlaceholder.ne_nil (h : IsPlaceholder path verbatim) : verbatim ≠ [] := by
  obtain ⟨before, after, -, -, -, rfl⟩ := h
  simp

theorem cutFrom_placeholder (h : IsPlaceholder path verbatim) :
    cutFrom 0 (verbatim ++ rest) = .placeholder path verbatim :: cutFrom 0 rest := by
  have htake : takePlaceholder? (verbatim ++ rest) = some (path, rest) :=
    takePlaceholder?_iff.2 ⟨verbatim, h, rfl⟩
  obtain ⟨c, cs, rfl⟩ := List.exists_cons_of_ne_nil h.ne_nil
  rw [List.cons_append] at htake ⊢
  have hlength : (c :: (cs ++ rest)).length - rest.length = (c :: cs).length := by simp; omega
  simp only [cutFrom, htake, hlength]
  rw [cutFrom_skip, ← List.cons_append, List.take_left]
  simp

theorem cutFrom_char (h : ∀ path text, IsPlaceholder path text → ¬ text <+: c :: rest) :
    cutFrom 0 (c :: rest) = .char c :: cutFrom 0 rest := by
  have hnone : takePlaceholder? (c :: rest) = none := by
    rw [Option.eq_none_iff_forall_ne_some]
    rintro ⟨path, after⟩ htake
    obtain ⟨text, hplaceholder, heq⟩ := takePlaceholder?_iff.1 htake
    exact h path text hplaceholder ⟨after, heq.symm⟩
  simp only [cutFrom, hnone]

/-- Every text can be cut, and the reader does it. -/
theorem cut_cutFrom (cs : List Char) : Cut cs (cutFrom 0 cs) := by
  -- What is left behind a placeholder is no tail of one character, so the induction is on the length.
  induction hn : cs.length using Nat.strongRecOn generalizing cs with
  | ind n ih =>
    subst hn
    by_cases hbegins : ∃ path text, IsPlaceholder path text ∧ text <+: cs
    · obtain ⟨path, text, h, rest, rfl⟩ := hbegins
      rw [cutFrom_placeholder h]
      have hshorter : rest.length < (text ++ rest).length := by
        simpa using List.length_pos_iff.2 h.ne_nil
      exact .placeholder h (ih _ hshorter rest rfl)
    · cases cs with
      | nil => exact .done
      | cons c rest =>
        have hnone : ∀ path text, IsPlaceholder path text → ¬ text <+: c :: rest :=
          fun path text h hprefix => hbegins ⟨path, text, h, hprefix⟩
        rw [cutFrom_char hnone]
        exact .char hnone (ih _ (by simp) rest rfl)

/-- A text is cut in one way, and the reader finds it. -/
theorem cut_iff : Cut cs pieces ↔ pieces = cutFrom 0 cs := by
  constructor
  · intro h
    induction h with
    | done => rfl
    | placeholder h _ ih => rw [cutFrom_placeholder h, ih]
    | char h _ ih => rw [cutFrom_char h, ih]
  · rintro rfl
    exact cut_cutFrom cs

/-! ## Pairs of braces -/

/-- A pair of braces. -/
inductive Brace where
  | opening
  | closing
deriving DecidableEq

/-- The pairs of braces in a text, from the left and without overlaps. -/
def braces : List Char → List Brace
  | '\x7b' :: '\x7b' :: rest => .opening :: braces rest
  | '\x7d' :: '\x7d' :: rest => .closing :: braces rest
  | _ :: rest => braces rest
  | [] => []

/-- Pairs that open and close in turn. -/
inductive InTurn : List Brace → Prop where
  | none : InTurn []
  | pair {pairs : List Brace} (h : InTurn pairs) : InTurn (.opening :: .closing :: pairs)

/-- Every pair that opens is closed before the next one opens, and no other pair closes. -/
def Balanced (cs : List Char) : Prop := InTurn (braces cs)

/-- The scan remembers whether a pair is open, which is then still to be closed. -/
theorem balancedFrom_iff (isOpen : Bool) (cs : List Char) :
    balancedFrom isOpen cs = true ↔
      InTurn (if isOpen then .opening :: braces cs else braces cs) := by
  fun_induction balancedFrom isOpen cs with
  | case1 isOpen rest ih =>
    rw [braces]
    cases isOpen with
    | false => simpa using ih
    | true =>
      refine iff_of_false (by simp) fun h => ?_
      cases h
  | case2 isOpen rest ih =>
    rw [braces]
    cases isOpen with
    | false =>
      refine iff_of_false (by simp) fun h => ?_
      cases h
    | true =>
      refine Iff.trans (by simpa using ih) ⟨.pair, fun h => ?_⟩
      cases h with
      | pair h => exact h
  | case3 isOpen c rest hopening hclosing ih => rw [braces] <;> assumption
  | case4 isOpen =>
    rw [braces]
    cases isOpen with
    | false => simpa using InTurn.none
    | true =>
      refine iff_of_false (by simp) fun h => ?_
      cases h

theorem isBalanced_iff {template : String} :
    isBalanced template = true ↔ Balanced template.toList :=
  balancedFrom_iff false template.toList

end Automation.Template
