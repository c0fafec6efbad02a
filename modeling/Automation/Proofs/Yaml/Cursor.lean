import Automation.Proofs.Text.Forward
import Automation.Yaml.Cursor

/-!
# Scalars are read forward

Whatever is left behind a scalar is an end of the text that was there before. Where no scalar can be read,
the text has not the form of one, or an escape in it stands for no character (`Snag`).
-/

namespace Automation.Yaml

/-- Why a text is given up: it has not the form of a document, an escape in it stands for no character, or
a number of a version has too many digits. -/
inductive Snag (text : List Char) : Fault → Prop where
  | malformed : Snag text .malformed
  | character {letter : Char} {digits : List Char} (h : '\\' :: letter :: digits <:+: text)
    (hlength : codeLength? letter = some digits.length) (hdigits : ∀ c ∈ digits, isHexDigit c = true)
    (hcode : 0x10ffff < natOfDigits 16 digits) :
    Snag text (.badCharacter (0x7fffffff < natOfDigits 16 digits))
  | version {count : Nat} (h : Number.LongRun text count) : Snag text (.longInteger count)

/-- A reading gives a place further on in the text, or is given up for a reason. -/
abbrev Onward {α : Type} (text : List Char) (x : Except Fault (α × Cursor)) : Prop :=
  x.Ends (Snag text) fun found => found.2.rest <:+ text

variable {text : List Char} {c c' : Cursor} {p : Char → Bool} {char : Char} {fault : Fault}

/-! ## Places -/

namespace Cursor

theorem next_rest (c : Cursor) : c.next.rest = c.rest.tail := by
  unfold next
  split
  · rename_i heq
    rw [heq]
    rfl
  · rename_i heq
    rw [heq]
    split
    · rfl
    · split <;> rfl

theorem advance_rest (c : Cursor) (n : Nat) : (c.advance n).rest = c.rest.drop n := by
  induction n generalizing c with
  | zero => rfl
  | succ n ih => rw [advance, ih, next_rest, List.drop_tail]

theorem next_suffix (c : Cursor) : c.next.rest <:+ c.rest := next_rest c ▸ List.tail_suffix c.rest

theorem advance_suffix (c : Cursor) (n : Nat) : (c.advance n).rest <:+ c.rest :=
  advance_rest c n ▸ List.drop_suffix n c.rest

theorem run_suffix (c : Cursor) (p : Char → Bool) : (c.run p).2.rest <:+ c.rest := advance_suffix c _

theorem skip_suffix (c : Cursor) (p : Char → Bool) : (c.skip p).rest <:+ c.rest := run_suffix c p

theorem lineBreak?_suffix (h : c.lineBreak? = some (char, c')) : c'.rest <:+ c.rest := by
  unfold lineBreak? at h
  split at h
  · cases h
    exact advance_suffix c 2
  · split at h
    · cases h
      exact next_suffix c
    · cases h
  · cases h

theorem endOfLine_suffix (c : Cursor) : c.endOfLine.rest <:+ c.rest := by
  unfold endOfLine
  dsimp only
  split
  · exact (skip_suffix _ _).trans (skip_suffix _ _)
  · exact skip_suffix _ _

theorem nextLine_onward (h : c.rest <:+ text) :
    c.nextLine.Ends (Snag text) fun c => c.rest <:+ text := by
  have hend := (endOfLine_suffix c).trans h
  unfold nextLine
  dsimp only
  split
  · rename_i hbreak
    exact (lineBreak?_suffix hbreak).trans hend
  · split
    · exact hend
    · exact .malformed

end Cursor

open Cursor

/-! ## Plain scalars -/

theorem plainBreaks_suffix (fuel : Nat) (c : Cursor) (breaks : List Char) :
    (plainBreaks c fuel breaks).2.rest <:+ c.rest := by
  induction fuel generalizing c breaks with
  | zero => exact List.suffix_rfl
  | succ fuel ih =>
    rw [plainBreaks]
    split
    · exact (ih _ _).trans (next_suffix c)
    · split
      · exact List.suffix_rfl
      · rename_i hbreak
        split
        · exact lineBreak?_suffix hbreak
        · exact (ih _ _).trans (lineBreak?_suffix hbreak)

theorem plainGap_suffix (c : Cursor) : (plainGap c).cursor.rest <:+ c.rest := by
  have hrun := run_suffix c (· == ' ')
  unfold plainGap
  dsimp only
  split
  · exact hrun
  · rename_i b c₁ hbreak
    have hbroken := (lineBreak?_suffix hbreak).trans hrun
    split
    · exact hbroken
    · have hbreaks := (plainBreaks_suffix c₁.rest.length c₁ []).trans hbroken
      split
      · rename_i heq
        rwa [heq] at hbreaks
      · rename_i heq
        rwa [heq] at hbreaks

theorem plainFrom_suffix (inFlow : Bool) (indent : Int) (fuel : Nat) (read : List Char)
    (gap : PlainGap) : (plainFrom inFlow indent fuel read gap).2.2.rest <:+ gap.cursor.rest := by
  induction fuel generalizing read gap with
  | zero => exact List.suffix_rfl
  | succ fuel ih =>
    have hgap (n : Nat) : (plainGap (gap.cursor.advance n)).cursor.rest <:+ gap.cursor.rest :=
      (plainGap_suffix _).trans (advance_suffix _ _)
    rw [plainFrom]
    dsimp only
    generalize (if gap.cursor.isAt '#' = true then [] else plainWord inFlow gap.cursor.rest) = word
    split
    · exact List.suffix_rfl
    · split
      · exact hgap _
      · exact (ih _ _).trans (hgap _)

theorem readPlain_suffix (inFlow : Bool) (indent : Int) (c : Cursor) :
    (readPlain inFlow indent c).2.2.rest <:+ c.rest := plainFrom_suffix _ _ _ _ _

/-! ## Scalars in quotes -/

theorem quotedBreaks_onward (fuel : Nat) (breaks : List Char) (h : c.rest <:+ text) :
    Onward text (quotedBreaks c fuel breaks) := by
  induction fuel generalizing c breaks with
  | zero => exact h
  | succ fuel ih =>
    have hskip (p : Char → Bool) := (skip_suffix c p).trans h
    rw [quotedBreaks]
    split
    · exact .malformed
    · dsimp only
      split
      · exact hskip _
      · rename_i hbreak
        exact ih _ ((lineBreak?_suffix hbreak).trans (hskip _))

/-- A code that is written in hexadecimal digits stands for a character, or it is too great. -/
theorem characterOf_ends {digits : List Char} {code : Nat} (hread : hexNumber? digits = some code)
    {letter : Char} (hlength : codeLength? letter = some digits.length)
    (h : '\\' :: letter :: digits <:+: text) : (characterOf code).Ends (Snag text) fun _ => True := by
  unfold hexNumber? at hread
  split at hread
  · rename_i hdigits
    cases hread
    unfold characterOf
    split
    · rename_i hcode
      exact .character h hlength (List.all_eq_true.mp hdigits) hcode
    · split <;> trivial
  · cases hread

/-- Behind a backslash: what is left is further on, or the escape stands for no character. -/
theorem readEscape_onward (h : '\\' :: c.rest <:+ text) : Onward text (readEscape c) := by
  have hrest : c.rest <:+ text := (List.suffix_cons '\\' c.rest).trans h
  unfold readEscape
  split
  · exact .malformed
  · rename_i letter hletter
    split
    · exact (next_suffix c).trans hrest
    · rename_i count _ hcount
      dsimp only
      split
      · rename_i code hcode
        split
        · exact .malformed
        · rename_i hlong
          have hlength : (c.next.rest.take count).length = count :=
            Nat.le_antisymm (List.length_take_le _ _) (Nat.le_of_not_lt hlong)
          have hstands : '\\' :: letter :: c.next.rest.take count <:+: text := by
            obtain ⟨rest, heq⟩ : ∃ rest, c.rest = letter :: rest := List.head?_eq_some_iff.mp hletter
            rw [next_rest, heq, List.tail_cons]
            rw [heq] at h
            have hfront : '\\' :: letter :: rest.take count <+: '\\' :: letter :: rest :=
              List.cons_prefix_cons.mpr ⟨rfl, List.cons_prefix_cons.mpr ⟨rfl, List.take_prefix _ _⟩⟩
            exact hfront.isInfix.trans h.isInfix
          refine (characterOf_ends hcode (by rw [hlength]; exact hcount) hstands).bind fun _ _ => ?_
          exact ((advance_suffix _ _).trans (next_suffix c)).trans hrest
      · exact .malformed
    · rename_i hbreak
      exact quotedBreaks_onward _ _ ((lineBreak?_suffix hbreak).trans hrest)
    · exact .malformed

theorem quotedFrom_onward (quote : Char) (fuel : Nat) (read : List Char) (h : c.rest <:+ text) :
    Onward text (quotedFrom quote fuel read c) := by
  induction fuel generalizing c read with
  | zero => exact .malformed
  | succ fuel ih =>
    rw [quotedFrom]
    split
    · exact .malformed
    · rename_i char rest heq
      split
      · split
        · exact ih _ ((advance_suffix _ _).trans h)
        · exact (next_suffix c).trans h
      split
      · rename_i hbackslash
        obtain rfl : char = '\\' := by simpa using (Bool.and_eq_true_iff.mp hbackslash).2
        have hstands : '\\' :: c.next.rest <:+ text := by
          rw [next_rest, heq, List.tail_cons, ← heq]
          exact h
        have hescape := readEscape_onward hstands
        split
        · rename_i hfault
          exact hescape.of_error hfault
        · rename_i hmeant
          exact ih _ (hescape.of_ok hmeant)
      split
      · have hblank (p : Char → Bool) := (run_suffix c p).trans h
        dsimp only
        split
        · exact ih _ (hblank _)
        · rename_i b c₁ hbreak
          have hbreaks := quotedBreaks_onward (c₁.rest.length + 1) []
            ((lineBreak?_suffix hbreak).trans (hblank _))
          split
          · rename_i hfault
            exact hbreaks.of_error hfault
          · rename_i hfound
            exact ih _ (hbreaks.of_ok hfound)
      · exact ih _ ((advance_suffix _ _).trans h)

theorem readQuoted_onward (quote : Char) (h : c.rest <:+ text) : Onward text (readQuoted quote c) :=
  quotedFrom_onward quote _ _ ((next_suffix c).trans h)

/-! ## Blocks -/

theorem takeChomp_suffix (c : Cursor) : (takeChomp c).2.rest <:+ c.rest := by
  unfold takeChomp
  split
  · exact next_suffix c
  · split
    · exact next_suffix c
    · exact List.suffix_rfl

theorem takeExtra_onward (h : c.rest <:+ text) : Onward text (takeExtra c) := by
  unfold takeExtra
  split
  · exact .malformed
  · split
    · exact (next_suffix c).trans h
    · exact h
  · exact h

theorem blockHeader_onward (folds : Bool) (h : c.rest <:+ text) : Onward text (blockHeader folds c) := by
  unfold blockHeader
  dsimp only
  refine (takeExtra_onward ((takeChomp_suffix c).trans h)).bind fun ⟨extra, c₁⟩ hextra => ?_
  dsimp only at hextra ⊢
  have hchomp : (if ((takeChomp c).1.isNone && extra.isSome) = true then takeChomp c₁
      else ((takeChomp c).1, c₁)).2.rest <:+ text := by
    split
    · exact (takeChomp_suffix c₁).trans hextra
    · exact hextra
  generalize (if ((takeChomp c).1.isNone && extra.isSome) = true then takeChomp c₁
      else ((takeChomp c).1, c₁)) = chomped at *
  have hnext := nextLine_onward hchomp
  split
  · refine .check (fun _ => .malformed) fun _ => ?_
    exact hnext.bind fun c₂ hc₂ => hc₂
  · exact hnext.bind fun c₂ hc₂ => hc₂

theorem blockIndent_suffix (c : Cursor) (fuel : Nat) (breaks : List Char) (widest : Nat) :
    (blockIndent c fuel breaks widest).2.2.rest <:+ c.rest := by
  induction fuel generalizing c breaks widest with
  | zero => exact List.suffix_rfl
  | succ fuel ih =>
    rw [blockIndent]
    split
    · exact (ih _ _ _).trans (next_suffix c)
    · split
      · rename_i hbreak
        exact (ih _ _ _).trans (lineBreak?_suffix hbreak)
      · exact List.suffix_rfl

theorem blockBreaks_suffix (indent : Nat) (c : Cursor) (fuel : Nat) (breaks : List Char) :
    (blockBreaks indent c fuel breaks).2.rest <:+ c.rest := by
  induction fuel generalizing c breaks with
  | zero => exact List.suffix_rfl
  | succ fuel ih =>
    have hskip : (skipIndent indent c).rest <:+ c.rest := advance_suffix c _
    rw [blockBreaks]
    split
    · exact hskip
    · rename_i hbreak
      exact (ih _ _).trans ((lineBreak?_suffix hbreak).trans hskip)

theorem blockFrom_suffix (style : BlockStyle) (indent fuel : Nat) (read breaks : List Char)
    (c : Cursor) : (blockFrom style indent fuel read breaks c).2.rest <:+ c.rest := by
  induction fuel generalizing read breaks c with
  | zero => exact List.suffix_rfl
  | succ fuel ih =>
    have hrun := run_suffix c (!isBreak ·)
    have hbreaks {c₁ : Cursor} (h : c₁.rest <:+ c.rest) (n : Nat) :
        (blockBreaks indent c₁ n []).2.rest <:+ c.rest := (blockBreaks_suffix indent c₁ n []).trans h
    rw [blockFrom]
    dsimp only
    rcases hbreak : (c.run (!isBreak ·)).2.lineBreak? with _ | ⟨b, c₁⟩
    · dsimp only
      have hblank := hbreaks hrun ((c.run (!isBreak ·)).2.rest.length + 1)
      generalize blockBreaks indent _ _ _ = found at *
      split
      · exact (ih _ _ _).trans hblank
      · split <;> exact hblank
    · dsimp only
      have hblank := hbreaks ((lineBreak?_suffix hbreak).trans hrun) (c₁.rest.length + 1)
      generalize blockBreaks indent _ _ _ = found at *
      split
      · exact (ih _ _ _).trans hblank
      · split <;> exact hblank

theorem readBlock_onward (folds : Bool) (indent : Int) (h : c.rest <:+ text) :
    Onward text (readBlock folds indent c) := by
  unfold readBlock
  refine (blockHeader_onward folds ((next_suffix c).trans h)).bind fun ⟨style, c₁⟩ hstyle => ?_
  obtain ⟨folds, chomp, extra⟩ := style
  cases extra with
  | none =>
    have hindent := (blockIndent_suffix c₁ (c₁.rest.length + 1) [] 0).trans hstyle
    dsimp only at hindent ⊢
    generalize blockIndent c₁ (c₁.rest.length + 1) [] 0 = found at *
    split
    · exact (blockFrom_suffix _ _ _ _ _ _).trans hindent
    · exact hindent
  | some extra =>
    have hbreaks (indent : Nat) := (blockBreaks_suffix indent c₁ (c₁.rest.length + 1) []).trans hstyle
    dsimp only at hbreaks ⊢
    split
    · exact (blockFrom_suffix _ _ _ _ _ _).trans (hbreaks _)
    · exact hbreaks _

end Automation.Yaml
