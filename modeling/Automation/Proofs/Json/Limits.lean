import Automation.Proofs.Json.Reading
import Automation.Proofs.Json.RoundTrip
import Automation.Proofs.Text.Forward

/-!
# Where the digits are too many

A JSON text that is refused for an integer of too many digits has these digits in a row
(`read_tooManyDigits`): whatever is left at each step of the reading is an end of the text. An integer of
so many digits is written, but it is not read back (`read_writeInt_long`).
-/

namespace Automation.Json

open Number

variable {cs rest : List Char}

/-! ## Texts and numbers -/

theorem readUnit?_suffix {unit : Nat} (h : readUnit? cs = some (unit, rest)) : rest <:+ cs := by
  unfold readUnit? at h
  split at h
  · rename_i a b c d e rest'
    simp only [Option.bind_eq_bind, Option.bind_eq_some_iff, Option.pure_def, Option.some.injEq] at h
    obtain ⟨_, -, _, -, _, -, _, -, h⟩ := h
    cases h
    exact List.suffix_append [a, b, c, d] (e :: rest')
  · cases h

theorem readLowUnit?_suffix {low : Nat} (h : readLowUnit? cs = some (low, rest)) : rest <:+ cs := by
  unfold readLowUnit? at h
  split at h
  · rename_i digits
    obtain ⟨⟨unit, after⟩, hunit, h⟩ := Option.bind_eq_some_iff.mp h
    dsimp only at h
    split at h
    · cases h
      exact (readUnit?_suffix hunit).trans (List.suffix_append ['\\', 'u'] digits)
    · cases h
  · cases h

/-- A stop for too many digits has its reason in the text. -/
def Stop.Founded (cs : List Char) : Stop → Prop
  | .at _ _ => True
  | .digits count => LongRun cs count

/-- A reader leaves an end of the text, or stops with a reason. -/
abbrev Forward {α : Type} (cs : List Char) (x : Except Stop (α × List Char)) : Prop :=
  x.Ends (Stop.Founded cs) fun found => found.2 <:+ cs

theorem Forward.of_suffix {α : Type} {x : Except Stop (α × List Char)} (h : Forward rest x)
    (hrest : rest <:+ cs) : Forward cs x := by
  refine (h.imp fun found hfound => hfound.trans hrest).imp_error fun stop hstop => ?_
  cases stop with
  | «at» fault after => trivial
  | digits count => exact LongRun.of_suffix hstop hrest

theorem readText_forward (start : List Char) (fuel : Nat) (acc cs : List Char) :
    Forward cs (readText start fuel acc cs) := by
  induction fuel generalizing acc cs with
  | zero => exact trivial
  | succ fuel ih =>
    have hnext {acc' rest : List Char} (hrest : rest <:+ cs) :
        Forward cs (readText start fuel acc' rest) := (ih acc' rest).of_suffix hrest
    cases cs with
    | nil => exact trivial
    | cons c rest =>
      have hrest : rest <:+ c :: rest := List.suffix_cons c rest
      rw [readText.eq_def]
      dsimp only
      split
      · exact hrest
      split
      · split
        · exact trivial
        · rename_i digits
          have hdigits : digits <:+ c :: 'u' :: digits := List.suffix_append [c, 'u'] digits
          split
          · exact trivial
          · rename_i unit after hunit
            have hafter := (readUnit?_suffix hunit).trans hdigits
            split
            · split
              · rename_i hlow
                exact hnext ((readLowUnit?_suffix hlow).trans hafter)
              · exact hnext hafter
            · split
              · exact hnext hafter
              · exact hnext hafter
        · rename_i e after _
          split
          · exact hnext (List.suffix_append [c, e] after)
          · exact trivial
      · split
        · exact trivial
        · exact hnext hrest

theorem takeMinus_suffix (cs : List Char) : (takeMinus cs).2 <:+ cs := by
  unfold takeMinus
  split
  · exact List.suffix_cons _ _
  · exact List.suffix_rfl

theorem takeWhole_append_eq (cs : List Char) : (takeWhole cs).1 ++ (takeWhole cs).2 = cs := by
  unfold takeWhole
  split
  · rfl
  · rw [List.span_eq_takeWhile_dropWhile]
    exact List.takeWhile_append_dropWhile

theorem takeFraction_suffix (cs : List Char) : (takeFraction cs).2 <:+ cs := by
  unfold takeFraction
  split
  · rename_i rest
    rw [List.span_eq_takeWhile_dropWhile]
    dsimp only
    split
    · exact List.suffix_rfl
    · exact (List.dropWhile_suffix _).trans (List.suffix_cons _ _)
  · exact List.suffix_rfl

theorem takeSign_suffix (cs : List Char) : (takeSign cs).2 <:+ cs := by
  unfold takeSign
  split
  · exact List.suffix_cons _ _
  · exact List.suffix_cons _ _
  · exact List.suffix_rfl

theorem takePower_suffix (cs : List Char) : (takePower cs).2 <:+ cs := by
  unfold takePower
  split
  · rename_i c rest
    split
    · have hdigits := (takeSign_suffix rest).trans (List.suffix_cons c rest)
      generalize takeSign rest = signed at *
      dsimp only
      rw [List.span_eq_takeWhile_dropWhile]
      dsimp only
      split
      · exact (List.dropWhile_suffix _).trans hdigits
      · exact List.suffix_rfl
    · exact List.suffix_rfl
  · exact List.suffix_rfl

/-- A number leaves an end of the text, and one that is not read has too many digits. -/
theorem readNumber?_founded {found : Except Nat Value} (h : readNumber? cs = some (found, rest)) :
    rest <:+ cs ∧ ∀ count, found = .error count → LongRun cs count := by
  have hminus := takeMinus_suffix cs
  have hwhole := takeWhole_append_eq (takeMinus cs).2
  have hdigits := takeWhole_digits (takeMinus cs).2
  unfold readNumber? at h
  dsimp only at h
  generalize (takeMinus cs).2 = unsigned at *
  generalize takeWhole unsigned = taken at *
  obtain ⟨whole, after⟩ := taken
  subst hwhole
  have hrest : (takePower (takeFraction after).2).2 <:+ cs :=
    ((takePower_suffix _).trans (takeFraction_suffix after)).trans
      ((List.suffix_append whole after).trans hminus)
  dsimp only at h
  split at h
  · cases h
  split at h
  · split at h
    · rename_i hlong
      cases h
      refine ⟨hrest, ?_⟩
      rintro _ ⟨⟩
      have hpart : whole <:+: cs := (List.prefix_append whole after).isInfix.trans hminus.isInfix
      exact ⟨whole, hpart, hdigits, hlong, rfl⟩
    · cases h
      exact ⟨hrest, nofun⟩
  · cases h
    exact ⟨hrest, nofun⟩

theorem afterWord?_suffix {word : String} (h : afterWord? word cs = some rest) : rest <:+ cs := by
  unfold afterWord? at h
  dsimp only at h
  split at h
  · cases h
    exact List.drop_suffix _ _
  · cases h

theorem literal_suffix {v : Value} (h : (literals.findSome? fun (word, v) =>
    (afterWord? word cs).map (v, ·)) = some (v, rest)) : rest <:+ cs := by
  obtain ⟨⟨word, w⟩, -, hfound⟩ := List.exists_of_findSome?_eq_some h
  obtain ⟨after, hafter, heq⟩ := Option.map_eq_some_iff.mp hfound
  cases heq
  exact afterWord?_suffix hafter

/-! ## Values -/

theorem skipBlanks_suffix (cs : List Char) : skipBlanks cs <:+ cs := List.dropWhile_suffix _

/-- Whatever is read with so much fuel is read forward. -/
structure ReadsForward (fuel : Nat) : Prop where
  value : ∀ cs, Forward cs (readValue fuel cs)
  items : ∀ cs, Forward cs (readItems fuel cs)
  pairs : ∀ cs, Forward cs (readPairs fuel cs)

/-- What is left behind a character that follows blanks. -/
theorem suffix_of_skipBlanks {after : List Char} {c : Char} (h : skipBlanks after = c :: rest)
    (hafter : after <:+ cs) : rest <:+ cs :=
  (List.suffix_cons c rest).trans ((h ▸ skipBlanks_suffix after).trans hafter)

theorem ReadsForward.value_succ {fuel : Nat} (ih : ReadsForward fuel) (cs : List Char) :
    Forward cs (readValue (fuel + 1) cs) := by
  cases cs with
  | nil => exact trivial
  | cons c rest =>
    have hrest : rest <:+ c :: rest := List.suffix_cons c rest
    rw [readValue.eq_def]
    dsimp only
    split
    · exact ((readText_forward _ _ _ _).of_suffix hrest).bind fun found hfound => hfound
    split
    · split
      · rename_i hclosed
        exact suffix_of_skipBlanks hclosed hrest
      · exact ((ih.items _).of_suffix ((skipBlanks_suffix _).trans hrest)).bind
          fun found hfound => hfound
    split
    · split
      · rename_i hclosed
        exact suffix_of_skipBlanks hclosed hrest
      · exact ((ih.pairs _).of_suffix ((skipBlanks_suffix _).trans hrest)).bind
          fun found hfound => hfound
    split
    · rename_i found hfound
      exact literal_suffix hfound
    · split
      · rename_i hnumber
        exact (readNumber?_founded hnumber).1
      · rename_i hnumber
        exact (readNumber?_founded hnumber).2 _ rfl
      · exact trivial

theorem ReadsForward.items_succ {fuel : Nat} (ih : ReadsForward fuel) (cs : List Char) :
    Forward cs (readItems (fuel + 1) cs) := by
  rw [readItems.eq_def]
  refine (ih.value cs).bind fun found hrest => ?_
  dsimp only
  split
  · rename_i hclosed
    exact suffix_of_skipBlanks hclosed hrest
  · rename_i hcomma
    have hnext := suffix_of_skipBlanks hcomma hrest
    exact ((ih.items _).of_suffix ((skipBlanks_suffix _).trans hnext)).bind fun found hfound => hfound
  · exact trivial

theorem ReadsForward.pairs_succ {fuel : Nat} (ih : ReadsForward fuel) (cs : List Char) :
    Forward cs (readPairs (fuel + 1) cs) := by
  rw [readPairs.eq_def]
  dsimp only
  split
  · rename_i rest
    have hrest := List.suffix_cons '"' rest
    refine ((readText_forward _ _ _ _).of_suffix hrest).bind fun name hname => ?_
    split
    · rename_i hcolon
      have hnext := suffix_of_skipBlanks hcolon hname
      refine ((ih.value _).of_suffix ((skipBlanks_suffix _).trans hnext)).bind fun value hvalue => ?_
      split
      · rename_i hclosed
        exact suffix_of_skipBlanks hclosed hvalue
      · rename_i hcomma
        have hnext := suffix_of_skipBlanks hcomma hvalue
        exact ((ih.pairs _).of_suffix ((skipBlanks_suffix _).trans hnext)).bind
          fun found hfound => hfound
      · exact trivial
    · exact trivial
  · exact trivial

theorem readsForward (fuel : Nat) : ReadsForward fuel := by
  induction fuel with
  | zero => exact ⟨fun _ => trivial, fun _ => trivial, fun _ => trivial⟩
  | succ fuel ih => exact ⟨ih.value_succ, ih.items_succ, ih.pairs_succ⟩

/-- A text that is refused for an integer of too many digits has these digits in a row. -/
theorem read_tooManyDigits {s : String} {count : Nat} (h : read s = .error (.tooManyDigits count)) :
    LongRun s.toList count := by
  have hdocument : (readDocument s.toList).Ends (Stop.Founded s.toList) fun _ => True := by
    unfold readDocument
    refine Except.Ends.check (fun _ => trivial) fun _ => ?_
    refine (((readsForward _).value _).of_suffix (skipBlanks_suffix _)).bind fun found _ => ?_
    dsimp only
    split <;> exact trivial
  unfold read at h
  split at h
  · cases h
  · rename_i stop hstop
    have hfounded := hdocument.of_error hstop
    cases stop with
    | «at» fault rest => cases h
    | digits count =>
      cases h
      exact hfounded

/-! ## Integers that are too long -/

theorem readNumber?_long {n : Int} (hn : digitLimit < (Nat.toDigits 10 n.natAbs).length)
    (hrest : Stops rest) : readNumber? ((writeInt n).toList ++ rest) =
      some (.error (Nat.toDigits 10 n.natAbs).length, rest) := by
  have hparts := readNumber?_parts (decide (n < 0)) (toDigits_whole n.natAbs)
    (fun c hc => (hrest c hc).1) (takeFraction_none fun c hc => (hrest c hc).2.1)
    (takePower_none fun c hc => (hrest c hc).2.2)
  rw [writeInt_toList, List.append_assoc, hparts, if_pos (by rfl), if_pos hn]

/-- A text that begins with an integer of too many digits is not read any further. -/
theorem readDocument_long {count : Nat} (h : readNumber? cs = some (.error count, rest)) :
    readDocument cs = .error (.digits count) := by
  have hvalue : readValue (2 * cs.length + 2) cs = .error (.digits count) := readValue_of_number h
  obtain ⟨c, tail, rfl, hc⟩ := head_of_number h
  have hmark : c ≠ '\uFEFF' ∧ isBlank c = false := by
    rcases hc with hc | ⟨rfl, -⟩
    · refine ⟨digit_ne hc rfl, ?_⟩
      simp only [isBlank, Bool.or_eq_false_iff, beq_eq_false_iff_ne]
      exact ⟨⟨⟨digit_ne hc rfl, digit_ne hc rfl⟩, digit_ne hc rfl⟩, digit_ne hc rfl⟩
    · decide
  have hskip : skipBlanks (c :: tail) = c :: tail := List.dropWhile_cons_of_neg (by simp [hmark.2])
  unfold readDocument
  rw [if_neg (by simpa using hmark.1), hskip, hvalue]
  rfl

/-- An integer of too many digits is written, but it is not read back. -/
theorem read_writeInt_long {n : Int} (hn : digitLimit < (Nat.toDigits 10 n.natAbs).length) :
    read (writeInt n) = .error (.tooManyDigits (Nat.toDigits 10 n.natAbs).length) := by
  have hnumber : readNumber? ((writeInt n).toList ++ []) = _ := readNumber?_long hn nofun
  rw [List.append_nil] at hnumber
  rw [read, readDocument_long hnumber]
  rfl

end Automation.Json
