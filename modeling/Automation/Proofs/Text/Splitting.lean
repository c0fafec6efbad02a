import Automation.Text.Class
import Mathlib.Data.List.Infix

/-!
# The pieces of a text

How the pieces between separators change with the text around them, and what stripping leaves.
-/

namespace Automation

namespace Text

variable {sep : Char} {cs ds : List Char}

theorem splitOn_ne_nil (sep : Char) (cs : List Char) : splitOn sep cs ≠ [] := by
  cases cs with
  | nil => exact List.cons_ne_nil _ _
  | cons c rest =>
    rw [splitOn]
    split
    · exact List.cons_ne_nil _ _
    · split <;> exact List.cons_ne_nil _ _

theorem splitOn_sep (sep : Char) (cs : List Char) : splitOn sep (sep :: cs) = [] :: splitOn sep cs := by
  simp [splitOn]

/-- A character that does not separate goes to the first piece. -/
theorem splitOn_cons {c : Char} (hc : c ≠ sep) {piece : List Char} {pieces : List (List Char)}
    (h : splitOn sep cs = piece :: pieces) : splitOn sep (c :: cs) = (c :: piece) :: pieces := by
  simp [splitOn, hc, h]

/-- Either case of how the pieces of a longer text come about. -/
theorem splitOn_cases (sep c : Char) (cs : List Char) :
    c = sep ∧ splitOn sep (c :: cs) = [] :: splitOn sep cs ∨
      c ≠ sep ∧ ∃ piece pieces, splitOn sep cs = piece :: pieces ∧
        splitOn sep (c :: cs) = (c :: piece) :: pieces := by
  by_cases hc : c = sep
  · exact .inl ⟨hc, hc ▸ splitOn_sep sep cs⟩
  · obtain ⟨piece, pieces, h⟩ := List.exists_cons_of_ne_nil (splitOn_ne_nil sep cs)
    exact .inr ⟨hc, piece, pieces, h, splitOn_cons hc h⟩

theorem splitOn_of_notMem (h : sep ∉ cs) : splitOn sep cs = [cs] := by
  induction cs with
  | nil => rfl
  | cons c cs ih =>
    rw [List.mem_cons, not_or] at h
    exact splitOn_cons (Ne.symm h.1) (ih h.2)

theorem length_splitOn (sep : Char) (cs : List Char) :
    (splitOn sep cs).length = cs.count sep + 1 := by
  induction cs with
  | nil => rfl
  | cons c cs ih =>
    obtain ⟨rfl, h⟩ | ⟨hc, piece, pieces, hcs, h⟩ := splitOn_cases sep c cs
    · rw [h, List.length_cons, ih, List.count_cons_self]
    · rw [h, List.count_cons_of_ne hc, ← ih, hcs]
      rfl

/-- Characters that do not separate may be left out before or after. -/
theorem splitOn_filter {p : Char → Bool} (hp : p sep = true) (cs : List Char) :
    splitOn sep (cs.filter p) = (splitOn sep cs).map (List.filter p) := by
  induction cs with
  | nil => rfl
  | cons c cs ih =>
    obtain ⟨rfl, h⟩ | ⟨hc, piece, pieces, hcs, h⟩ := splitOn_cases sep c cs
    · rw [h, List.filter_cons_of_pos hp, splitOn_sep, ih]
      rfl
    · rw [hcs] at ih
      rw [h, List.map_cons]
      cases hpc : p c with
      | true =>
        rw [List.filter_cons_of_pos hpc, splitOn_cons hc ih, List.filter_cons_of_pos hpc]
      | false =>
        rw [List.filter_cons_of_neg (by simp [hpc]), ih, List.filter_cons_of_neg (by simp [hpc])]
        rfl

/-- What stands behind the last separator goes to the last piece. -/
theorem splitOn_append (hds : sep ∉ ds) (cs : List Char) : ∃ before last,
    splitOn sep cs = before ++ [last] ∧ splitOn sep (cs ++ ds) = before ++ [last ++ ds] := by
  induction cs with
  | nil => exact ⟨[], [], rfl, splitOn_of_notMem hds⟩
  | cons c cs ih =>
    obtain ⟨before, last, hcs, hlonger⟩ := ih
    rw [List.cons_append]
    by_cases hc : c = sep
    · subst hc
      exact ⟨[] :: before, last, by rw [splitOn_sep, hcs]; rfl, by rw [splitOn_sep, hlonger]; rfl⟩
    · cases before with
      | nil => exact ⟨[], c :: last, splitOn_cons hc hcs, splitOn_cons hc hlonger⟩
      | cons first before =>
        exact ⟨(c :: first) :: before, last, splitOn_cons hc hcs, splitOn_cons hc hlonger⟩

/-- Every character separates, or stands in a piece. -/
theorem exists_mem_splitOn (sep : Char) {c : Char} (h : c ∈ cs) :
    c = sep ∨ ∃ piece ∈ splitOn sep cs, c ∈ piece := by
  induction cs with
  | nil => cases h
  | cons d cs ih =>
    obtain ⟨rfl, hsplit⟩ | ⟨-, piece, pieces, hcs, hsplit⟩ := splitOn_cases sep d cs
    · rw [hsplit]
      rcases List.mem_cons.mp h with rfl | h
      · exact .inl rfl
      · exact (ih h).imp_right fun ⟨piece, hpiece, hc⟩ => ⟨piece, List.mem_cons_of_mem _ hpiece, hc⟩
    · rw [hsplit]
      rcases List.mem_cons.mp h with rfl | h
      · exact .inr ⟨_, List.mem_cons_self, List.mem_cons_self⟩
      · rcases ih h with heq | ⟨other, hother, hc⟩
        · exact .inl heq
        · rw [hcs] at hother
          rcases List.mem_cons.mp hother with rfl | hother
          · exact .inr ⟨_, List.mem_cons_self, List.mem_cons_of_mem _ hc⟩
          · exact .inr ⟨other, List.mem_cons_of_mem _ hother, hc⟩

/-- Each piece stands in the text. -/
theorem isInfix_of_mem_splitOn {piece : List Char} (h : piece ∈ splitOn sep cs) : piece <:+: cs := by
  -- The first piece stands at the front, so that it may become longer.
  have hparts : ∀ first rest, splitOn sep cs = first :: rest →
      first <+: cs ∧ ∀ piece ∈ rest, piece <:+: cs := by
    clear h
    induction cs with
    | nil =>
      rintro _ _ ⟨⟩
      exact ⟨List.prefix_rfl, nofun⟩
    | cons c cs ih =>
      intro first rest heq
      obtain ⟨rfl, hsplit⟩ | ⟨-, piece, pieces, hcs, hsplit⟩ := splitOn_cases sep c cs
      · cases hsplit.symm.trans heq
        refine ⟨List.nil_prefix, fun piece hpiece => ?_⟩
        obtain ⟨first, rest, hcs⟩ := List.exists_cons_of_ne_nil (splitOn_ne_nil c cs)
        obtain ⟨hfirst, hrest⟩ := ih first rest hcs
        rw [hcs] at hpiece
        refine List.IsInfix.trans ?_ (List.suffix_cons c cs).isInfix
        rcases List.mem_cons.mp hpiece with rfl | hpiece
        · exact hfirst.isInfix
        · exact hrest piece hpiece
      · cases hsplit.symm.trans heq
        obtain ⟨hfirst, hrest⟩ := ih piece rest hcs
        exact ⟨List.cons_prefix_cons.mpr ⟨rfl, hfirst⟩, fun other hother =>
          (hrest other hother).trans (List.suffix_cons c cs).isInfix⟩
  obtain ⟨first, rest, hcs⟩ := List.exists_cons_of_ne_nil (splitOn_ne_nil sep cs)
  obtain ⟨hfirst, hrest⟩ := hparts first rest hcs
  rw [hcs] at h
  rcases List.mem_cons.mp h with rfl | h
  · exact hfirst.isInfix
  · exact hrest piece h

/-- What is left behind the characters in front that pass a test. -/
theorem drop_length_takeWhile (p : Char → Bool) (cs : List Char) :
    cs.drop (cs.takeWhile p).length = cs.dropWhile p := by
  conv_lhs => arg 2; rw [← List.takeWhile_append_dropWhile (p := p) (l := cs)]
  exact List.drop_left

/-- A text without white space is left as it is. -/
theorem stripNumber_ofList (h : ∀ c ∈ cs, isNumberSpace c = false) :
    stripNumber (String.ofList cs) = cs := by
  have hkept {cs : List Char} (h : ∀ c ∈ cs, isNumberSpace c = false) :
      cs.dropWhile isNumberSpace = cs := by
    cases cs with
    | nil => rfl
    | cons c cs => rw [List.dropWhile_cons_of_neg (by simp [h c List.mem_cons_self])]
  rw [stripNumber, stripFront, stripBack, String.toList_ofList, hkept h,
    hkept (by simpa using h), List.reverse_reverse]

end Text

end Automation
