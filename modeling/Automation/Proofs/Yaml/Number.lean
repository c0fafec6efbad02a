import Automation.Proofs.Yaml.Integer

/-!
# Numbers of YAML

What has the form of a number is read as one, unless it is written in so many sixtieths that no float is
as great as what the first of them counts (`readNumber_unkept`).
-/

namespace Automation.Yaml

variable {c : Char} {cs : List Char} {s : String} {fault : Fault}

/-! ## Texts of floats -/

/-- The exponent of a number in small letters, or nothing. -/
def IsTail (cs : List Char) : Prop :=
  cs = [] ∨ ∃ sign digits, cs = 'e' :: sign :: digits ∧ (sign = '-' ∨ sign = '+') ∧ IsPart digits

/-- The texts of numbers without a sign, a filler and a capital. -/
inductive FloatText : List Char → Prop where
  | whole {digits : List Char} (h : IsPart digits) : FloatText digits
  | point {whole fraction tail : List Char} (hwhole : ∀ c ∈ whole, c.isDigit = true)
    (hfraction : ∀ c ∈ fraction, c.isDigit = true) (hne : whole ≠ [] ∨ fraction ≠ [])
    (htail : IsTail tail) : FloatText (whole ++ '.' :: (fraction ++ tail))

theorem takeDigits_append (hcs : ∀ c ∈ cs, c.isDigit = true) (rest : List Char)
    (hrest : ∀ c ∈ rest.head?, Text.decimalValue? c = none ∧ c ≠ '_') (value count : Nat) :
    ∃ n, Number.takeDigits value count (cs ++ rest) = (n, count + cs.length, rest) := by
  induction cs generalizing value count with
  | nil =>
    refine ⟨value, ?_⟩
    rw [List.nil_append, Number.takeDigits.eq_def]
    cases rest with
    | nil => rfl
    | cons c rest =>
      obtain ⟨hnone, hfill⟩ := hrest c rfl
      simp only [hnone]
      split
      · exact absurd rfl hfill
      · rfl
  | cons c cs ih =>
    obtain ⟨hc, hcs⟩ := List.forall_mem_cons.mp hcs
    obtain ⟨n, hn⟩ := ih hcs (value * 10 + (c.toNat - 48)) (count + 1)
    refine ⟨n, ?_⟩
    rw [List.cons_append, Number.takeDigits.eq_def]
    simp only [decimalValue?_of_isDigit hc, hn, List.length_cons]
    congr 2
    omega

theorem isSome_takeExponent (h : IsTail cs) : (Number.takeExponent cs).isSome = true := by
  rcases h with rfl | ⟨sign, digits, rfl, hsign, hdigits⟩
  · rfl
  · obtain ⟨n, hn⟩ := takeDigits_append hdigits.digits [] (by simp) 0 0
    rw [List.append_nil, Nat.zero_add] at hn
    have hlength : digits.length ≠ 0 := by simpa using hdigits.nonempty
    rcases hsign with rfl | rfl <;> simp [Number.takeExponent, Number.takeSign, hn, hlength]

theorem IsTail.head (h : IsTail cs) : ∀ c ∈ cs.head?, Text.decimalValue? c = none ∧ c ≠ '_' := by
  rcases h with rfl | ⟨sign, digits, rfl, -, -⟩
  · nofun
  · rintro _ ⟨⟩
    exact ⟨rfl, by decide⟩

/-- What stands in such texts. -/
theorem FloatText.chars (h : FloatText cs) :
    (∀ c ∈ cs, c.isDigit = true ∨ c = '.' ∨ c = 'e' ∨ c = '-' ∨ c = '+') ∧
      ∃ c rest, cs = c :: rest ∧ (c.isDigit = true ∨ c = '.') := by
  cases h with
  | whole h =>
    obtain ⟨c, rest, rfl⟩ := List.exists_cons_of_ne_nil h.nonempty
    exact ⟨fun d hd => .inl (h.digits d hd), c, rest, rfl, .inl (h.digits c List.mem_cons_self)⟩
  | @point whole fraction tail hwhole hfraction hne htail =>
    have htail : ∀ c ∈ tail, c.isDigit = true ∨ c = 'e' ∨ c = '-' ∨ c = '+' := by
      rcases htail with rfl | ⟨sign, digits, rfl, hsign, hdigits⟩
      · nofun
      · refine List.forall_mem_cons.mpr ⟨.inr (.inl rfl), List.forall_mem_cons.mpr ⟨?_, ?_⟩⟩
        · exact .inr (.inr hsign)
        · exact fun c hc => .inl (hdigits.digits c hc)
    constructor
    · intro c hc
      simp only [List.mem_append, List.mem_cons] at hc
      rcases hc with hc | rfl | hc | hc
      · exact .inl (hwhole c hc)
      · exact .inr (.inl rfl)
      · exact .inl (hfraction c hc)
      · rcases htail c hc with h | h
        · exact .inl h
        · exact .inr (.inr h)
    · cases whole with
      | nil => exact ⟨'.', _, rfl, .inr rfl⟩
      | cons c whole => exact ⟨c, _, rfl, .inl (hwhole c List.mem_cons_self)⟩

/-- Such a text is read. -/
theorem FloatText.isSome (h : FloatText cs) : (Number.readFloat? (String.ofList cs)).isSome = true := by
  obtain ⟨hchars, c, rest, hcs, hc⟩ := h.chars
  have hstrip : Text.stripNumber (String.ofList cs) = cs :=
    Text.stripNumber_ofList fun c hc => by
      rcases hchars c hc with hc | rfl | rfl | rfl | rfl
      · exact isNumberSpace_of_isAlphanum (isAlphanum_of_isDigit hc)
      all_goals rfl
  have hsign : Number.takeSign cs = (false, cs) := by
    unfold Number.takeSign
    split
    · rcases hc with hc | rfl <;> cases hcs
      exact absurd hc (by decide)
    · rcases hc with hc | rfl <;> cases hcs
      exact absurd hc (by decide)
    · rfl
  unfold Number.readFloat?
  rw [hstrip, hsign]
  dsimp only
  split
  · rfl
  split
  · rfl
  cases h with
  | whole h =>
    obtain ⟨n, hn⟩ := takeDigits_append h.digits [] (by simp) 0 0
    rw [List.append_nil, Nat.zero_add] at hn
    have hlength : cs.length ≠ 0 := by simpa using h.nonempty
    simp [hn, hlength, Number.takeExponent]
  | @point whole fraction tail hwhole hfraction hne htail =>
    obtain ⟨n, hn⟩ := takeDigits_append hwhole ('.' :: (fraction ++ tail))
      (by rintro _ ⟨⟩; exact ⟨rfl, by decide⟩) 0 0
    obtain ⟨m, hm⟩ := takeDigits_append hfraction _ htail.head n 0
    have hfill : ∀ c ∈ (fraction ++ tail).head?, c ≠ '_' := by
      cases fraction with
      | nil => exact fun c hc => (htail.head c hc).2
      | cons d fraction =>
        rintro _ ⟨⟩
        exact (ne_fill_of_isDigit (hfraction d List.mem_cons_self)).1
    have hlength : whole.length + fraction.length ≠ 0 := by
      rcases hne with hne | hne <;> have := List.length_pos_of_ne_nil hne <;> omega
    obtain ⟨power, hpower⟩ := Option.isSome_iff_exists.mp (isSome_takeExponent htail)
    clear hcs hstrip hsign hchars
    generalize fraction ++ tail = after at *
    cases after with
    | nil => simpa [hn, hm, hpower] using hlength
    | cons d after =>
      have hd := hfill d rfl
      simpa [hn, hm, hd, hpower] using hlength

/-! ## Small letters -/

/-- A number in small letters and without fillers. -/
def lowered (cs : List Char) : List Char := kept (cs.map Char.toLower)

theorem toLower_cases (c : Char) :
    c.toLower = c ∨ (65 ≤ c.toNat ∧ c.toNat ≤ 90) ∧ 97 ≤ c.toLower.toNat := by
  by_cases hsmall : c.toNat < 128
  · have hall : ∀ n : Fin 128, (Char.ofNat n).toLower = Char.ofNat n ∨
        (65 ≤ (Char.ofNat n).toNat ∧ (Char.ofNat n).toNat ≤ 90) ∧ 97 ≤ (Char.ofNat n).toLower.toNat := by
      decide +kernel
    exact forall_ascii (p := fun c => c.toLower = c ∨ (65 ≤ c.toNat ∧ c.toNat ≤ 90) ∧
      97 ≤ c.toLower.toNat) hall hsmall
  · left
    unfold Char.toLower
    rw [dif_neg]
    rintro ⟨-, hhigh⟩
    exact hsmall (lt_of_le_of_lt (UInt32.le_iff_toNat_le.mp hhigh) (by decide))

theorem toLower_of_lt (h : c.toNat < 65) : c.toLower = c := by
  rcases toLower_cases c with hc | hc
  · exact hc
  · omega

/-- No letter becomes a mark, and no mark a letter. -/
theorem toLower_eq_iff {d : Char} (hd : d.toNat < 65) : c.toLower = d ↔ c = d := by
  constructor
  · intro h
    rcases toLower_cases c with hc | hc
    · exact hc.symm.trans h
    · rw [h] at hc
      omega
  · rintro rfl
    exact toLower_of_lt hd

theorem lowered_append (cs ds : List Char) : lowered (cs ++ ds) = lowered cs ++ lowered ds := by
  simp [lowered, kept]

theorem lowered_cons (h : c.toNat < 65) : lowered (c :: cs) = c :: lowered cs := by
  rw [lowered, List.map_cons, toLower_of_lt h, kept_cons]
  · rfl
  · rintro rfl
    exact absurd h (by decide)

theorem toNat_lt_of_isDigit (h : c.isDigit = true) : c.toNat < 65 := by
  have := isDigit_iff.mp h
  omega

/-- Digits, marks and fillers have no case. -/
theorem lowered_eq_kept (h : ∀ c ∈ cs, c.toNat < 65 ∨ c = '_') : lowered cs = kept cs := by
  have hlower : ∀ c ∈ cs, c.toLower = id c := fun c hc => by
    rcases h c hc with hmark | rfl
    · exact toLower_of_lt hmark
    · rfl
  rw [lowered, List.map_congr_left hlower, List.map_id]

theorem lowered_digits (h : ∀ c ∈ cs, isDigitOrFill c = true) : lowered cs = kept cs := by
  refine lowered_eq_kept fun c hc => ?_
  rcases Bool.or_eq_true_iff.mp (h c hc) with hdigit | hfill
  · exact .inl (toNat_lt_of_isDigit hdigit)
  · exact .inr (beq_iff_eq.mp hfill)

theorem isTail_of_isExponent (h : isExponent cs = true) : IsTail (lowered cs) := by
  unfold isExponent at h
  split at h
  · exact .inl rfl
  · rename_i e sign digits
    simp only [Bool.and_eq_true, Bool.or_eq_true, beq_iff_eq, List.all_eq_true, Bool.not_eq_true'] at h
    obtain ⟨⟨⟨he, hsign⟩, hne⟩, hdigits⟩ := h
    right
    have hpart : IsPart (lowered digits) := by
      have hfill : ∀ c ∈ digits, isDigitOrFill c = true := fun c hc => by
        simp [isDigitOrFill, hdigits c hc]
      rw [lowered_digits hfill]
      obtain ⟨c, rest, rfl⟩ := List.exists_cons_of_ne_nil (List.isEmpty_eq_false_iff.mp hne)
      exact ⟨kept_digits hfill,
        kept_ne_nil ⟨c, rest, rfl, (ne_fill_of_isDigit (hdigits c List.mem_cons_self)).1⟩⟩
    refine ⟨sign, lowered digits, ?_, hsign, hpart⟩
    rw [← lowered_cons (by rcases hsign with rfl | rfl <;> decide)]
    rcases he with rfl | rfl <;> rfl
  · cases h

/-! ## Forms -/

/-- The forms of numbers. -/
inductive NumberForm (cs : List Char) : Prop where
  | decimal {whole fraction tail : List Char} (hcs : dropSign cs = whole ++ '.' :: (fraction ++ tail))
    (hwhole : isDigits whole = true) (hfraction : ∀ c ∈ fraction, isDigitOrFill c = true)
    (htail : isExponent tail = true)
  | sixtieths {whole fraction : List Char} (hcs : dropSign cs = whole ++ '.' :: fraction)
    (hwhole : isSexagesimal whole = true) (hfraction : ∀ c ∈ fraction, isDigitOrFill c = true)
  | fraction {fraction tail : List Char} (hcs : dropSign cs = '.' :: (fraction ++ tail))
    (hfraction : isDigits fraction = true) (htail : isExponent tail = true)
  | word {word : List Char} (hcs : dropSign cs = '.' :: word)
    (hword : lowered word = "inf".toList ∨ lowered word = "nan".toList)

theorem numberForm_of_isNumber (h : isNumber cs = true) : NumberForm cs := by
  have hwords : ∀ words ∈ [["inf", "Inf", "INF"], ["nan", "NaN", "NAN"]], ∀ word ∈ words,
      lowered word.toList = "inf".toList ∨ lowered word.toList = "nan".toList := by decide +kernel
  unfold isNumber at h
  simp only [Text.drop_length_takeWhile] at h
  have hsplit := List.takeWhile_append_dropWhile (p := (· != '.')) (l := dropSign cs)
  have hpoint := List.head?_dropWhile_not (· != '.') (dropSign cs)
  generalize (dropSign cs).takeWhile (· != '.') = whole at *
  generalize (dropSign cs).dropWhile (· != '.') = behind at *
  cases behind with
  | nil => cases h
  | cons c rest =>
    obtain rfl : c = '.' := by simpa using hpoint
    dsimp only at h
    have hrest := List.takeWhile_append_dropWhile (p := isDigitOrFill) (l := rest)
    have hfraction : ∀ c ∈ rest.takeWhile isDigitOrFill, isDigitOrFill c = true :=
      fun c => List.mem_takeWhile_imp
    generalize rest.takeWhile isDigitOrFill = fraction at *
    generalize rest.dropWhile isDigitOrFill = tail at *
    subst hrest
    simp only [Bool.or_eq_true, Bool.and_eq_true, List.isEmpty_iff, beq_iff_eq] at h
    have hwhole (h : whole = []) : dropSign cs = '.' :: (fraction ++ tail) := by
      rw [← hsplit, h]
      rfl
    have hword {words : List String} (h : words.contains (String.ofList (fraction ++ tail)) = true)
        (hmem : words ∈ [["inf", "Inf", "INF"], ["nan", "NaN", "NAN"]]) :
        lowered (fraction ++ tail) = "inf".toList ∨ lowered (fraction ++ tail) = "nan".toList := by
      simpa using hwords words hmem _ (List.contains_iff_mem.mp h)
    rcases h with (((⟨h, htail⟩ | ⟨h, htail⟩) | ⟨⟨⟨hnil, -⟩, h⟩, htail⟩) | ⟨hnil, h⟩) | ⟨⟨hnil, -⟩, h⟩
    · exact .decimal hsplit.symm h hfraction htail
    · exact .sixtieths (show dropSign cs = whole ++ '.' :: fraction by
        rw [← hsplit, htail, List.append_nil]) h hfraction
    · exact .fraction (hwhole hnil) h htail
    · exact .word (hwhole hnil) (hword h (by simp))
    · exact .word (hwhole hnil) (hword h (by simp))

/-- Where such a text has no separator, it is one part. -/
theorem FloatText.parts (h : FloatText cs) : ∀ part ∈ Text.splitOn ':' cs, FloatText part := by
  have hcolon : ':' ∉ cs := fun hmem => by
    rcases h.chars.1 ':' hmem with h | h | h | h | h <;> revert h <;> decide
  rw [Text.splitOn_of_notMem hcolon]
  exact List.forall_mem_singleton.mpr h

/-- The parts of a number are read, unless it is one of two names. -/
theorem NumberForm.parts (h : NumberForm cs) :
    (lowered (dropSign cs) = ".inf".toList ∨ lowered (dropSign cs) = ".nan".toList) ∨
      ∀ part ∈ Text.splitOn ':' (lowered (dropSign cs)), FloatText part := by
  cases h with
  | @decimal whole fraction tail hcs hwhole hfraction htail =>
    right
    rw [hcs, lowered_append, lowered_cons (by decide), lowered_append,
      lowered_digits (isDigits_iff.mp hwhole).2, lowered_digits hfraction]
    exact (FloatText.point (isPart_of_isDigits hwhole).digits (kept_digits hfraction)
      (.inl (isPart_of_isDigits hwhole).nonempty) (isTail_of_isExponent htail)).parts
  | @fraction fraction tail hcs hfraction htail =>
    right
    rw [hcs, lowered_cons (by decide), lowered_append, lowered_digits (isDigits_iff.mp hfraction).2]
    exact (FloatText.point (List.forall_mem_nil _) (isPart_of_isDigits hfraction).digits
      (.inr (isPart_of_isDigits hfraction).nonempty) (isTail_of_isExponent htail)).parts
  | @word word hcs hword =>
    left
    rw [hcs, lowered_cons (by decide)]
    rcases hword with hword | hword
    · exact .inl (by rw [hword]; rfl)
    · exact .inr (by rw [hword]; rfl)
  | @sixtieths whole fraction hcs hwhole hfraction =>
    right
    have hparts : ∀ part ∈ Text.splitOn ':' (kept whole), IsPart part := by
      rw [kept, Text.splitOn_filter (by decide)]
      exact List.forall_mem_map.mpr fun part hpart => isPart_of_mem (.inr hwhole) hpart
    have hlower : lowered whole = kept whole := by
      refine lowered_eq_kept fun c hc => ?_
      rcases Text.exists_mem_splitOn ':' hc with rfl | ⟨part, hpart, hc⟩
      · exact .inl (by decide)
      · by_cases hfill : c = '_'
        · exact .inr hfill
        · have hdigits := (isPart_of_mem (.inr hwhole) hpart).digits
          exact .inl (toNat_lt_of_isDigit (hdigits c (mem_kept.mpr ⟨hc, hfill⟩)))
    rw [hcs, lowered_append, lowered_cons (by decide), lowered_digits hfraction, hlower]
    have hcolon : ':' ∉ '.' :: kept fraction := fun hmem => by
      rcases List.mem_cons.mp hmem with h | h
      · exact absurd h (by decide)
      · exact absurd (kept_digits hfraction ':' h) (by decide)
    obtain ⟨before, last, hbefore, hafter⟩ := Text.splitOn_append hcolon (kept whole)
    rw [hbefore] at hparts
    rw [hafter]
    intro part hpart
    rcases List.mem_append.mp hpart with hpart | hpart
    · exact .whole (hparts part (List.mem_append_left _ hpart))
    · rw [List.mem_singleton.mp hpart]
      have hlast := hparts last (List.mem_append_right _ (List.mem_singleton_self last))
      have hpoint := FloatText.point hlast.digits (kept_digits hfraction) (.inl hlast.nonempty) (.inl rfl)
      rwa [List.append_nil] at hpoint

theorem NumberForm.head (h : NumberForm cs) :
    ∃ c rest, dropSign cs = c :: rest ∧ (c.isDigit = true ∨ c = '.') := by
  cases h with
  | @decimal whole fraction tail hcs hwhole hfraction htail =>
    obtain ⟨⟨c, rest, rfl, hc⟩, -⟩ := isDigits_iff.mp hwhole
    exact ⟨c, _, hcs, .inl hc⟩
  | @sixtieths whole fraction hcs hwhole hfraction =>
    obtain ⟨c, rest, rfl, hc⟩ := exists_cons_of_parts (.inr hwhole)
    exact ⟨c, _, hcs, .inl hc⟩
  | fraction hcs | word hcs => exact ⟨'.', _, hcs, .inr rfl⟩

theorem dropSign_lowered (h : ∃ c rest, dropSign cs = c :: rest ∧ (c.isDigit = true ∨ c = '.')) :
    dropSign (lowered cs) = lowered (dropSign cs) := by
  obtain ⟨c, rest, hdrop, hc⟩ := h
  obtain ⟨sign, rfl | rfl, hcs⟩ | hcs := isSign_cases cs
  · rw [hcs, lowered_cons (by decide)]
    rfl
  · rw [hcs, lowered_cons (by decide)]
    rfl
  · rw [hcs] at hdrop ⊢
    have hsmall : c.toNat < 65 := by
      rcases hc with hc | rfl
      · exact toNat_lt_of_isDigit hc
      · decide
    rw [hdrop, lowered_cons hsmall]
    unfold dropSign
    split
    · rename_i heq
      rw [(List.cons.inj heq).1] at hc
      exact absurd hc (by decide)
    · rename_i heq
      rw [(List.cons.inj heq).1] at hc
      exact absurd hc (by decide)
    · rfl

/-! ## Sixtieths -/

theorem log2_lt_iff (power : Nat) : (Nat.pow 60 power).log2 < 1024 ↔ power < 174 := by
  have hpos : Nat.pow 60 power ≠ 0 := (Nat.pow_pos (by decide)).ne'
  rw [Nat.log2_lt hpos]
  constructor
  · intro h
    by_contra hlarge
    have hle : 60 ^ 174 ≤ 60 ^ power := Nat.pow_le_pow_right (by decide) (Nat.le_of_not_lt hlarge)
    exact absurd (lt_of_le_of_lt hle h) (by decide +kernel)
  · intro h
    have hle : 60 ^ power ≤ 60 ^ 173 := Nat.pow_le_pow_right (by decide) (Nat.le_of_lt_succ h)
    exact lt_of_le_of_lt hle (by decide +kernel)

/-- There is a sum of so many sixtieths as the powers of sixty allow. -/
theorem sumSixtieths_error {parts : List Float} {power : Nat} {sum : Float}
    (h : sumSixtieths parts power sum = .error fault) :
    fault = .hugeNumber ∧ 174 < power + parts.length := by
  induction parts generalizing power sum with
  | nil => cases h
  | cons part parts ih =>
    rw [sumSixtieths] at h
    split at h
    · obtain ⟨hfault, hlarge⟩ := ih h
      exact ⟨hfault, by rw [List.length_cons]; omega⟩
    · rename_i hlarge
      cases h
      rw [log2_lt_iff] at hlarge
      exact ⟨rfl, by rw [List.length_cons]; omega⟩

theorem count_colon_lowered_le (cs : List Char) : (dropSign (lowered cs)).count ':' ≤ cs.count ':' := by
  have hdrop : (dropSign (lowered cs)).Sublist (lowered cs) := by
    obtain ⟨sign, -, hcs⟩ | hcs := isSign_cases (lowered cs)
    · have hrest := List.sublist_cons_self sign (dropSign (lowered cs))
      rwa [← hcs] at hrest
    · rw [hcs]
  have hkept : (lowered cs).Sublist (cs.map Char.toLower) := List.filter_sublist
  have hcase : (cs.map Char.toLower).count ':' = cs.count ':' := by
    rw [List.count_eq_countP, List.count_eq_countP, List.countP_map]
    refine List.countP_congr fun c _ => ?_
    simp [toLower_eq_iff (c := c) (d := ':') (by decide)]
  exact hcase ▸ (hdrop.trans hkept).count_le ':'

/-- A number has a value, unless it has too many sixtieths. -/
theorem readNumber_unkept (hform : isNumber s.toList = true) (herror : readNumber s = .error fault) :
    fault = .hugeNumber ∧ 174 ≤ s.toList.count ':' := by
  have hform := numberForm_of_isNumber hform
  have hlower : s.toLower.toList.filter (· != '_') = lowered s.toList := by
    have hmap : s.toLower = s.map Char.toLower := rfl
    rw [hmap, String.toList_map]
    rfl
  have hbody := dropSign_lowered hform.head
  have hne : lowered s.toList ≠ [] := by
    obtain ⟨c, rest, hdrop, hc⟩ := hform.head
    intro hnil
    rw [hnil, hdrop, lowered_cons] at hbody
    · cases hbody
    · rcases hc with hc | rfl
      · exact toNat_lt_of_isDigit hc
      · decide
  unfold readNumber at herror
  dsimp only at herror
  rw [hlower, String.toList_ofList, if_neg (by simpa using hne)] at herror
  split at herror
  · cases herror
  split at herror
  · cases herror
  rename_i hinf hnan
  rw [hbody] at hinf hnan
  have hparts : ∀ part ∈ Text.splitOn ':' (dropSign (lowered s.toList)), FloatText part := by
    rw [hbody]
    refine hform.parts.resolve_left ?_
    rintro (h | h) <;> rw [h] at hinf hnan
    · exact hinf rfl
    · exact hnan rfl
  rcases Except.bind_eq_error.mp herror with herror | ⟨parts, hread, herror⟩
  · obtain ⟨part, hpart, herror⟩ := Except.exists_of_mapM_error herror
    obtain ⟨x, hx⟩ := Option.isSome_iff_exists.mp (hparts part hpart).isSome
    rw [hx] at herror
    cases herror
  · have hlength := Except.length_of_mapM_ok hread
    rw [Text.length_splitOn] at hlength
    have hcolons := count_colon_lowered_le s.toList
    split at herror
    · cases herror
    · obtain ⟨hfault, hlarge⟩ := sumSixtieths_error (error_of_bind_pure herror)
      rw [List.length_reverse] at hlarge
      exact ⟨hfault, by omega⟩

end Automation.Yaml
