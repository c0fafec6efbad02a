import Automation.Json.Reader
import Automation.Json.Writer
import Mathlib.Data.List.Basic

/-!
# Texts in JSON

A text is read as it was written (`readText_quoted`): one character at a time, and outside of the basic
plane from the two halves of a pair.
-/

namespace Automation.Json

/-! ## Code units -/

theorem hexValue?_digitChar {d : Nat} (h : d < 16) : hexValue? d.digitChar = some d := by
  have hall : ∀ i : Fin 16, hexValue? (Nat.digitChar i) = some i.val := by decide
  exact hall ⟨d, h⟩

theorem hex_succ {width n : Nat} (h : 0 < width) :
    Value.hex (width + 1) n = Value.hex width (n / 16) ++ [(n % 16).digitChar] := by
  by_cases hn : n < 16
  · have hdiv : n / 16 = 0 := by omega
    have hmod : n % 16 = n := by omega
    obtain ⟨w, rfl⟩ : ∃ w, width = w + 1 := ⟨width - 1, by omega⟩
    rw [hdiv, hmod]
    simp [Value.hex, Nat.toDigits_of_lt_base hn, ← List.replicate_succ']
  · simp [Value.hex, Nat.toDigits_of_base_le (by decide : 1 < 16) (by omega : 16 ≤ n)]

/-- The four digits of a code unit. -/
theorem hex_four {n : Nat} (h : n < 65536) :
    Value.hex 4 n = [(n / 4096).digitChar, (n / 256 % 16).digitChar, (n / 16 % 16).digitChar,
      (n % 16).digitChar] := by
  have hone : Value.hex 1 (n / 16 / 16 / 16) = [(n / 16 / 16 / 16).digitChar] := by
    simp [Value.hex, Nat.toDigits_of_lt_base (by omega : n / 16 / 16 / 16 < 16)]
  rw [hex_succ (by decide), hex_succ (by decide), hex_succ (by decide), hone]
  simp [Nat.div_div_eq_div_mul]

theorem readUnit?_hex {n : Nat} {rest : List Char} (h : n < 65536) (hrest : rest ≠ []) :
    readUnit? (Value.hex 4 n ++ rest) = some (n, rest) := by
  obtain ⟨e, rest, rfl⟩ := List.exists_cons_of_ne_nil hrest
  rw [hex_four h]
  simp only [List.cons_append, List.nil_append, readUnit?,
    hexValue?_digitChar (by omega : n / 4096 < 16),
    hexValue?_digitChar (by omega : n / 256 % 16 < 16),
    hexValue?_digitChar (by omega : n / 16 % 16 < 16),
    hexValue?_digitChar (by omega : n % 16 < 16)]
  change some (_, _) = some (_, _)
  congr 2
  omega

/-! ## Characters -/

variable {start acc rest : List Char} {c : Char} {fuel : Nat}

/-- A character in a text as it stands. -/
theorem readText_plain (hquote : c ≠ '"') (hslash : c ≠ '\\') (h : 32 ≤ c.toNat) :
    readText start (fuel + 1) acc (c :: rest) = readText start fuel (c :: acc) rest := by
  rw [readText.eq_def]
  simp [hquote, hslash, show ¬ c.toNat < 32 by omega]

/-- A character as an escape of one letter. -/
theorem readText_simple {e : Char} (hunit : e ≠ 'u') (h : simpleEscape? e = some c) :
    readText start (fuel + 1) acc ('\\' :: e :: rest) = readText start fuel (c :: acc) rest := by
  rw [readText.eq_def]
  simp [h]

/-- A character is none of the halves of a pair. -/
theorem scalar (c : Char) : c.toNat < 0xD800 ∨ 0xE000 ≤ c.toNat ∧ c.toNat < 0x110000 := by
  have hvalid : c.toNat < 55296 ∨ 57343 < c.toNat ∧ c.toNat < 1114112 := c.valid
  omega

/-- A character of the basic plane as an escape. -/
theorem readText_unit (hrest : rest ≠ []) (h : c.toNat < 65536) :
    readText start (fuel + 1) acc (escapeUnit c.toNat ++ rest)
      = readText start fuel (c :: acc) rest := by
  have hlow : ¬ (0xD800 ≤ c.toNat ∧ c.toNat < 0xDC00) := by have := scalar c; omega
  have hhigh : ¬ (0xDC00 ≤ c.toNat ∧ c.toNat < 0xE000) := by have := scalar c; omega
  simp only [escapeUnit, List.cons_append, List.nil_append]
  rw [readText.eq_def]
  simp only [readUnit?_hex h hrest, Char.ofNat_toNat]
  simp [hlow, hhigh]

/-- A character outside of the basic plane as a pair of escapes. -/
theorem readText_pair (hrest : rest ≠ []) (h : 65536 ≤ c.toNat) :
    readText start (fuel + 1) acc
        (escapeUnit ((c.toNat - 65536) / 1024 + 0xD800)
          ++ escapeUnit ((c.toNat - 65536) % 1024 + 0xDC00) ++ rest)
      = readText start fuel (c :: acc) rest := by
  have hscalar := scalar c
  obtain ⟨high, hhigh⟩ : ∃ k, k = (c.toNat - 65536) / 1024 + 0xD800 := ⟨_, rfl⟩
  obtain ⟨low, hlow⟩ : ∃ k, k = (c.toNat - 65536) % 1024 + 0xDC00 := ⟨_, rfl⟩
  have hcode : 65536 + (high - 0xD800) * 1024 + (low - 0xDC00) = c.toNat := by omega
  have hafter : readLowUnit? (escapeUnit low ++ rest) = some (low, rest) := by
    simp only [escapeUnit, List.cons_append, List.nil_append, readLowUnit?]
    rw [readUnit?_hex (by omega) hrest]
    simp [show 0xDC00 ≤ low by omega, show low < 0xE000 by omega]
  rw [← hhigh, ← hlow, List.append_assoc, escapeUnit]
  simp only [List.cons_append, List.nil_append]
  rw [readText.eq_def]
  have hnext : escapeUnit low ++ rest ≠ [] := by simp [escapeUnit]
  simp only [readUnit?_hex (by omega : high < 65536) hnext, hafter, hcode, Char.ofNat_toNat]
  simp [show 0xD800 ≤ high by omega, show high < 0xDC00 by omega]

theorem readText_escapeChar (hrest : rest ≠ []) :
    readText start (fuel + 1) acc (escapeChar c ++ rest) = readText start fuel (c :: acc) rest := by
  unfold escapeChar
  dsimp only
  split
  next h =>
    obtain rfl | rfl : c = '"' ∨ c = '\\' := by simpa using h
    · exact readText_simple (by decide) rfl
    · exact readText_simple (by decide) rfl
  next hspecial =>
    obtain ⟨hquote, hslash⟩ : c ≠ '"' ∧ c ≠ '\\' := by simpa using hspecial
    split_ifs with hn hr ht hb hf hplain hbasic
    · rw [eq_of_beq hn]; exact readText_simple (by decide) rfl
    · rw [eq_of_beq hr]; exact readText_simple (by decide) rfl
    · rw [eq_of_beq ht]; exact readText_simple (by decide) rfl
    · rw [eq_of_beq hb]; exact readText_simple (by decide) rfl
    · rw [eq_of_beq hf]; exact readText_simple (by decide) rfl
    · exact readText_plain hquote hslash (by simp at hplain; omega)
    · exact readText_unit hrest hbasic
    · exact readText_pair hrest (by omega)

/-! ## Texts -/

theorem readText_escaped (cs : List Char) (hfuel : cs.length < fuel) :
    readText start fuel acc (cs.flatMap escapeChar ++ '"' :: rest)
      = .ok (String.ofList (acc.reverse ++ cs), rest) := by
  induction cs generalizing fuel acc with
  | nil =>
    obtain ⟨fuel, rfl⟩ : ∃ k, fuel = k + 1 := ⟨fuel - 1, by omega⟩
    simp [readText]
  | cons c cs ih =>
    obtain ⟨fuel, rfl⟩ : ∃ k, fuel = k + 1 := ⟨fuel - 1, by omega⟩
    rw [List.flatMap_cons, List.append_assoc, readText_escapeChar (by simp), ih (by simpa using hfuel)]
    simp

theorem escapeChar_ne_nil (c : Char) : escapeChar c ≠ [] := by
  unfold escapeChar
  dsimp only
  split_ifs <;> exact List.cons_ne_nil _ _

theorem length_le_escaped (cs : List Char) : cs.length ≤ (cs.flatMap escapeChar).length := by
  induction cs with
  | nil => exact Nat.le_refl 0
  | cons c cs ih =>
    have hc := List.length_pos_of_ne_nil (escapeChar_ne_nil c)
    rw [List.flatMap_cons, List.length_append, List.length_cons]
    omega

theorem quoted_toList (s : String) :
    (quoted s).toList = '"' :: (s.toList.flatMap escapeChar ++ ['"']) := String.toList_ofList

/-- A text in quotes is read as it was, behind its first quote. -/
theorem readText_quoted (s : String) {cs : List Char}
    (hcs : cs = s.toList.flatMap escapeChar ++ '"' :: rest) :
    readText start (cs.length + 1) [] cs = .ok (s, rest) := by
  subst hcs
  have hlength := length_le_escaped s.toList
  rw [readText_escaped s.toList (by rw [List.length_append]; omega)]
  simp

end Automation.Json
