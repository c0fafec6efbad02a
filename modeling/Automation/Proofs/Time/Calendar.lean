import Automation.Time.Calendar

/-!
# The calendar and its day numbers

The day of a number is a day that the calendar has, and it has that number.
-/

namespace Automation.Time

/-! ## Months -/

theorem daysBeforeMonth_succ {month : Nat} (year : Nat) (h : 1 ≤ month) :
    daysBeforeMonth year (month + 1) = daysBeforeMonth year month + daysInMonth year month := by
  obtain ⟨m, rfl⟩ : ∃ m, month = m + 1 := ⟨month - 1, by omega⟩
  simp only [daysBeforeMonth, Nat.add_sub_cancel, List.range_succ, List.foldl_append,
    List.foldl_cons, List.foldl_nil]

theorem daysBeforeMonth_mono {year a b : Nat} (ha : 1 ≤ a) (h : a ≤ b) :
    daysBeforeMonth year a ≤ daysBeforeMonth year b := by
  induction h with
  | refl => exact Nat.le_refl _
  | step hab ih =>
    rw [daysBeforeMonth_succ year (Nat.le_trans ha hab)]
    omega

/-- The days of a year. -/
theorem daysBeforeMonth_year (year : Nat) :
    daysBeforeMonth year 13 = if isLeap year then 366 else 365 := by
  cases h : isLeap year <;> simp [daysBeforeMonth, List.range_succ, daysInMonth, h]

theorem ofDayOfYear_spec {year fuel month rest : Nat} (hfuel : month + fuel = 13) (hmonth : 1 ≤ month)
    (hrest : daysBeforeMonth year month + rest < daysBeforeMonth year 13) :
    let d := Date.ofDayOfYear year fuel month rest
    d.year = year ∧ 1 ≤ d.month ∧ d.month ≤ 12 ∧ 1 ≤ d.day ∧ d.day ≤ daysInMonth year d.month ∧
      daysBeforeMonth year d.month + d.day = daysBeforeMonth year month + rest + 1 := by
  -- The months that are left are the fuel, and `rest` counts the days from the start of this month.
  induction fuel generalizing month rest with
  | zero =>
    obtain rfl : month = 13 := by omega
    omega
  | succ fuel ih =>
    unfold Date.ofDayOfYear
    dsimp only
    have hsucc := daysBeforeMonth_succ year hmonth
    split
    · rename_i hlt
      refine ⟨rfl, hmonth, ?_, ?_, hlt, ?_⟩ <;> dsimp only <;> omega
    · rename_i hge
      have hnext : daysBeforeMonth year (month + 1) + (rest - daysInMonth year month)
          < daysBeforeMonth year 13 := by
        omega
      obtain ⟨hyear, h1, h12, hday, hle, hsum⟩ := ih (by omega) (by omega) hnext
      exact ⟨hyear, h1, h12, hday, hle, by omega⟩

/-! ## Years -/

theorem daysBeforeMonth_one (year : Nat) : daysBeforeMonth year 1 = 0 := rfl

theorem isLeap_iff (year : Nat) :
    isLeap year = true ↔ year % 4 = 0 ∧ (year % 100 ≠ 0 ∨ year % 400 = 0) := by
  simp [isLeap]

/-- The days before a year that is some cycles, centuries, groups of four and years after the first
one. -/
theorem daysBeforeYear_split {year cycles centuries fours years : Nat}
    (hyear : year = cycles * 400 + centuries * 100 + fours * 4 + years + 1)
    (hcenturies : centuries ≤ 3) (hfours : fours ≤ 24) (hyears : years ≤ 3) :
    daysBeforeYear year
      = cycles * 146097 + centuries * 36524 + fours * 1461 + years * 365 := by
  simp only [daysBeforeYear]
  omega

/-- A day after some whole cycles, centuries, groups of four and years is a day of the next year. -/
theorem rest_lt_year {year cycles centuries fours years rest : Nat}
    (hyear : year = cycles * 400 + centuries * 100 + fours * 4 + years + 1)
    (hrest : rest ≤ 365) (hleap : rest = 365 → years = 3)
    (hcentury : fours * 1461 + years * 365 + rest < 36524 ∨
      centuries = 3 ∧ fours * 1461 + years * 365 + rest = 36524) :
    rest < daysBeforeMonth year 13 := by
  rw [daysBeforeMonth_year]
  split
  · omega
  · rename_i hplain
    rw [isLeap_iff] at hplain
    -- The last day of four years is the last of a leap year, unless the century ends before it.
    by_cases hlast : rest = 365
    · have hyears := hleap hlast
      omega
    · omega

namespace Date

/-- The year of a number, and the days of the year before its day. -/
theorem ofOrdinal_year {n : Nat} (h : 1 ≤ n) (hlast : n ≤ lastOrdinal) :
    ∃ year rest, ofOrdinal n = ofDayOfYear year 12 1 rest ∧ 1 ≤ year ∧ year ≤ 9999 ∧
      daysBeforeYear year + rest + 1 = n ∧ rest < daysBeforeMonth year 13 := by
  unfold lastOrdinal at hlast
  unfold ofOrdinal
  dsimp only
  generalize hcycles : (n - 1) / 146097 = cycles
  generalize hn₁ : (n - 1) % 146097 = n₁
  generalize hcenturies : min (n₁ / 36524) 3 = centuries
  generalize hn₂ : n₁ - centuries * 36524 = n₂
  generalize hfours : n₂ / 1461 = fours
  generalize hn₃ : n₂ % 1461 = n₃
  generalize hyears : min (n₃ / 365) 3 = years
  generalize hrest : n₃ - years * 365 = rest
  have hn : n = cycles * 146097 + n₁ + 1 := by omega
  have hn₁eq : n₁ = centuries * 36524 + n₂ := by omega
  have hn₂eq : n₂ = fours * 1461 + n₃ := by omega
  have hn₃eq : n₃ = years * 365 + rest := by omega
  have hcenturies3 : centuries ≤ 3 := by omega
  have hn₂le : n₂ < 36524 ∨ centuries = 3 ∧ n₂ = 36524 := by omega
  have hfours24 : fours ≤ 24 := by omega
  have hyears3 : years ≤ 3 := by omega
  have hrest365 : rest ≤ 365 ∧ (rest = 365 → years = 3) := by omega
  -- From here on the parts are only added up, and the divisions would keep omega busy.
  clear hcycles hn₁ hcenturies hn₂ hfours hn₃ hyears hrest
  refine ⟨_, rest, rfl, by omega, by omega, ?_, ?_⟩
  · rw [daysBeforeYear_split rfl hcenturies3 hfours24 hyears3]
    omega
  · exact rest_lt_year rfl hrest365.1 hrest365.2 (by omega)

/-- The day of a number is a day of the calendar, and its number is the number. -/
theorem ofOrdinal_spec {n : Nat} (h : 1 ≤ n) (hlast : n ≤ lastOrdinal) :
    (ofOrdinal n).Valid ∧ (ofOrdinal n).ordinal = n := by
  obtain ⟨year, rest, heq, hyear, hyear9999, hn, hrest⟩ := ofOrdinal_year h hlast
  have hbefore : daysBeforeMonth year 1 + rest < daysBeforeMonth year 13 := by
    rw [daysBeforeMonth_one, Nat.zero_add]
    exact hrest
  have hmonths : 1 + 12 = 13 := rfl
  have hspec := ofDayOfYear_spec hmonths (Nat.le_refl 1) hbefore
  rw [heq]
  generalize ofDayOfYear year 12 1 rest = d at hspec
  obtain ⟨rfl, hmonth, hmonth12, hday, hdays, hsum⟩ := hspec
  rw [daysBeforeMonth_one, Nat.zero_add] at hsum
  refine ⟨⟨hyear, hyear9999, hmonth, hmonth12, hday, hdays⟩, ?_⟩
  rw [ordinal, Nat.add_assoc, hsum, ← Nat.add_assoc, hn]

/-- The number of a day of the calendar is one of the calendar. -/
theorem ordinal_bounds {d : Date} (h : d.Valid) : 1 ≤ d.ordinal ∧ d.ordinal ≤ lastOrdinal := by
  obtain ⟨hyear, hyear9999, hmonth, hmonth12, hday, hdays⟩ := h
  have hsucc := daysBeforeMonth_succ d.year hmonth
  have hmono : daysBeforeMonth d.year (d.month + 1) ≤ daysBeforeMonth d.year 13 :=
    daysBeforeMonth_mono (by omega) (by omega)
  rw [daysBeforeMonth_year] at hmono
  simp only [ordinal, daysBeforeYear, lastOrdinal]
  constructor
  · omega
  · split at hmono
    · rename_i hleap
      rw [isLeap_iff] at hleap
      omega
    · omega

end Date

end Automation.Time
