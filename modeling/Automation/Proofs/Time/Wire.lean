import Automation.Proofs.Time.Calendar
import Automation.Proofs.Time.Digits

/-!
# Stamps read back

A stamp of the calendar whose offset counts whole minutes is read as it was written. Every stamp
that is read of a message is of that kind.
-/

namespace Automation.Time

open Number

/-- A stamp that a message can hold. -/
def Stamp.Storable (t : Stamp) : Prop :=
  Stamp.InCalendar t.wall ∧ ∀ o ∈ t.offset, o.natAbs < 86400000000 ∧ o.natAbs % 60000000 = 0

instance (t : Stamp) : Decidable t.Storable := by unfold Stamp.Storable; infer_instance

theorem hour_toNat : hour.toNat = 3600000000 := rfl

theorem minute_toNat : minute.toNat = 60000000 := rfl

theorem second_toNat : second.toNat = 1000000 := rfl

namespace Wire

variable {rest : List Char}

/-! ## Dates -/

theorem writeDate_toList (d : Date) :
    (Stamp.writeDate d).toList = (padded 4 d.year).toList ++ '-' :: ((padded 2 d.month).toList ++
      '-' :: (padded 2 d.day).toList) := by
  simp [Stamp.writeDate]

theorem daysInMonth_le (year month : Nat) : daysInMonth year month ≤ 31 := by
  unfold daysInMonth
  split
  · split <;> omega
  · split <;> omega

theorem datePart_write {d : Date} (h : d.Valid) :
    datePart ((Stamp.writeDate d).toList ++ rest) = .ok (d, rest) := by
  obtain ⟨hyear, hyear9999, hmonth, hmonth12, hday, hdays⟩ := h
  have hdays31 := daysInMonth_le d.year d.month
  have hpyear : Padding 4 d.year (padded 4 d.year).toList := padded_padding (by decide) (by omega)
  have hpmonth : Padding 2 d.month (padded 2 d.month).toList :=
    padded_padding (by decide) (by omega)
  have hpday : Padding 2 d.day (padded 2 d.day).toList := padded_padding (by decide) (by omega)
  have hsize : ¬ (String.ofList ((Stamp.writeDate d).toList ++ rest)).utf8ByteSize < 10 := by
    have hle := Text.length_le_utf8ByteSize ((Stamp.writeDate d).toList ++ rest)
    rw [writeDate_toList] at hle ⊢
    simp only [List.length_append, List.length_cons, hpyear.length, hpmonth.length,
      hpday.length] at hle
    omega
  unfold datePart
  rw [if_neg hsize]
  rw [writeDate_toList, List.append_assoc, List.cons_append, List.append_assoc, List.cons_append]
  simp only [digits_padding hpyear, digits_padding hpmonth, digits_padding hpday, dash, bind,
    Except.bind, pure, Except.pure]
  rw [if_neg (by simp; omega), if_neg (by omega), if_neg (by simp; omega)]

/-! ## Clocks -/

/-- What can stand behind the seconds: no digit goes on with the fraction, and no mark begins one. -/
def Tail (cs : List Char) : Prop :=
  ∀ c ∈ cs.head?, Text.isLatinDigit c = false ∧ c ≠ '.' ∧ c ≠ ','

theorem takeWhile_digits {cs : List Char} (hcs : ∀ c ∈ cs, Text.isLatinDigit c = true)
    (htail : Tail rest) : (cs ++ rest).takeWhile Text.isLatinDigit = cs := by
  induction cs with
  | nil =>
    cases rest with
    | nil => rfl
    | cons c rest =>
      have hc := (htail c rfl).1
      simp [hc]
  | cons c cs ih =>
    have hc := hcs c List.mem_cons_self
    rw [List.cons_append, List.takeWhile_cons, if_pos hc,
      ih fun x hx => hcs x (List.mem_cons_of_mem c hx)]

theorem fraction?_write {micros : Nat} (h : micros < 1000000) (htail : Tail rest) :
    fraction? ((Stamp.writeFraction micros).toList ++ rest) = some (micros, rest) := by
  unfold Stamp.writeFraction
  split
  · rename_i hzero
    subst hzero
    cases rest with
    | nil => rfl
    | cons c rest =>
      obtain ⟨-, hdot, hcomma⟩ := htail c rfl
      simp [fraction?, hdot, hcomma]
  · -- All six digits are written, so the reader has nothing to fill up.
    have hp : Padding 6 micros (padded 6 micros).toList := padded_padding (by decide) (by omega)
    rw [String.toList_append]
    change fraction? ('.' :: ((padded 6 micros).toList ++ rest)) = _
    have hne : (padded 6 micros).toList.isEmpty = false := by
      rw [List.isEmpty_eq_false_iff]
      intro hnil
      have := hp.length
      rw [hnil] at this
      cases this
    have htake : (padded 6 micros).toList.take 6 = (padded 6 micros).toList :=
      List.take_of_length_le (Nat.le_of_eq hp.length)
    simp only [fraction?, beq_self_eq_true, Bool.true_or, if_true, takeWhile_digits hp.digits htail,
      hne, htake, hp.value, hp.length, List.drop_left', Bool.false_eq_true, if_false, Option.map_some]
    simp

theorem writeOffset_toList {o : Int} (hwhole : o.natAbs % 60000000 = 0) :
    (Stamp.writeOffset o).toList = (if o < 0 then '-' else '+') ::
      ((padded 2 (o.natAbs / 3600000000)).toList ++ ':' ::
        ((padded 2 (o.natAbs / 60000000 % 60)).toList ++ [])) := by
  simp only [Stamp.writeOffset, minute_toNat, hour_toNat, hwhole, if_true]
  split <;> simp

theorem offset?_sign {sign : Char} (hsign : sign = '+' ∨ sign = '-') :
    offset? (sign :: rest) = (two? 100 rest).bind fun (hours, rest) =>
      (two? 60 (if rest.head? == some ':' then rest.drop 1 else rest)).bind fun (minutes, rest) =>
        let size : Int := hours * hour + minutes * minute
        if !rest.isEmpty || day ≤ size then none
        else some (some (if sign == '+' then size else -size)) := by
  rcases hsign with rfl | rfl <;> rfl

/-- An offset of some hours and minutes that make up less than a day. -/
theorem offset?_parts {sign : Char} {hours minutes : Nat} {hs ms : List Char} {size : Int}
    (hsign : sign = '+' ∨ sign = '-') (hhours : Padding 2 hours hs) (hhours100 : hours < 100)
    (hminutes : Padding 2 minutes ms) (hminutes60 : minutes < 60)
    (hsize : (hours : Int) * hour + minutes * minute = size) (hday : size < day) :
    offset? (sign :: (hs ++ ':' :: ms))
      = some (some (if sign == '+' then size else -size)) := by
  have hms : two? 60 ms = some (minutes, []) := by
    have h : two? 60 (ms ++ []) = some (minutes, []) := two?_padding hminutes hminutes60
    rwa [List.append_nil] at h
  have hcolon : (if (':' :: ms).head? == some ':' then (':' :: ms).drop 1 else ':' :: ms) = ms :=
    rfl
  rw [offset?_sign hsign, two?_padding hhours hhours100, Option.bind_some]
  dsimp only
  rw [hcolon, hms, Option.bind_some]
  dsimp only
  rw [hsize, if_neg (by simpa using hday)]

theorem offset?_write {o : Int} (hday : o.natAbs < 86400000000) (hwhole : o.natAbs % 60000000 = 0) :
    offset? (Stamp.writeOffset o).toList = some (some o) := by
  have hhours : Padding 2 (o.natAbs / 3600000000) (padded 2 (o.natAbs / 3600000000)).toList :=
    padded_padding (by decide) (by omega)
  have hminutes : Padding 2 (o.natAbs / 60000000 % 60) (padded 2 (o.natAbs / 60000000 % 60)).toList :=
    padded_padding (by decide) (by omega)
  have hsize : ((o.natAbs / 3600000000 : Nat) : Int) * hour
      + ((o.natAbs / 60000000 % 60 : Nat) : Int) * minute = o.natAbs := by
    simp only [hour, minute, second]
    omega
  rw [writeOffset_toList hwhole, List.append_nil]
  have hlt : (o.natAbs : Int) < day := by
    simp only [day, hour, minute, second]
    omega
  rw [offset?_parts (by split <;> simp) hhours (by omega) hminutes (by omega) hsize hlt]
  by_cases hneg : o < 0
  · have ho : -(o.natAbs : Int) = o := by omega
    rw [if_pos hneg, if_neg (by decide), ho]
  · have ho : (o.natAbs : Int) = o := by omega
    rw [if_neg hneg, if_pos (by decide), ho]

/-- The parts of a time of day make it up. -/
theorem timeOfDay_eq (t : Stamp) : (t.hours : Int) * hour + t.minutes * minute + t.seconds * second
    + t.micros = t.timeOfDay := by
  simp only [Stamp.hours, Stamp.minutes, Stamp.seconds, Stamp.micros, minute_toNat, hour_toNat,
    second_toNat]
  simp only [hour, minute, second]
  omega

theorem timeOfDay_lt (t : Stamp) : t.timeOfDay < 86400000000 := by
  have hday : day = 86400000000 := rfl
  rw [Stamp.timeOfDay, hday]
  have hlt := Int.fmod_lt_of_pos t.wall (b := 86400000000) (by decide)
  omega

theorem clock?_write {t : Stamp} (htail : Tail rest) {offset : Option Int}
    (hoffset : offset? rest = some offset) :
    clock? (t.writeClock.toList ++ ((Stamp.writeFraction t.micros).toList ++ rest))
      = some ((t.timeOfDay : Int), offset) := by
  have hlt := timeOfDay_lt t
  have hh : t.hours < 24 := by rw [Stamp.hours, hour_toNat]; omega
  have hm : t.minutes < 60 := by rw [Stamp.minutes, minute_toNat]; omega
  have hs : t.seconds < 60 := by rw [Stamp.seconds, second_toNat]; omega
  have hmicros : t.micros < 1000000 := by rw [Stamp.micros, second_toNat]; omega
  have hhours : Padding 2 t.hours (padded 2 t.hours).toList := padded_padding (by decide) (by omega)
  have hminutes : Padding 2 t.minutes (padded 2 t.minutes).toList :=
    padded_padding (by decide) (by omega)
  have hseconds : Padding 2 t.seconds (padded 2 t.seconds).toList :=
    padded_padding (by decide) (by omega)
  have hwrite : t.writeClock.toList ++ ((Stamp.writeFraction t.micros).toList ++ rest)
      = (padded 2 t.hours).toList ++ ':' :: ((padded 2 t.minutes).toList ++
        ':' :: ((padded 2 t.seconds).toList ++ ((Stamp.writeFraction t.micros).toList ++ rest))) := by
    simp [Stamp.writeClock]
  rw [hwrite]
  simp only [clock?, two?_padding hhours hh, two?_padding hminutes hm, two?_padding hseconds hs,
    fraction?_write hmicros htail, hoffset, Option.bind_eq_bind, Option.bind_some, timeOfDay_eq]
  rfl

/-! ## Stamps -/

/-- The offset of a stamp as it stands at the end of its text. -/
def offsetMark : Option Int → String
  | some o => if o = 0 then "Z" else Stamp.writeOffset o
  | none => ""

theorem wire_toList (t : Stamp) :
    t.wire.toList = (Stamp.writeDate t.date).toList ++ 'T' :: (t.writeClock.toList ++
      ((Stamp.writeFraction t.micros).toList ++ (offsetMark t.offset).toList)) := by
  unfold Stamp.wire offsetMark
  cases t.offset <;> simp

theorem offsetMark_tail {offset : Option Int}
    (h : ∀ o ∈ offset, o.natAbs < 86400000000 ∧ o.natAbs % 60000000 = 0) :
    Tail (offsetMark offset).toList ∧ offset? (offsetMark offset).toList = some offset := by
  cases offset with
  | none => exact ⟨by rintro c ⟨⟩, rfl⟩
  | some o =>
    obtain ⟨hday, hwhole⟩ := h o rfl
    by_cases hzero : o = 0
    · subst hzero
      exact ⟨by rintro c ⟨⟩; decide, rfl⟩
    · rw [offsetMark, if_neg hzero]
      -- An offset begins with its sign, which no digit or mark of a fraction is.
      refine ⟨?_, offset?_write hday hwhole⟩
      rw [writeOffset_toList hwhole]
      rintro c ⟨⟩
      split <;> decide

/-- A stamp is read as it was written. -/
theorem read_wire {t : Stamp} (h : t.Storable) : read t.wire = .ok t := by
  obtain ⟨⟨hwall, hlimit⟩, hoffset⟩ := h
  obtain ⟨htail, hmark⟩ := offsetMark_tail hoffset
  have hday : day = 86400000000 := rfl
  have hwallLimit : Stamp.wallLimit = 3652059 * 86400000000 := rfl
  have hdate : t.date = Date.ofOrdinal ((t.wall.fdiv day).toNat + 1) := rfl
  have hdiv := Int.mul_fdiv_add_fmod t.wall day
  have hdays := Int.fdiv_nonneg hwall (b := day) (by decide)
  have hmod := Int.fmod_nonneg_of_pos t.wall (b := day) (by decide)
  rw [hday] at hdiv hdays hmod hdate
  have hspec := Date.ofOrdinal_spec (n := (t.wall.fdiv 86400000000).toNat + 1) (by omega) (by
    have hlt := Int.fmod_lt_of_pos t.wall (b := 86400000000) (by decide)
    unfold lastOrdinal
    omega)
  rw [← hdate] at hspec
  -- The date and the time of day are read one by one, and together they are the old moment.
  have hwhole : ((t.date.ordinal : Int) - 1) * day + (t.timeOfDay : Int) = t.wall := by
    rw [hspec.2, Stamp.timeOfDay, hday]
    omega
  unfold read
  simp only [wire_toList, datePart_write hspec.1, Except.toOption, Option.bind_eq_bind,
    Option.bind_some, clock?_write htail hmark, hwhole]
  rfl

end Wire

end Automation.Time
