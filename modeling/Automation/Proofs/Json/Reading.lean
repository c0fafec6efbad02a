import Automation.Json.Reader
import Automation.Proofs.Schema.Reading
import Automation.Proofs.Text.Digits
import Automation.Proofs.Value.Part
import Mathlib.Data.List.TakeDrop

/-!
# What a JSON text holds

Whatever is read of a JSON text is plain (`plain_of_read`): of two fields with one name one is kept, and
an integer of too many digits is refused.
-/

namespace Automation

/-! ## Entries of pairs -/

namespace Entries

variable {α : Type} {entries changes : Entries α} {name : String} {value : α}

theorem has_of_mem_keys (h : name ∈ entries.keys) : entries.has name = true := by
  induction entries with
  | nil => cases h
  | cons entry rest ih =>
    obtain ⟨key, old⟩ := entry
    rw [has, get?_cons]
    split
    · rfl
    · rename_i hkey
      rcases List.mem_cons.mp h with rfl | h
      · exact absurd rfl hkey
      · exact ih h

theorem nodup_set (h : entries.keys.Nodup) : (entries.set name value).keys.Nodup := by
  rw [keys_set]
  split
  · exact h
  · rename_i hnew
    refine List.nodup_append.mpr ⟨h, List.nodup_singleton name, ?_⟩
    rintro key hkey _ hname rfl
    rw [List.mem_singleton.mp hname] at hkey
    exact hnew (has_of_mem_keys hkey)

theorem mem_of_mem_set {entry : String × α} (h : entry ∈ entries.set name value) :
    entry.2 = value ∨ entry ∈ entries := by
  induction entries with
  | nil => exact .inl (congrArg Prod.snd (List.mem_singleton.mp h))
  | cons first rest ih =>
    obtain ⟨key, old⟩ := first
    rw [set] at h
    split at h
    · rcases List.mem_cons.mp h with rfl | h
      · exact .inl rfl
      · exact .inr (List.mem_cons_of_mem _ h)
    · rcases List.mem_cons.mp h with rfl | h
      · exact .inr List.mem_cons_self
      · exact (ih h).imp_right (List.mem_cons_of_mem _)

theorem nodup_merge (h : entries.keys.Nodup) : (entries.merge changes).keys.Nodup := by
  induction changes generalizing entries with
  | nil => exact h
  | cons change changes ih => exact ih (nodup_set h)

theorem mem_of_mem_merge {entry : String × α} (h : entry ∈ entries.merge changes) :
    entry ∈ entries ∨ ∃ change ∈ changes, entry.2 = change.2 := by
  induction changes generalizing entries with
  | nil => exact .inl h
  | cons change changes ih =>
    rcases ih h with hset | ⟨found, hfound, heq⟩
    · rcases mem_of_mem_set hset with heq | hold
      · exact .inr ⟨change, List.mem_cons_self, heq⟩
      · exact .inl hold
    · exact .inr ⟨found, List.mem_cons_of_mem change hfound, heq⟩

end Entries

namespace Json

open Value

/-! ## Numbers and words -/

variable {cs rest : List Char} {v : Value}

theorem takeWhole_digits (cs : List Char) : ∀ c ∈ (takeWhole cs).1, Text.isLatinDigit c = true := by
  unfold takeWhole
  split
  · exact List.forall_mem_singleton.mpr rfl
  · rw [List.span_eq_takeWhile_dropWhile]
    exact fun c hc => List.mem_takeWhile_imp hc

theorem plain_of_number (h : readNumber? cs = some (.ok v, rest)) : v.Plain := by
  unfold readNumber? at h
  dsimp only at h
  have hdigits := takeWhole_digits (takeMinus cs).2
  generalize takeWhole (takeMinus cs).2 = taken at *
  split at h
  · cases h
  · split at h
    · split at h
      · cases h
      · rename_i hne _ hlimit
        cases h
        obtain ⟨n, hlt, hn⟩ := Text.natOfDigits?_latin hdigits
        have hpos : 0 < taken.1.length := List.length_pos_of_ne_nil (by simpa using hne)
        have hlength : (Nat.toDigits 10 n).length ≤ taken.1.length :=
          (Nat.length_toDigits_le_iff (by decide) hpos).mpr hlt
        rw [hn]
        refine plain_int.mpr (le_trans ?_ (Nat.le_of_not_lt hlimit))
        split <;> simpa using hlength
    · cases h
      exact plain_float _

theorem plain_of_word (h : (literals.findSome? fun (word, v) => (afterWord? word cs).map (v, ·))
    = some (v, rest)) : v.Plain := by
  obtain ⟨⟨word, w⟩, hmem, hfound⟩ := List.exists_of_findSome?_eq_some h
  obtain ⟨after, -, heq⟩ := Option.map_eq_some_iff.mp hfound
  cases heq
  have hall : ∀ entry ∈ literals, entry.2.Plain := by simp [literals]
  exact hall (word, v) hmem

/-! ## Values -/

/-- Whatever is read with so much fuel is plain. -/
structure ReadsPlain (fuel : Nat) : Prop where
  value : ∀ {cs v rest}, readValue fuel cs = .ok (v, rest) → v.Plain
  items : ∀ {cs items rest}, readItems fuel cs = .ok (items, rest) → ∀ x ∈ items, x.Plain
  pairs : ∀ {cs pairs rest}, readPairs fuel cs = .ok (pairs, rest) → ∀ field ∈ pairs, field.2.Plain

theorem ReadsPlain.value_succ {fuel : Nat} (ih : ReadsPlain fuel)
    (h : readValue (fuel + 1) cs = .ok (v, rest)) : v.Plain := by
  cases cs with
  | nil => cases h
  | cons c tail =>
    rw [readValue.eq_def] at h
    dsimp only at h
    split at h
    · obtain ⟨⟨s, after⟩, -, h⟩ := Except.bind_eq_ok.mp h
      cases h
      exact plain_text s
    split at h
    · split at h
      · cases h
        exact plain_list.mpr nofun
      · obtain ⟨⟨items, after⟩, hitems, h⟩ := Except.bind_eq_ok.mp h
        cases h
        exact plain_list.mpr (ih.items hitems)
    split at h
    · split at h
      · cases h
        exact plain_object.mpr ⟨List.nodup_nil, nofun⟩
      · obtain ⟨⟨pairs, after⟩, hpairs, h⟩ := Except.bind_eq_ok.mp h
        cases h
        refine plain_object.mpr ⟨Entries.nodup_merge List.nodup_nil, fun field hfield => ?_⟩
        obtain hnone | ⟨pair, hpair, heq⟩ := Entries.mem_of_mem_merge hfield
        · cases hnone
        · exact heq ▸ ih.pairs hpairs pair hpair
    split at h
    · rename_i found hfound
      cases h
      exact plain_of_word hfound
    · split at h
      · rename_i hnumber
        cases h
        exact plain_of_number hnumber
      · cases h
      · cases h

theorem ReadsPlain.items_succ {fuel : Nat} {items : List Value} (ih : ReadsPlain fuel)
    (h : readItems (fuel + 1) cs = .ok (items, rest)) : ∀ x ∈ items, x.Plain := by
  rw [readItems.eq_def] at h
  obtain ⟨⟨item, after⟩, hitem, h⟩ := Except.bind_eq_ok.mp h
  dsimp only at h
  split at h
  · cases h
    exact List.forall_mem_singleton.mpr (ih.value hitem)
  · obtain ⟨⟨items, after⟩, hitems, h⟩ := Except.bind_eq_ok.mp h
    cases h
    exact List.forall_mem_cons.mpr ⟨ih.value hitem, ih.items hitems⟩
  · cases h

theorem ReadsPlain.pairs_succ {fuel : Nat} {pairs : List (String × Value)} (ih : ReadsPlain fuel)
    (h : readPairs (fuel + 1) cs = .ok (pairs, rest)) : ∀ field ∈ pairs, field.2.Plain := by
  rw [readPairs.eq_def] at h
  dsimp only at h
  split at h
  · obtain ⟨⟨name, after⟩, -, h⟩ := Except.bind_eq_ok.mp h
    dsimp only at h
    split at h
    · obtain ⟨⟨value, after⟩, hvalue, h⟩ := Except.bind_eq_ok.mp h
      dsimp only at h
      split at h
      · cases h
        exact List.forall_mem_singleton.mpr (ih.value hvalue)
      · obtain ⟨⟨pairs, after⟩, hpairs, h⟩ := Except.bind_eq_ok.mp h
        cases h
        exact List.forall_mem_cons.mpr ⟨ih.value hvalue, ih.pairs hpairs⟩
      · cases h
    · cases h
  · cases h

theorem readsPlain (fuel : Nat) : ReadsPlain fuel := by
  induction fuel with
  | zero => exact ⟨nofun, nofun, nofun⟩
  | succ fuel ih => exact ⟨ih.value_succ, ih.items_succ, ih.pairs_succ⟩

/-- Whatever is read of a text is plain. -/
theorem plain_of_read {s : String} (h : read s = .ok v) : v.Plain := by
  unfold read at h
  split at h
  · rename_i found hdocument
    cases h
    unfold readDocument at hdocument
    dsimp only at hdocument
    split at hdocument
    · cases hdocument
    obtain ⟨⟨value, after⟩, hvalue, hdocument⟩ := Except.bind_eq_ok.mp hdocument
    dsimp only at hdocument
    split at hdocument
    · cases hdocument
      exact (readsPlain _).value hvalue
    · cases hdocument
  · cases h

end Json

end Automation
