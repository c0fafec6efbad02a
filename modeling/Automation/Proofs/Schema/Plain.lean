import Automation.Proofs.Schema.Reading
import Automation.Proofs.Schema.RoundTrip
import Automation.Proofs.Text.Digits
import Automation.Proofs.Value.Part

/-!
# What is written stays plain

A codec keeps data plain if what it writes is plain whenever what it has read it from was. The names
that a record is written under are distinct, so a record keeps data plain if its fields do.
-/

namespace Automation.Schema

variable {α β ρ : Type} {layout : Layout}

/-! ## Codecs -/

namespace Codec

@[simp] theorem plain_text {s : String} : (text.write layout s).Plain := Value.plain_text s

@[simp] theorem plain_boundedText {least : Nat} {most : Option Nat} {s : String} :
    ((boundedText least most).write layout s).Plain := Value.plain_text s

@[simp] theorem plain_flag {b : Bool} : (flag.write layout b).Plain := Value.plain_bool b

@[simp] theorem plain_number {x : Float} : (number.write layout x).Plain := Value.plain_float x

@[simp] theorem plain_choice {names : List String} {ofName? : String → Option α} {name : α → String}
    {a : α} : ((choice names ofName? name).write layout a).Plain := Value.plain_text (name a)

@[simp] theorem write_guarded {c : Codec α} {ok : α → Bool} {complaint : Complaint} {a : α} :
    (guarded c ok complaint).write layout a = c.write layout a := rfl

@[simp] theorem plain_optional {c : Codec α} {a : Option α} :
    ((optional c).write layout a).Plain ↔ ∀ x ∈ a, (c.write layout x).Plain := by
  cases a <;> simp [optional, Value.ofOption]

@[simp] theorem plain_list {c : Codec α} {items : List α} :
    ((list c).write layout items).Plain ↔ ∀ x ∈ items, (c.write layout x).Plain := by
  simp [list]

@[simp] theorem plain_dictionary {c : Codec α} {entries : Entries α} :
    ((dictionary c).write layout entries).Plain ↔
      (Entries.keys entries).Nodup ∧ ∀ entry ∈ entries, (c.write layout entry.2).Plain := by
  have hkeys : Entries.keys (entries.map fun entry => (entry.1, c.write layout entry.2))
      = Entries.keys entries := by simp [Entries.keys]
  change (Value.object (entries.map fun entry => (entry.1, c.write layout entry.2))).Plain ↔ _
  rw [Value.plain_object, hkeys, List.forall_mem_map]

/-- Of plain data something is read that is written as plain data. -/
structure Keeps (c : Codec α) : Prop where
  plain : ∀ {v : Value} {a : α}, v.Plain → c.read v = .ok a → ∀ layout, (c.write layout a).Plain

theorem Keeps.always {c : Codec α} (h : ∀ a layout, (c.write layout a).Plain) : c.Keeps :=
  ⟨fun _ _ => h _⟩

theorem Keeps.text : text.Keeps := .always fun _ _ => plain_text

theorem Keeps.any : any.Keeps := by
  refine ⟨fun {v a} hv h => ?_⟩
  cases h
  exact fun _ => hv

theorem Keeps.guarded {c : Codec α} {ok : α → Bool} {complaint : Complaint} (hc : c.Keeps) :
    (guarded c ok complaint).Keeps := by
  refine ⟨fun hv h => ?_⟩
  obtain ⟨a, ha, h⟩ := Checked.andThen_eq_ok.mp h
  split at h
  · cases h
    exact hc.plain hv ha
  · cases h

theorem Keeps.optional {c : Codec α} (hc : c.Keeps) : (optional c).Keeps := by
  refine ⟨fun hv h layout => plain_optional.mpr ?_⟩
  simp only [Codec.optional] at h
  split at h
  · cases h
    rintro x ⟨⟩
  · obtain ⟨x, hx, rfl⟩ := Checked.map_eq_ok.mp h
    rintro y ⟨⟩
    exact hc.plain hv hx layout

theorem Keeps.list {c : Codec α} (hc : c.Keeps) : (list c).Keeps := by
  refine ⟨fun {v items} hv h layout => plain_list.mpr fun x hx => ?_⟩
  cases v with
  | list sources =>
    obtain ⟨source, hsource, hread⟩ := exists_of_readItems h x hx
    exact hc.plain (hv.item hsource) hread layout
  | _ => cases h

/-- The entries of a dictionary are read one by one, each under its name. -/
theorem exists_of_readEntries {c : Codec α} {fields : List (String × Value)} {entries : Entries α}
    (h : (dictionary c).read (Value.object fields) = .ok entries) :
    Entries.keys entries = Entries.keys fields ∧
      ∀ entry ∈ entries, ∃ field ∈ fields, c.read field.2 = .ok entry.2 := by
  change Checked.all ((fields.map fun field => (Key.name field.1, field.2)).map (readEntry c)) = _ at h
  induction fields generalizing entries with
  | nil =>
    cases h
    exact ⟨rfl, nofun⟩
  | cons field fields ih =>
    obtain ⟨g, rest, hg, hrest, rfl⟩ := Checked.both_eq_ok.mp h
    obtain ⟨entry, hentry, rfl⟩ := Checked.map_eq_ok.mp hg
    obtain ⟨k, a, hk, ha, rfl⟩ := Checked.both_eq_ok.mp hentry
    cases hk
    obtain ⟨hkeys, hall⟩ := ih hrest
    refine ⟨congrArg (field.1 :: ·) hkeys, List.forall_mem_cons.mpr
      ⟨⟨field, List.mem_cons_self, Checked.under_eq_ok.mp ha⟩, fun entry hentry => ?_⟩⟩
    obtain ⟨found, hfound, hread⟩ := hall entry hentry
    exact ⟨found, List.mem_cons_of_mem field hfound, hread⟩

theorem Keeps.dictionary {c : Codec α} (hc : c.Keeps) : (dictionary c).Keeps := by
  refine ⟨fun {v entries} hv h layout => plain_dictionary.mpr ?_⟩
  cases v with
  | object fields =>
    obtain ⟨hkeys, hall⟩ := exists_of_readEntries h
    obtain ⟨hnames, hvalues⟩ := Value.plain_object.mp hv
    refine ⟨hkeys ▸ hnames, fun entry hentry => ?_⟩
    obtain ⟨field, hfield, hread⟩ := hall entry hentry
    exact hc.plain (hvalues field hfield) hread layout
  | _ => cases h

end Codec

/-! ## Integers -/

theorem takeDigits_lt {cs : List Char} (hcs : ∀ c ∈ cs, Text.isLatinDigit c = true ∨ c = '_')
    (value count : Nat) : (Number.takeDigits value count cs).1 < (value + 1) * 10 ^ cs.length := by
  induction cs generalizing value count with
  | nil => simp [Number.takeDigits]
  | cons c rest ih =>
    have hrest := ih fun x hx => hcs x (List.mem_cons_of_mem c hx)
    have hgrow : (value + 1) * 10 ^ rest.length ≤ (value + 1) * 10 ^ (c :: rest).length :=
      Nat.mul_le_mul_left _ (Nat.pow_le_pow_right (by decide) (Nat.le_succ rest.length))
    have hvalue : value < (value + 1) * 10 ^ (c :: rest).length :=
      Nat.lt_of_lt_of_le (Nat.lt_succ_self value) (Nat.le_mul_of_pos_right _ (Nat.pow_pos (by decide)))
    rcases hcs c List.mem_cons_self with hc | rfl
    · obtain ⟨d, hd, hdigit⟩ := Text.decimalValue?_latin hc
      simp only [Number.takeDigits, hdigit]
      calc (Number.takeDigits (value * 10 + d) (count + 1) rest).1
          < (value * 10 + d + 1) * 10 ^ rest.length := hrest _ _
        _ ≤ (value + 1) * 10 * 10 ^ rest.length := Nat.mul_le_mul_right _ (by omega)
        _ = (value + 1) * 10 ^ (c :: rest).length := by
          rw [List.length_cons, Nat.pow_succ', Nat.mul_assoc]
    · have hdigit : Text.decimalValue? '_' = none := by decide
      rw [Number.takeDigits.eq_def]
      simp only [hdigit]
      split
      · split
        · exact Nat.lt_of_lt_of_le (hrest value count) hgrow
        · exact hvalue
      · exact hvalue

theorem latinDigits?_lt {cs : List Char} {n : Nat} (h : latinDigits? cs = some n) :
    0 < cs.length ∧ n < 10 ^ cs.length := by
  unfold latinDigits? at h
  split at h
  · rename_i hall
    have hlt := takeDigits_lt (by simpa using hall) 0 0
    split at h
    · rename_i n' count htake
      rw [htake] at hlt
      split at h
      · cases h
      · rename_i hcount
        cases h
        refine ⟨List.length_pos_of_ne_nil ?_, by simpa using hlt⟩
        rintro rfl
        cases htake
        exact hcount rfl
    · cases h
  · cases h

theorem length_toDigits_le {n : Int} {k : Nat} (h : n.natAbs < 10 ^ k) (hpos : 0 < k)
    (hk : k ≤ Number.digitLimit) : (Nat.toDigits 10 n.natAbs).length ≤ Number.digitLimit :=
  ((Nat.length_toDigits_le_iff (by decide) hpos).mpr h).trans hk

/-- The text of an integer is no longer than a text of one is read. -/
theorem integerOfText_length {s : String} {n : Int} (h : integerOfText s = .ok n) :
    (Nat.toDigits 10 n.natAbs).length ≤ Number.digitLimit := by
  unfold integerOfText at h
  split at h
  · cases h
  · rename_i hlimit
    dsimp only at h
    generalize hsign : Number.takeSign (Text.stripNumber s) = signed at h
    obtain ⟨negative, cs⟩ := signed
    dsimp only at h
    split at h
    · rename_i m hm
      split at h
      · cases h
        obtain ⟨hpos, hlt⟩ := latinDigits?_lt hm
        refine length_toDigits_le (k := (cs.takeWhile (· != '.')).length) ?_ hpos ?_
        · split <;> simpa using hlt
        · have hwhole : (cs.takeWhile (· != '.')).length ≤ cs.length :=
            (List.takeWhile_prefix _).length_le
          have hcs := (Number.takeSign_sublist (Text.stripNumber s)).length_le
          have hstrip := Text.length_stripNumber_le s
          have hbytes := Text.length_le_utf8ByteSize s.toList
          rw [hsign] at hcs
          rw [String.ofList_toList] at hbytes
          dsimp only at hcs
          change ¬ 4300 < _ at hlimit
          change _ ≤ 4300
          omega
      · cases h
    · cases h

theorem integerOfFloat_length {x : Float} {n : Int} (h : integerOfFloat x = .ok n) :
    (Nat.toDigits 10 n.natAbs).length ≤ Number.digitLimit := by
  unfold integerOfFloat at h
  split at h
  · cases h
  · split at h
    · cases h
    · split at h
      · cases h
      · rename_i m _ _ hword
        cases h
        have hbounds : leastWord ≤ m ∧ m ≤ greatestWord + 1 := by simpa using hword
        unfold leastWord greatestWord at hbounds
        unfold greatestWord
        exact length_toDigits_le (k := 19) (by omega) (by decide) (by decide)

theorem Codec.Keeps.integer : Codec.integer.Keeps := by
  refine ⟨fun {v n} hv h layout => Value.plain_int.mpr ?_⟩
  cases v with
  | int m =>
    cases h
    exact Value.plain_int.mp hv
  | bool b =>
    cases h
    cases b <;> decide
  | float x => exact integerOfFloat_length h
  | text s => exact integerOfText_length h
  | _ => cases h

/-! ## Fields -/

namespace Fields

@[simp] theorem write_map {f : α → β} {x : Fields ρ α} {r : ρ} :
    (f <$> x).write layout r = x.write layout r := rfl

@[simp] theorem write_seq {f : Fields ρ (α → β)} {x : Fields ρ α} {r : ρ} :
    (f <*> x).write layout r = f.write layout r ++ x.write layout r := rfl

@[simp] theorem write_required {name : FieldName} {get : ρ → α} {c : Codec α} {r : ρ} :
    (required name get c).write layout r = [(name, c.write layout (get r))] := rfl

@[simp] theorem write_default {name : FieldName} {get : ρ → α} {c : Codec α} {value : α} {r : ρ} :
    (Fields.default name get c value).write layout r = [(name, c.write layout (get r))] := rfl

@[simp] theorem write_optional {name : FieldName} {get : ρ → Option α} {c : Codec α} {r : ρ} :
    (Fields.optional name get c).write layout r = [(name, c.optional.write layout (get r))] := rfl

/-- Whatever is read of plain fields has a property. -/
structure Keeps (f : Fields ρ α) (P : α → Prop) : Prop where
  of_read : ∀ {entries : List (Key × Value)} {a : α}, (∀ entry ∈ entries, entry.2.Plain) →
    f.read entries = .ok a → P a

theorem Keeps.always {f : Fields ρ α} {P : α → Prop} (h : ∀ a, P a) : f.Keeps P := ⟨fun _ _ => h _⟩

theorem Keeps.any (f : Fields ρ α) : f.Keeps fun _ => True := .always fun _ => trivial

theorem mem_of_find? {name : FieldName} {entries : List (Key × Value)} {found : String} {v : Value}
    (h : name.find? entries = some (found, v)) : ∃ key, (key, v) ∈ entries := by
  have hnamed : ∀ wanted, FieldName.find?.named entries wanted = some (found, v) →
      ∃ key, (key, v) ∈ entries := by
    intro wanted h
    obtain ⟨⟨key, x⟩, hmem, hx⟩ := List.exists_of_findSome?_eq_some h
    cases key with
    | name s =>
      dsimp only at hx
      split at hx
      · cases hx
        exact ⟨_, hmem⟩
      · cases hx
    | other shown number => cases hx
  rw [FieldName.find?, Option.orElse_eq_or, Option.or_eq_some_iff] at h
  rcases h with h | ⟨-, h⟩
  · exact hnamed name.camel h
  · exact hnamed name.snake h

theorem Keeps.default {name : FieldName} {get : ρ → α} {c : Codec α} {value : α}
    (hc : c.Keeps) (hvalue : ∀ layout, (c.write layout value).Plain) :
    (Fields.default name get c value).Keeps fun a => ∀ layout, (c.write layout a).Plain := by
  refine ⟨fun hentries h => ?_⟩
  simp only [Fields.default] at h
  split at h
  · rename_i hfound
    obtain ⟨key, hmem⟩ := mem_of_find? hfound
    exact hc.plain (hentries _ hmem) (Checked.under_eq_ok.mp h)
  · cases h
    exact hvalue

theorem Keeps.required {name : FieldName} {get : ρ → α} {c : Codec α} (hc : c.Keeps) :
    (Fields.required name get c).Keeps fun a => ∀ layout, (c.write layout a).Plain := by
  refine ⟨fun hentries h => ?_⟩
  simp only [Fields.required] at h
  split at h
  · rename_i hfound
    obtain ⟨key, hmem⟩ := mem_of_find? hfound
    exact hc.plain (hentries _ hmem) (Checked.under_eq_ok.mp h)
  · cases h

theorem Keeps.optional {name : FieldName} {get : ρ → Option α} {c : Codec α} (hc : c.Keeps) :
    (Fields.optional name get c).Keeps fun a => ∀ layout, (c.optional.write layout a).Plain :=
  .default hc.optional fun _ => Codec.plain_optional.mpr (by rintro x ⟨⟩)

theorem Keeps.map {f : α → β} {x : Fields ρ α} {P : α → Prop} (hx : x.Keeps P) :
    (f <$> x).Keeps fun b => ∃ a, P a ∧ b = f a := by
  refine ⟨fun hentries h => ?_⟩
  obtain ⟨a, ha, rfl⟩ := Checked.map_eq_ok.mp h
  exact ⟨a, hx.of_read hentries ha, rfl⟩

theorem Keeps.seq {f : Fields ρ (α → β)} {x : Fields ρ α} {F : (α → β) → Prop} {P : α → Prop}
    (hf : f.Keeps F) (hx : x.Keeps P) : (f <*> x).Keeps fun b => ∃ g a, F g ∧ P a ∧ b = g a := by
  refine ⟨fun hentries h => ?_⟩
  obtain ⟨g, a, hg, ha, rfl⟩ := Checked.both_eq_ok.mp h
  exact ⟨g, a, hf.of_read hentries hg, hx.of_read hentries ha, rfl⟩

theorem Keeps.mono {f : Fields ρ α} {P Q : α → Prop} (hf : f.Keeps P) (h : ∀ a, P a → Q a) :
    f.Keeps Q :=
  ⟨fun hentries ha => h _ (hf.of_read hentries ha)⟩

end Fields

/-! ## Records -/

theorem FieldName.Apart.under_ne_under {a b : FieldName} (h : a.Apart b) (naming : Naming) :
    a.under naming ≠ b.under naming := by
  obtain ⟨hcamel, hsnake⟩ := h.under_ne naming
  rcases under_eq b naming with hb | hb <;> rw [hb]
  · exact hcamel
  · exact hsnake

/-- A record is plain if its fields are. -/
theorem Fields.plain_object {f : Fields ρ α} {r : ρ} (hsep : Separate f.names)
    (hnames : (f.write layout r).map (·.1) = f.names) (h : ∀ field ∈ f.write layout r, field.2.Plain) :
    (Value.object (f.object layout r)).Plain := by
  rw [← hnames] at hsep
  refine Value.plain_object.mpr ⟨?_, fun entry hentry => ?_⟩
  · rw [Entries.keys, Fields.object, List.Nodup, List.pairwise_map, List.pairwise_filterMap]
    refine (List.pairwise_map.mp hsep).imp ?_
    rintro ⟨a, x⟩ ⟨b, y⟩ hapart entry hentry other hother
    dsimp only at hentry hother
    split at hentry
    · cases hentry
    · split at hother
      · cases hother
      · cases hentry
        cases hother
        exact hapart.under_ne_under layout.naming
  · obtain ⟨⟨name, x⟩, hfield, hwritten⟩ := List.mem_filterMap.mp hentry
    dsimp only at hwritten
    split at hwritten
    · cases hwritten
    · cases hwritten
      exact h (name, x) hfield

namespace Codec

theorem plain_of_shape {v : Value} {entries : List (Key × Value)} (hv : v.Plain)
    (h : Source.shape v = .object entries) : ∀ entry ∈ entries, entry.2.Plain := by
  cases v with
  | object fields =>
    cases h
    exact List.forall_mem_map.mpr (Value.plain_object.mp hv).2
  | _ => cases h

variable {f : Fields α α}

theorem Keeps.record {name : String} (hsep : Separate f.names)
    (hnames : ∀ layout a, (f.write layout a).map (·.1) = f.names)
    (h : f.Keeps fun a => ∀ layout, ∀ field ∈ f.write layout a, field.2.Plain) :
    (Codec.record name f).Keeps := by
  refine ⟨fun {v a} hv hread layout => Fields.plain_object hsep (hnames layout a) ?_⟩
  simp only [Codec.record] at hread
  split at hread
  · exact h.of_read (plain_of_shape hv ‹_›) hread layout
  · cases hread

theorem Keeps.closedRecord {name : String} (hsep : Separate f.names)
    (hnames : ∀ layout a, (f.write layout a).map (·.1) = f.names)
    (h : f.Keeps fun a => ∀ layout, ∀ field ∈ f.write layout a, field.2.Plain) :
    (Codec.closedRecord name f).Keeps := by
  refine ⟨fun {v a} hv hread layout => Fields.plain_object hsep (hnames layout a) ?_⟩
  simp only [Codec.closedRecord] at hread
  split at hread
  · split at hread
    · exact h.of_read (plain_of_shape hv ‹_›) hread layout
    · cases hread
  · cases hread

end Codec

end Automation.Schema
