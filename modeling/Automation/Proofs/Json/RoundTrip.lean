import Automation.Proofs.Json.Number
import Automation.Proofs.Json.Text
import Automation.Proofs.Value.Part

/-!
# Values in JSON text

What is written of a value reads back as the value (`read_pretty`), if a JSON text can hold it and its
floats are finite. The induction is on the value; the reader is followed over its text with whatever
stands behind it, so that the text of a part may stand in the text of the whole.
-/

namespace Automation.Json

open Value

/-! ## What a text begins with -/

variable {cs rest : List Char} {v : Value} {fuel : Nat}

theorem head_of_whole (h : (takeWhole cs).1 ≠ []) : ∃ c ∈ cs.head?, Text.isLatinDigit c = true := by
  unfold takeWhole at h
  split at h
  · exact ⟨'0', rfl, rfl⟩
  · cases cs with
    | nil => exact absurd rfl h
    | cons c tail =>
      refine ⟨c, rfl, ?_⟩
      rw [List.span_eq_takeWhile_dropWhile] at h
      by_contra hc
      exact h (List.takeWhile_cons_of_neg hc)

/-- A number begins with a digit, perhaps behind a minus. -/
theorem head_of_number {r : Except Nat Value × List Char} (h : readNumber? cs = some r) :
    ∃ c tail, cs = c :: tail ∧ (Text.isLatinDigit c = true ∨
      c = '-' ∧ ∃ d ∈ tail.head?, Text.isLatinDigit d = true) := by
  have hwhole : (takeWhole (takeMinus cs).2).1 ≠ [] := by
    intro hempty
    simp [readNumber?, hempty] at h
  obtain ⟨d, hd, hdigit⟩ := head_of_whole hwhole
  unfold takeMinus at hd
  split at hd
  · exact ⟨'-', _, rfl, .inr ⟨rfl, d, hd, hdigit⟩⟩
  · obtain ⟨tail, rfl⟩ := List.head?_eq_some_iff.mp hd
    exact ⟨d, tail, rfl, .inl hdigit⟩

theorem digit_ne {c d : Char} (hc : Text.isLatinDigit c = true) (hd : Text.isLatinDigit d = false) :
    c ≠ d := by
  rintro rfl
  rw [hc] at hd
  cases hd

/-- No word is a number. -/
theorem literals_of_number {r : Except Nat Value × List Char} (h : readNumber? cs = some r) :
    (literals.findSome? fun (word, v) => (afterWord? word cs).map (v, ·)) = none := by
  obtain ⟨c, tail, rfl, hc | ⟨rfl, d, hd, hdigit⟩⟩ := head_of_number h
  · have hfirst : 'n' ≠ c ∧ 't' ≠ c ∧ 'f' ≠ c ∧ 'N' ≠ c ∧ 'I' ≠ c ∧ '-' ≠ c := by
      refine ⟨?_, ?_, ?_, ?_, ?_, ?_⟩ <;> exact (digit_ne hc rfl).symm
    simp [literals, afterWord?, hfirst]
  · obtain ⟨tail, rfl⟩ := List.head?_eq_some_iff.mp hd
    have hsecond : 'I' ≠ d := (digit_ne hdigit rfl).symm
    simp [literals, afterWord?, hsecond]

/-- Where a number stands, it is the value. -/
theorem readValue_of_number {found : Except Nat Value} (h : readNumber? cs = some (found, rest)) :
    readValue (fuel + 1) cs = (found.mapError Stop.digits).map (·, rest) := by
  have hwords := literals_of_number h
  obtain ⟨c, tail, rfl, hc⟩ := head_of_number h
  have hother : c ≠ '"' ∧ c ≠ '[' ∧ c ≠ '\x7b' := by
    rcases hc with hc | ⟨rfl, -⟩
    · exact ⟨digit_ne hc rfl, digit_ne hc rfl, digit_ne hc rfl⟩
    · decide
  rw [readValue.eq_def]
  simp only [beq_iff_eq, hother, if_false, hwords, h]
  cases found <;> rfl

theorem readValue_number (h : readNumber? cs = some (.ok v, rest)) :
    readValue (fuel + 1) cs = .ok (v, rest) := readValue_of_number h

/-- A value begins with no blank, no bracket that closes and no byte order mark. -/
theorem head_of_value (h : readValue fuel cs = .ok (v, rest)) :
    ∃ c tail, cs = c :: tail ∧ isBlank c = false ∧ c ≠ ']' ∧ c ≠ '\uFEFF' := by
  cases fuel with
  | zero => cases h
  | succ fuel =>
    cases cs with
    | nil => cases h
    | cons c tail =>
      refine ⟨c, tail, rfl, ?_, ?_, ?_⟩
      · by_contra hblank
        have hc : c = ' ' ∨ c = '\t' ∨ c = '\n' ∨ c = '\r' := by
          simp only [isBlank, Bool.or_eq_true, beq_iff_eq, Bool.not_eq_false, or_assoc] at hblank
          exact hblank
        rcases hc with rfl | rfl | rfl | rfl <;> cases h
      · rintro rfl
        cases h
      · rintro rfl
        cases h

/-! ## Blanks -/

theorem skipBlanks_value (h : readValue fuel cs = .ok (v, rest)) : skipBlanks cs = cs := by
  obtain ⟨c, tail, rfl, hc, -⟩ := head_of_value h
  simp [skipBlanks, hc]

theorem newline_toList (depth : Nat) :
    (newline depth).toList = '\n' :: List.replicate (2 * depth) ' ' := by
  simp [newline]

theorem skipBlanks_newline (depth : Nat) (cs : List Char) :
    skipBlanks ((newline depth).toList ++ cs) = skipBlanks cs := by
  rw [newline_toList, skipBlanks, skipBlanks, List.dropWhile_append_of_pos]
  intro c hc
  rcases List.mem_cons.mp hc with rfl | hc
  · rfl
  · rw [List.eq_of_mem_replicate hc]
    rfl

theorem stops_newline (depth : Nat) (cs : List Char) : Stops ((newline depth).toList ++ cs) := by
  rw [newline_toList]
  rintro c ⟨⟩
  decide

theorem stops_comma (cs : List Char) : Stops (',' :: cs) := by
  rintro c ⟨⟩
  decide

/-! ## Items and fields -/

variable {rest₁ rest₂ : List Char} {items : List Value} {pairs : List (String × Value)}

theorem head_of_items (h : readItems fuel cs = .ok (items, rest)) :
    ∃ c tail, cs = c :: tail ∧ isBlank c = false ∧ c ≠ ']' := by
  cases fuel with
  | zero => cases h
  | succ fuel =>
    cases hv : readValue fuel cs with
    | error stop => simp [readItems, hv, bind, Except.bind] at h
    | ok found =>
      obtain ⟨c, tail, hcs, hblank, hc, -⟩ := head_of_value hv
      exact ⟨c, tail, hcs, hblank, hc⟩

theorem skipBlanks_items (h : readItems fuel cs = .ok (items, rest)) : skipBlanks cs = cs := by
  obtain ⟨c, tail, rfl, hc, -⟩ := head_of_items h
  simp [skipBlanks, hc]

theorem head_of_pairs (h : readPairs fuel cs = .ok (pairs, rest)) : ∃ tail, cs = '"' :: tail := by
  cases fuel with
  | zero => cases h
  | succ fuel =>
    rw [readPairs.eq_def] at h
    dsimp only at h
    split at h
    · exact ⟨_, rfl⟩
    · cases h

theorem skipBlanks_pairs (h : readPairs fuel cs = .ok (pairs, rest)) : skipBlanks cs = cs := by
  obtain ⟨tail, rfl⟩ := head_of_pairs h
  rfl

theorem readItems_last (h : readValue fuel cs = .ok (v, rest₁))
    (hrest : skipBlanks rest₁ = ']' :: rest) : readItems (fuel + 1) cs = .ok ([v], rest) := by
  rw [readItems.eq_def]
  simp only [h, hrest, bind, Except.bind, pure, Except.pure]

theorem readItems_more (h : readValue fuel cs = .ok (v, rest₁))
    (hrest : skipBlanks rest₁ = ',' :: rest₂)
    (hmore : readItems fuel (skipBlanks rest₂) = .ok (items, rest)) :
    readItems (fuel + 1) cs = .ok (v :: items, rest) := by
  rw [readItems.eq_def]
  simp only [h, hrest, hmore, bind, Except.bind, pure, Except.pure]

theorem readPairs_last (name : String) (h : readValue fuel cs = .ok (v, rest₁))
    (hrest : skipBlanks rest₁ = '\x7d' :: rest) :
    readPairs (fuel + 1) ((quoted name).toList ++ ':' :: ' ' :: cs) = .ok ([(name, v)], rest) := by
  have hblank : skipBlanks (' ' :: cs) = cs := skipBlanks_value h
  have hcolon : skipBlanks (':' :: ' ' :: cs) = ':' :: ' ' :: cs := rfl
  rw [quoted_toList, readPairs.eq_def]
  simp only [List.cons_append, List.append_assoc, List.nil_append]
  rw [readText_quoted name rfl]
  simp only [hcolon, hblank, h, hrest, bind, Except.bind, pure, Except.pure]

theorem readPairs_more (name : String) (h : readValue fuel cs = .ok (v, rest₁))
    (hrest : skipBlanks rest₁ = ',' :: rest₂)
    (hmore : readPairs fuel (skipBlanks rest₂) = .ok (pairs, rest)) :
    readPairs (fuel + 1) ((quoted name).toList ++ ':' :: ' ' :: cs)
      = .ok ((name, v) :: pairs, rest) := by
  have hblank : skipBlanks (' ' :: cs) = cs := skipBlanks_value h
  have hcolon : skipBlanks (':' :: ' ' :: cs) = ':' :: ' ' :: cs := rfl
  rw [quoted_toList, readPairs.eq_def]
  simp only [List.cons_append, List.append_assoc, List.nil_append]
  rw [readText_quoted name rfl]
  simp only [hcolon, hblank, h, hrest, hmore, bind, Except.bind, pure, Except.pure]

/-! ## Values -/

/-- Behind its bracket a list is read by its items. -/
theorem readValue_list (h : readItems fuel (skipBlanks cs) = .ok (items, rest)) :
    readValue (fuel + 1) ('[' :: cs) = .ok (.list items, rest) := by
  obtain ⟨c, tail, hcs, -, hc⟩ := head_of_items h
  rw [hcs] at h
  rw [readValue.eq_def]
  simp only [hcs, show ('[' == '"') = false from rfl, beq_self_eq_true, if_true, Bool.false_eq_true,
    if_false]
  split
  · rename_i heq
    exact absurd (List.cons.inj heq).1 hc
  · simp only [h, bind, Except.bind, pure, Except.pure]

/-- Behind its brace an object is read by its fields. -/
theorem readValue_object (h : readPairs fuel (skipBlanks cs) = .ok (pairs, rest)) :
    readValue (fuel + 1) ('\x7b' :: cs) = .ok (.object (Entries.ofPairs pairs), rest) := by
  obtain ⟨tail, hcs⟩ := head_of_pairs h
  rw [hcs] at h
  rw [readValue.eq_def]
  simp [hcs, h, bind, Except.bind, pure, Except.pure]

/-- The text of a value at any depth is read as the value, whatever stands behind it that does not go
on with a number. -/
structure ReadsBack (v : Value) : Prop where
  read : ∀ {depth fuel : Nat} {rest : List Char}, (writeIndented depth v).toList.length ≤ fuel →
    Stops rest → readValue fuel ((writeIndented depth v).toList ++ rest) = .ok (v, rest)

/-! ## Fields with distinct names -/

theorem set_new {name : String} (hname : name ∉ Entries.keys pairs) :
    Entries.set name v pairs = pairs ++ [(name, v)] := by
  induction pairs with
  | nil => rfl
  | cons field pairs ih =>
    obtain ⟨key, old⟩ := field
    rw [Entries.keys, List.map_cons, List.mem_cons, not_or] at hname
    rw [Entries.set, if_neg (Ne.symm hname.1), ih hname.2, List.cons_append]

/-- Fields whose names are distinct stay as they are. -/
theorem merge_new {pairs changes : List (String × Value)}
    (h : (Entries.keys (pairs ++ changes)).Nodup) : Entries.merge pairs changes = pairs ++ changes := by
  induction changes generalizing pairs with
  | nil => exact (List.append_nil pairs).symm
  | cons change changes ih =>
    obtain ⟨name, v⟩ := change
    have hsplit : pairs ++ (name, v) :: changes = pairs ++ [(name, v)] ++ changes := by simp
    have hname : name ∉ Entries.keys pairs := by
      rw [Entries.keys, List.map_append, List.map_cons] at h
      exact fun hmem => List.disjoint_of_nodup_append h hmem List.mem_cons_self
    rw [hsplit] at h ⊢
    rw [← ih h, ← set_new hname]
    rfl

/-! ## Lines -/

/-- The lines of a list or an object, without the breaks around them. -/
def lines (depth : Nat) (parts : List String) : List Char :=
  (Text.join ("," ++ newline depth) parts).toList

theorem lines_singleton (depth : Nat) (s : String) : lines depth [s] = s.toList := by
  simp [lines, Text.join]

theorem lines_cons_cons (depth : Nat) (s t : String) (parts : List String) :
    lines depth (s :: t :: parts)
      = s.toList ++ ',' :: ((newline depth).toList ++ lines depth (t :: parts)) := by
  simp [lines, Text.join, String.intercalate_cons_cons]

theorem bracketed_toList {opening closing : String} {depth : Nat} {parts : List String}
    (hne : parts ≠ []) : (bracketed opening closing depth parts).toList =
      opening.toList ++ ((newline (depth + 1)).toList ++ (lines (depth + 1) parts
        ++ ((newline depth).toList ++ closing.toList))) := by
  simp [bracketed, lines, hne]

theorem readItems_lines (depth outer : Nat) (hne : items ≠ []) (h : ∀ x ∈ items, ReadsBack x)
    (hfuel : (lines depth (indentedList depth items)).length < fuel) :
    readItems fuel (lines depth (indentedList depth items) ++ ((newline outer).toList ++ ']' :: rest))
      = .ok (items, rest) := by
  induction items generalizing fuel with
  | nil => exact absurd rfl hne
  | cons x items ih =>
    obtain ⟨fuel, rfl⟩ : ∃ k, fuel = k + 1 := ⟨fuel - 1, by omega⟩
    have hx : ReadsBack x := h x List.mem_cons_self
    cases items with
    | nil =>
      simp only [indentedList, lines_singleton] at hfuel ⊢
      refine readItems_last (hx.read (by omega) (stops_newline outer _)) ?_
      rw [skipBlanks_newline]
      rfl
    | cons y items =>
      simp only [indentedList, lines_cons_cons, List.length_append, List.length_cons] at hfuel ih ⊢
      have hmore : readItems fuel _ = .ok (y :: items, rest) :=
        ih (List.cons_ne_nil y items) (fun z hz => h z (List.mem_cons_of_mem x hz)) (by omega)
      rw [List.append_assoc, List.cons_append, List.append_assoc]
      refine readItems_more (hx.read (by omega) (stops_comma _)) rfl ?_
      rw [skipBlanks_newline, skipBlanks_items hmore]
      exact hmore

theorem readPairs_lines (depth outer : Nat) (hne : pairs ≠ []) (h : ∀ field ∈ pairs, ReadsBack field.2)
    (hfuel : (lines depth (indentedFields depth pairs)).length < fuel) :
    readPairs fuel
        (lines depth (indentedFields depth pairs) ++ ((newline outer).toList ++ '\x7d' :: rest))
      = .ok (pairs, rest) := by
  induction pairs generalizing fuel with
  | nil => exact absurd rfl hne
  | cons field pairs ih =>
    obtain ⟨name, x⟩ := field
    obtain ⟨fuel, rfl⟩ : ∃ k, fuel = k + 1 := ⟨fuel - 1, by omega⟩
    have hx : ReadsBack x := h (name, x) List.mem_cons_self
    have hcolon : ": ".toList = [':', ' '] := rfl
    cases pairs with
    | nil =>
      simp only [indentedFields, lines_singleton, String.toList_append, hcolon, List.length_append,
        List.length_cons, List.append_assoc, List.cons_append, List.nil_append] at hfuel ⊢
      refine readPairs_last name (hx.read (by omega) (stops_newline outer _)) ?_
      rw [skipBlanks_newline]
      rfl
    | cons field pairs =>
      obtain ⟨other, y⟩ := field
      simp only [indentedFields, lines_cons_cons, String.toList_append, hcolon, List.length_append,
        List.length_cons, List.append_assoc, List.cons_append, List.nil_append] at hfuel ih ⊢
      have hmore : readPairs fuel _ = .ok ((other, y) :: pairs, rest) :=
        ih (List.cons_ne_nil _ pairs) (fun z hz => h z (List.mem_cons_of_mem _ hz)) (by omega)
      refine readPairs_more name (hx.read (by omega) (stops_comma _)) rfl ?_
      rw [skipBlanks_newline, skipBlanks_pairs hmore]
      exact hmore

/-! ## Values -/

theorem readsBack_number (hwrite : ∀ depth, writeIndented depth v = write v)
    (h : ∀ {rest}, Stops rest → readNumber? ((write v).toList ++ rest) = some (.ok v, rest)) :
    ReadsBack v := by
  refine ⟨fun {depth fuel rest} hfuel hrest => ?_⟩
  rw [hwrite] at hfuel ⊢
  have halone : readNumber? ((write v).toList ++ []) = some (.ok v, []) := h nofun
  obtain ⟨c, tail, hc, -⟩ := head_of_number halone
  have hlength := congrArg List.length hc
  rw [List.append_nil, List.length_cons] at hlength
  obtain ⟨fuel, rfl⟩ : ∃ k, fuel = k + 1 := ⟨fuel - 1, by omega⟩
  exact readValue_number (h hrest)

theorem readsBack_word (word : String) (hwrite : ∀ depth, writeIndented depth v = word)
    (hne : 0 < word.length)
    (h : ∀ fuel rest, readValue (fuel + 1) (word.toList ++ rest) = .ok (v, rest)) :
    ReadsBack v := by
  refine ⟨fun {depth fuel rest} hfuel _ => ?_⟩
  rw [hwrite] at hfuel ⊢
  obtain ⟨fuel, rfl⟩ : ∃ k, fuel = k + 1 := ⟨fuel - 1, by rw [String.length_toList] at hfuel; omega⟩
  exact h fuel rest

theorem readsBack_text (s : String) : ReadsBack (.text s) := by
  refine ⟨fun {depth fuel rest} hfuel _ => ?_⟩
  have hwrite : writeIndented depth (.text s) = quoted s := by simp [writeIndented, write]
  rw [hwrite, quoted_toList] at hfuel ⊢
  obtain ⟨fuel, rfl⟩ : ∃ k, fuel = k + 1 := ⟨fuel - 1, by simp at hfuel; omega⟩
  rw [readValue.eq_def]
  simp only [List.cons_append, List.append_assoc, List.nil_append, beq_self_eq_true, if_true]
  rw [readText_quoted s rfl]
  rfl

theorem readsBack_list (h : ∀ x ∈ items, ReadsBack x) : ReadsBack (.list items) := by
  cases items with
  | nil =>
    exact readsBack_word "[]" (fun _ => by simp [writeIndented, indentedList, bracketed]) (by decide)
      fun _ _ => rfl
  | cons x items =>
    refine ⟨fun {depth fuel rest} hfuel _ => ?_⟩
    have hopening : "[".toList = ['['] := rfl
    have hclosing : "]".toList = [']'] := rfl
    rw [writeIndented, indentedList, bracketed_toList (List.cons_ne_nil _ _), ← indentedList, hopening,
      hclosing] at hfuel ⊢
    simp only [List.length_append, List.length_cons, List.length_nil, newline_toList] at hfuel
    obtain ⟨fuel, rfl⟩ : ∃ k, fuel = k + 1 := ⟨fuel - 1, by omega⟩
    have hitems : readItems fuel _ = .ok (x :: items, rest) :=
      readItems_lines (depth + 1) depth (List.cons_ne_nil x items) h (by omega)
    simp only [List.append_assoc, List.cons_append, List.nil_append]
    refine readValue_list ?_
    rw [skipBlanks_newline, skipBlanks_items hitems]
    exact hitems

theorem readsBack_object (hnames : (Entries.keys pairs).Nodup)
    (h : ∀ field ∈ pairs, ReadsBack field.2) : ReadsBack (.object pairs) := by
  cases pairs with
  | nil =>
    exact readsBack_word "\x7b\x7d" (fun _ => by simp [writeIndented, indentedFields, bracketed])
      (by decide) fun _ _ => rfl
  | cons field pairs =>
    obtain ⟨name, x⟩ := field
    refine ⟨fun {depth fuel rest} hfuel _ => ?_⟩
    have hopening : "\x7b".toList = ['\x7b'] := rfl
    have hclosing : "\x7d".toList = ['\x7d'] := rfl
    rw [writeIndented, indentedFields, bracketed_toList (List.cons_ne_nil _ _), ← indentedFields,
      hopening, hclosing] at hfuel ⊢
    simp only [List.length_append, List.length_cons, List.length_nil, newline_toList] at hfuel
    obtain ⟨fuel, rfl⟩ : ∃ k, fuel = k + 1 := ⟨fuel - 1, by omega⟩
    have hpairs : readPairs fuel _ = .ok ((name, x) :: pairs, rest) :=
      readPairs_lines (depth + 1) depth (List.cons_ne_nil _ pairs) h (by omega)
    simp only [List.append_assoc, List.cons_append, List.nil_append]
    rw [readValue_object (by rw [skipBlanks_newline, skipBlanks_pairs hpairs]; exact hpairs)]
    have hsame : Entries.ofPairs ((name, x) :: pairs) = (name, x) :: pairs :=
      merge_new (by rwa [List.nil_append])
    rw [hsame]

theorem readsBack {v : Value} (hplain : v.Plain) (hfinite : v.Finite) : ReadsBack v := by
  induction v using nestedInduction with
  | null =>
    exact readsBack_word "null" (fun _ => by simp [writeIndented, write]) (by decide) fun _ _ => rfl
  | bool b =>
    cases b with
    | true =>
      exact readsBack_word "true" (fun _ => by simp [writeIndented, write]) (by decide) fun _ _ => rfl
    | false =>
      exact readsBack_word "false" (fun _ => by simp [writeIndented, write]) (by decide) fun _ _ => rfl
  | int n =>
    have hwrite : write (.int n) = Number.writeInt n := by simp [write]
    exact readsBack_number (fun _ => by simp [writeIndented])
      (hwrite ▸ readNumber?_int (hplain.digits .refl))
  | float x =>
    have hwrite : write (.float x) = Number.jsonStyle.write x := by simp [write]
    exact readsBack_number (fun _ => by simp [writeIndented])
      (hwrite ▸ readNumber?_float (hfinite .refl))
  | text s => exact readsBack_text s
  | list items ih => exact readsBack_list fun x hx => ih x hx (hplain.item hx) (hfinite.item hx)
  | object fields ih =>
    exact readsBack_object (hplain.names .refl) fun field hx =>
      ih field hx (hplain.field hx) (hfinite.field hx)

/-! ## Documents -/

/-- What is written of a value is read as the value. -/
theorem read_pretty {v : Value} (hplain : v.Plain) (hfinite : v.Finite) :
    Json.read (pretty v) = .ok v := by
  have hread : readValue (2 * (pretty v).toList.length + 2) ((pretty v).toList ++ []) = .ok (v, []) :=
    (readsBack hplain hfinite).read (by change (pretty v).toList.length ≤ _; omega) nofun
  rw [List.append_nil] at hread
  obtain ⟨c, tail, hcs, -, -, hmark⟩ := head_of_value hread
  have hdocument : readDocument (pretty v).toList = .ok v := by
    rw [readDocument, if_neg (by rw [hcs]; simpa using hmark), skipBlanks_value hread]
    simp only [hread, pure, Except.pure, bind, Except.bind]
    rfl
  rw [Json.read, hdocument]

end Automation.Json
