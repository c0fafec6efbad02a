import Automation.Proofs.Schema.Reading
import Automation.Proofs.Template.Cut
import Automation.Proofs.Value.Texts
import Mathlib.Data.List.Basic

/-!
# Templates, resolved

A template is cut before any value is looked up, and each piece is then filled on its own: text of a
value is never cut again, whatever braces are in it.
-/

namespace Automation.Template

/-! ## Filling -/

/-- What a piece becomes in a context: a placeholder gives way to the value at its path, and stays as it
is written where no value is known. -/
def fill (c : Context) : Piece → List Char
  | .char ch => [ch]
  | .placeholder path verbatim =>
    match c.lookup path with
    | .ok (some v) => (format v).toList
    | .ok none | .error _ => verbatim

/-- The path that is looked up for a piece. -/
def Piece.path? : Piece → Option String
  | .char _ => none
  | .placeholder path _ => some path

/-- The paths that are looked up for pieces, in their order. -/
def paths (pieces : List Piece) : List String := pieces.filterMap Piece.path?

/-- No lookup for one of the pieces raises a fault. -/
def Answers (c : Context) (pieces : List Piece) : Prop :=
  ∀ path ∈ paths pieces, ∃ found, c.lookup path = .ok found

variable {c : Context} {piece : Piece} {pieces : List Piece} {template : String}

theorem placeholders_eq (template : String) : placeholders template = paths (cut template) := by
  unfold placeholders paths
  congr 1
  funext piece
  cases piece <;> rfl

theorem mem_paths {path : String} :
    path ∈ paths pieces ↔ ∃ verbatim, .placeholder path verbatim ∈ pieces := by
  rw [paths, List.mem_filterMap]
  constructor
  · rintro ⟨piece, hpiece, hpath⟩
    cases piece with
    | char => cases hpath
    | placeholder _ verbatim =>
      cases hpath
      exact ⟨verbatim, hpiece⟩
  · rintro ⟨verbatim, hpiece⟩
    exact ⟨_, hpiece, rfl⟩

theorem resolvePiece_ok (h : ∀ path ∈ piece.path?, ∃ found, c.lookup path = .ok found) :
    resolvePiece c piece = .ok (fill c piece) := by
  cases piece with
  | char => rfl
  | placeholder path verbatim =>
    obtain ⟨found, hfound⟩ := h path rfl
    cases found <;> simp only [resolvePiece, fill, hfound]

/-- Pieces are filled one by one. -/
theorem resolvePieces_ok (h : Answers c pieces) :
    resolvePieces c pieces = .ok (pieces.flatMap (fill c)) := by
  induction pieces with
  | nil => rfl
  | cons piece pieces ih =>
    have hpiece : resolvePiece c piece = .ok (fill c piece) :=
      resolvePiece_ok fun path hpath => h path (List.mem_filterMap.2 ⟨piece, List.mem_cons_self, hpath⟩)
    have hpieces : Answers c pieces := fun path hpath => by
      obtain ⟨verbatim, hmem⟩ := mem_paths.1 hpath
      exact h path (mem_paths.2 ⟨verbatim, List.mem_cons_of_mem _ hmem⟩)
    rw [resolvePieces, hpiece, ih hpieces]
    rfl

/-- What a template becomes in a context that answers every lookup. -/
def filled (c : Context) (template : String) : String :=
  if isBalanced template then String.ofList ((cut template).flatMap (fill c)) else template

theorem resolve_ok (h : Answers c (cut template)) : resolve template c = .ok (filled c template) := by
  unfold resolve filled
  split
  · rw [resolvePieces_ok h]
    rfl
  · rfl

theorem resolvePiece_eq_ok {text : List Char} (h : resolvePiece c piece = .ok text) : text = fill c piece := by
  cases piece with
  | char => exact (Except.ok.inj h).symm
  | placeholder path verbatim =>
    simp only [resolvePiece] at h
    split at h
    · cases h
    · next hfound => simpa only [fill, hfound] using (Except.ok.inj h).symm
    · next hfound => simpa only [fill, hfound] using (Except.ok.inj h).symm

theorem resolvePieces_eq_ok {text : List Char} (h : resolvePieces c pieces = .ok text) :
    text = pieces.flatMap (fill c) := by
  induction pieces generalizing text with
  | nil => exact (Except.ok.inj h).symm
  | cons piece pieces ih =>
    obtain ⟨front, hfront, h⟩ := Except.bind_eq_ok.mp h
    obtain ⟨rest, hrest, h⟩ := Except.bind_eq_ok.mp h
    rw [← Except.ok.inj h, resolvePiece_eq_ok hfront, ih hrest, List.flatMap_cons]

/-- Where a template can be resolved at all, it is filled. -/
theorem resolve_eq_ok {text : String} (h : resolve template c = .ok text) : text = filled c template := by
  unfold resolve at h
  unfold filled
  split at h
  · next hbalanced =>
    obtain ⟨cs, hcs, rfl⟩ := Except.map_eq_ok.mp h
    rw [if_pos hbalanced, resolvePieces_eq_ok hcs]
  · next hbalanced => rw [if_neg hbalanced, Except.ok.inj h]

/-- A piece stays as it is written where nothing is known of its path. -/
theorem fill_unknown (h : ∀ path ∈ piece.path?, c.lookup path = .ok none) : fill c piece = piece.text := by
  cases piece with
  | char => rfl
  | placeholder path verbatim => simp only [fill, h path rfl, Piece.text]

theorem filled_unknown (h : ∀ path ∈ placeholders template, c.lookup path = .ok none) :
    filled c template = template := by
  have hfill : (cut template).flatMap (fill c) = (cut template).flatMap Piece.text := by
    refine List.flatMap_congr fun piece hpiece => fill_unknown fun path hpath => h path ?_
    rw [placeholders_eq]
    exact List.mem_filterMap.2 ⟨piece, hpiece, hpath⟩
  have htext : (cut template).flatMap Piece.text = template.toList := (cut_cutFrom _).text
  rw [filled, hfill, htext, String.ofList_toList, ite_self]

/-- Every template is cut in one way, in which nothing is lost and which no context has a part in. Where
no lookup for its placeholders raises a fault, the pieces are filled in their order and are all that the
result is made of; a template stays as it is if its braces are not balanced, and if nothing is known of
the paths in it. -/
theorem resolve_one_pass (template : String) :
    ∃ pieces, Cut template.toList pieces ∧ (∀ others, Cut template.toList others → others = pieces) ∧
      pieces.flatMap Piece.text = template.toList ∧
      ∀ c : Context, (∀ path ∈ paths pieces, ∃ found, c.lookup path = .ok found) →
        (¬ Balanced template.toList → resolve template c = .ok template) ∧
        (Balanced template.toList →
          resolve template c = .ok (String.ofList (pieces.flatMap (fill c)))) ∧
        ((∀ path ∈ paths pieces, c.lookup path = .ok none) → resolve template c = .ok template) := by
  refine ⟨cut template, cut_iff.2 rfl, fun others h => cut_iff.1 h, (cut_cutFrom _).text, ?_⟩
  intro c hanswers
  rw [resolve_ok hanswers, ← isBalanced_iff, ← placeholders_eq]
  refine ⟨fun hunbalanced => ?_, fun hbalanced => ?_, fun hunknown => ?_⟩
  · rw [filled, if_neg hunbalanced]
  · rw [filled, if_pos hbalanced]
  · rw [filled_unknown hunknown]

/-- A value with braces of its own is put in as it is, also where it could be read as a placeholder. The
other templates stay as they are, one for its braces and one for its path. -/
theorem resolve_greeting :
    let c : Context :=
      { runId := .text "run-1", event := Event.manual, workflowId := .null, tenantId := .null
        vars := [("name", .text "\x7b\x7bname\x7d\x7d \x7d\x7d")], system := [] }
    resolve "Hi \x7b\x7b\x7b name \x7d\x7d, \x7b\x7bnobody\x7d\x7d" c =
        .ok "Hi \x7b\x7b\x7bname\x7d\x7d \x7d\x7d, \x7b\x7bnobody\x7d\x7d" ∧
      resolve "Hi \x7b\x7bname\x7d\x7d \x7d\x7d" c = .ok "Hi \x7b\x7bname\x7d\x7d \x7d\x7d" ∧
      resolve "Hi \x7b\x7bnobody\x7d\x7d" c = .ok "Hi \x7b\x7bnobody\x7d\x7d" := by
  intro c
  have hname : c.lookup "name" = .ok (some (.text "\x7b\x7bname\x7d\x7d \x7d\x7d")) := by decide +kernel
  have hnobody : c.lookup "nobody" = .ok none := by decide +kernel
  refine ⟨?_, ?_, ?_⟩
  · obtain ⟨pieces, hcut, -, -, h⟩ :=
      resolve_one_pass "Hi \x7b\x7b\x7b name \x7d\x7d, \x7b\x7bnobody\x7d\x7d"
    have hpaths : paths pieces = ["name", "nobody"] := by rw [cut_iff.1 hcut]; decide +kernel
    rw [(h c (by simp [hpaths, hname, hnobody])).2.1 (isBalanced_iff.1 (by decide +kernel)),
      cut_iff.1 hcut]
    decide +kernel
  · obtain ⟨pieces, hcut, -, -, h⟩ := resolve_one_pass "Hi \x7b\x7bname\x7d\x7d \x7d\x7d"
    have hpaths : paths pieces = ["name"] := by rw [cut_iff.1 hcut]; decide +kernel
    exact (h c (by simp [hpaths, hname])).1 fun hbalanced =>
      absurd (isBalanced_iff.2 hbalanced) (by decide +kernel)
  · obtain ⟨pieces, hcut, -, -, h⟩ := resolve_one_pass "Hi \x7b\x7bnobody\x7d\x7d"
    have hpaths : paths pieces = ["nobody"] := by rw [cut_iff.1 hcut]; decide +kernel
    exact (h c (by simp [hpaths, hnobody])).2.2 (by simp [hpaths, hnobody])

/-! ## Values -/

variable {v w : Value} {items : List Value} {fields : List (String × Value)} {f : String → String}

theorem resolveList_ok (h : ∀ x ∈ items, resolveValue c x = .ok (x.mapTexts f)) :
    resolveList c items = .ok (items.map (Value.mapTexts f)) := by
  induction items with
  | nil => rfl
  | cons x items ih =>
    obtain ⟨hx, hitems⟩ := List.forall_mem_cons.mp h
    rw [resolveList, hx, ih hitems]
    rfl

theorem resolveFields_ok (h : ∀ field ∈ fields, resolveValue c field.2 = .ok (field.2.mapTexts f)) :
    resolveFields c fields = .ok (fields.map fun field => (field.1, field.2.mapTexts f)) := by
  induction fields with
  | nil => rfl
  | cons field fields ih =>
    obtain ⟨hfield, hfields⟩ := List.forall_mem_cons.mp h
    rw [resolveFields, hfield, ih hfields]
    rfl

/-- Each text of a value is filled on its own, and nothing else of the value changes. -/
theorem resolveValue_ok (h : ∀ s, Value.Part (.text s) v → resolve s c = .ok (filled c s)) :
    resolveValue c v = .ok (v.mapTexts (filled c)) := by
  induction v using Value.nestedInduction with
  | text s => rw [resolveValue, h s .refl]; rfl
  | list items ih =>
    rw [resolveValue, resolveList_ok fun x hx => ih x hx fun s hs => h s (.item hx hs), Value.mapTexts_list]
    rfl
  | object fields ih =>
    rw [resolveValue, resolveFields_ok fun field hfield => ih field hfield fun s hs => h s (.field hfield hs),
      Value.mapTexts_object]
    rfl
  | _ => rfl

theorem resolveList_eq_ok {ws : List Value}
    (h : ∀ x ∈ items, ∀ y, resolveValue c x = .ok y → y = x.mapTexts f)
    (hws : resolveList c items = .ok ws) : ws = items.map (Value.mapTexts f) := by
  induction items generalizing ws with
  | nil => exact (Except.ok.inj hws).symm
  | cons x items ih =>
    obtain ⟨y, hy, hws⟩ := Except.bind_eq_ok.mp hws
    obtain ⟨ys, hys, hws⟩ := Except.bind_eq_ok.mp hws
    obtain ⟨hx, hitems⟩ := List.forall_mem_cons.mp h
    rw [← Except.ok.inj hws, List.map_cons, hx y hy, ih hitems hys]

theorem resolveFields_eq_ok {ws : List (String × Value)}
    (h : ∀ field ∈ fields, ∀ y, resolveValue c field.2 = .ok y → y = field.2.mapTexts f)
    (hws : resolveFields c fields = .ok ws) :
    ws = fields.map fun field => (field.1, field.2.mapTexts f) := by
  induction fields generalizing ws with
  | nil => exact (Except.ok.inj hws).symm
  | cons field fields ih =>
    obtain ⟨y, hy, hws⟩ := Except.bind_eq_ok.mp hws
    obtain ⟨ys, hys, hws⟩ := Except.bind_eq_ok.mp hws
    obtain ⟨hfield, hfields⟩ := List.forall_mem_cons.mp h
    rw [← Except.ok.inj hws, List.map_cons, hfield y hy, ih hfields hys]

/-- Whatever a value resolves to, its texts are filled and nothing else of it is changed. -/
theorem resolveValue_eq_ok (h : resolveValue c v = .ok w) : w = v.mapTexts (filled c) := by
  induction v using Value.nestedInduction generalizing w with
  | text s =>
    obtain ⟨text, htext, rfl⟩ := Except.map_eq_ok.mp h
    rw [resolve_eq_ok htext, Value.mapTexts_text]
  | list items ih =>
    obtain ⟨ws, hws, rfl⟩ := Except.map_eq_ok.mp h
    rw [resolveList_eq_ok (fun x hx _ => ih x hx) hws, Value.mapTexts_list]
  | object fields ih =>
    obtain ⟨ws, hws, rfl⟩ := Except.map_eq_ok.mp h
    rw [resolveFields_eq_ok (fun field hfield _ => ih field hfield) hws, Value.mapTexts_object]
  | _ => exact (Except.ok.inj h).symm

end Automation.Template
