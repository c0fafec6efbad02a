import Automation.Proofs.Yaml.Cursor
import Automation.Yaml.Token
import Mathlib.Data.List.InsertIdx
import Mathlib.Data.List.TakeWhile

/-!
# Where a scan breaks off

A scan goes on in its text step by step, and what it emits are tokens of the text. It is broken off only
for a reason that the text gives (`tokens_broken`).
-/

namespace Automation.Yaml

open Cursor

variable {text : List Char} {c : Cursor} {s : Scan} {token : Token} {fault : Fault}

/-! ## Names, tags and directives -/

theorem readAnchorName_onward (h : c.rest <:+ text) : Onward text (readAnchorName c) := by
  have hrun := (run_suffix c.next isNameChar).trans ((next_suffix c).trans h)
  unfold readAnchorName
  dsimp only
  exact .ite (fun _ => .malformed) fun _ => hrun

theorem escapedBytes_onward (fuel : Nat) (h : c.rest <:+ text) : Onward text (escapedBytes c fuel) := by
  induction fuel generalizing c with
  | zero => exact h
  | succ fuel ih =>
    rw [escapedBytes]
    split
    · dsimp only
      split
      · split
        · exact .malformed
        · exact (ih ((advance_suffix c 3).trans h)).map fun found hfound => hfound
      · exact .malformed
    · exact h

theorem uriFrom_onward (fuel : Nat) (name : List Char) (h : c.rest <:+ text) :
    Onward text (uriFrom fuel name c) := by
  induction fuel generalizing c name with
  | zero => exact h
  | succ fuel ih =>
    have hrun := (run_suffix c isUriChar).trans h
    rw [uriFrom]
    split
    · have hbytes := escapedBytes_onward c.rest.length h
      split
      · rename_i hfault
        exact hbytes.of_error hfault
      · rename_i hfound
        split
        · exact ih _ (hbytes.of_ok hfound)
        · exact .malformed
    · dsimp only
      split
      · exact hrun
      · exact ih _ hrun

theorem readUri_onward (h : c.rest <:+ text) : Onward text (readUri c) := by
  unfold readUri
  refine (uriFrom_onward c.rest.length [] h).bind fun ⟨name, c₁⟩ hc₁ => ?_
  dsimp only
  split
  · exact .malformed
  · exact hc₁

theorem readHandle_onward (h : c.rest <:+ text) : Onward text (readHandle c) := by
  have hnext := (next_suffix c).trans h
  have hrun := (run_suffix c.next isNameChar).trans hnext
  unfold readHandle
  split
  · exact .malformed
  · dsimp only
    split
    · exact hnext
    · split
      · exact (next_suffix _).trans hrun
      · exact .malformed

/-- Whether a token is part of a text, and not the end of a scan that is broken off. -/
def Token.IsWhole : Token → Prop
  | .broken _ => False
  | _ => True

/-- A reading gives a token of the text. -/
abbrev Scanned (text : List Char) (x : Except Fault (Token × Cursor)) : Prop :=
  x.Ends (Snag text) fun found => found.1.IsWhole ∧ found.2.rest <:+ text

theorem readTag_scanned (h : c.rest <:+ text) : Scanned text (readTag c) := by
  have hnext := (next_suffix c).trans h
  -- What follows the tag ends it.
  have hend {handle : Option String} {name : String} {c₁ : Cursor} (hc₁ : c₁.rest <:+ text) :
      Scanned text (if isAtEnd c₁ = true then pure (.tag handle name, c₁) else .error .malformed) :=
    .ite (fun _ => ⟨trivial, hc₁⟩) fun _ => .malformed
  unfold readTag
  dsimp only
  refine .ite (fun _ => ?_) fun _ => .ite (fun _ => hend hnext) fun _ => .ite (fun _ => ?_) fun _ => ?_
  · refine (readUri_onward ((next_suffix _).trans hnext)).bind fun ⟨name, c₁⟩ hc₁ => ?_
    exact .ite (fun _ => hend ((next_suffix c₁).trans hc₁)) fun _ => .malformed
  · refine (readHandle_onward h).bind fun ⟨handle, c₁⟩ hc₁ => ?_
    exact (readUri_onward hc₁).bind fun ⟨name, c₂⟩ hc₂ => hend hc₂
  · exact (readUri_onward hnext).bind fun ⟨name, c₂⟩ hc₂ => hend hc₂

theorem readVersionPart_onward (h : c.rest <:+ text) : Onward text (readVersionPart c) := by
  unfold readVersionPart
  dsimp only
  split
  · exact .malformed
  split
  · rename_i hlong
    have hdigits : ∀ d ∈ (c.run Char.isDigit).1, Text.isLatinDigit d = true :=
      fun d => List.mem_takeWhile_imp
    have hstands : (c.run Char.isDigit).1 <:+: text :=
      (List.takeWhile_prefix Char.isDigit).isInfix.trans h.isInfix
    exact .version ⟨_, hstands, hdigits, hlong, rfl⟩
  · exact (run_suffix c _).trans h

theorem readDirective_scanned (h : c.rest <:+ text) : Scanned text (readDirective c) := by
  have hname := (run_suffix c.next isNameChar).trans ((next_suffix c).trans h)
  have hblank {c₁ : Cursor} (p : Char → Bool) (hc₁ : c₁.rest <:+ text) :
      (c₁.skip p).rest <:+ text := (skip_suffix c₁ p).trans hc₁
  -- Nothing but a comment is left on the line.
  have hline {name : String} {arguments : List String} {c₁ : Cursor} (hc₁ : c₁.rest <:+ text) :
      Scanned text (do
        let c₂ ← c₁.nextLine
        pure (.directive name arguments, c₂)) :=
    (nextLine_onward hc₁).bind fun c₂ hc₂ => ⟨trivial, hc₂⟩
  unfold readDirective
  dsimp only
  refine .check (fun _ => .malformed) fun _ => ?_
  split
  · refine (readVersionPart_onward (hblank _ hname)).bind fun ⟨major, c₁⟩ hc₁ => ?_
    refine .check (fun _ => .malformed) fun _ => ?_
    refine (readVersionPart_onward ((next_suffix c₁).trans hc₁)).bind fun ⟨minor, c₂⟩ hc₂ => ?_
    exact .ite (fun _ => hline hc₂) fun _ => .malformed
  · refine (readHandle_onward (hblank _ hname)).bind fun ⟨handle, c₁⟩ hc₁ => ?_
    refine .check (fun _ => .malformed) fun _ => ?_
    refine (readUri_onward (hblank _ hc₁)).bind fun ⟨names, c₂⟩ hc₂ => ?_
    exact .ite (fun _ => hline hc₂) fun _ => .malformed
  · exact hline (hblank _ hname)

/-! ## Steps of a scan -/

namespace Scan

/-- A scan stands in its text, and its tokens are of the text. -/
structure Sound (text : List Char) (s : Scan) : Prop where
  forward : s.cursor.rest <:+ text
  whole : ∀ token ∈ s.tokens, token.IsWhole

/-- A step leads to a sound scan, or breaks off for a reason. -/
abbrev Steps (text : List Char) (x : Except Fault Scan) : Prop := x.Ends (Snag text) (Sound text)

theorem Sound.emit (h : s.Sound text) (token : Token) (htoken : token.IsWhole) :
    (s.emit token).Sound text where
  forward := h.forward
  whole := List.forall_mem_cons.mpr ⟨htoken, h.whole⟩

theorem Sound.insert (h : s.Sound text) (position : Nat) (token : Token) (htoken : token.IsWhole) :
    (s.insert position token).Sound text where
  forward := h.forward
  whole other hother := by
    rcases List.eq_or_mem_of_mem_insertIdx hother with rfl | hother
    · exact htoken
    · exact h.whole other hother

theorem Sound.at (h : s.Sound text) {c : Cursor} (hc : c.rest <:+ text) :
    Sound text { s with cursor := c } := ⟨hc, h.whole⟩

theorem Sound.mark (h : s.Sound text) (token : Token) (htoken : token.IsWhole) (count : Nat) :
    (s.mark token count).Sound text :=
  (h.emit token htoken).at ((advance_suffix _ _).trans h.forward)

theorem Sound.dropKeys (h : s.Sound text) (drops : Nat → PossibleKey → Bool) :
    Steps text (s.dropKeys drops) :=
  .ite (fun _ => .malformed) fun _ => ⟨h.forward, h.whole⟩

theorem Sound.saveKey (h : s.Sound text) : Steps text s.saveKey :=
  .ite (fun _ => (h.dropKeys _).bind fun _ hs => ⟨hs.forward, hs.whole⟩) fun _ => h

theorem Sound.unwindTo (column : Int) (outer : List Int) (h : s.Sound text) :
    (unwindTo column outer s).Sound text := by
  induction outer generalizing s with
  | nil => exact h
  | cons around outer ih =>
    rw [Scan.unwindTo]
    split
    · exact ih ⟨h.forward, (h.emit .blockEnd trivial).whole⟩
    · exact h

theorem Sound.unwind (h : s.Sound text) (column : Int) : (s.unwind column).Sound text := by
  unfold Scan.unwind
  split
  · exact h
  · exact h.unwindTo column _

theorem Sound.openBlock (h : s.Sound text) (column position : Nat) (token : Token)
    (htoken : token.IsWhole) :
    (s.openBlock column position token).Sound text := by
  unfold Scan.openBlock
  split
  · exact ⟨h.forward, (h.insert position token htoken).whole⟩
  · exact h

theorem Sound.toNextToken (fuel : Nat) (h : s.Sound text) : (s.toNextToken fuel).Sound text := by
  induction fuel generalizing s with
  | zero => exact h
  | succ fuel ih =>
    have hend := (endOfLine_suffix s.cursor).trans h.forward
    rw [Scan.toNextToken]
    split
    · rename_i hbreak
      exact ih ⟨(lineBreak?_suffix hbreak).trans hend, h.whole⟩
    · exact ⟨hend, h.whole⟩

theorem Sound.documentMark (h : s.Sound text) (htoken : token.IsWhole) :
    Steps text (s.documentMark token) := by
  unfold Scan.documentMark
  refine ((h.unwind _).dropKeys _).bind fun s hs => ?_
  have hs : Sound text { s with keyAllowed := false } := ⟨hs.forward, hs.whole⟩
  exact hs.mark token htoken 3

theorem Sound.directive (h : s.Sound text) : Steps text s.directive := by
  unfold Scan.directive
  refine ((h.unwind _).dropKeys _).bind fun s hs => ?_
  refine (readDirective_scanned hs.forward).bind fun found hfound => ?_
  exact ⟨hfound.2, (hs.emit _ hfound.1).whole⟩

theorem Sound.flowStart (h : s.Sound text) (htoken : token.IsWhole) :
    Steps text (s.flowStart token) := by
  unfold Scan.flowStart
  refine h.saveKey.bind fun s hs => ?_
  have hs : Sound text { s with flowLevel := s.flowLevel + 1, keyAllowed := true } :=
    ⟨hs.forward, hs.whole⟩
  exact hs.mark token htoken 1

theorem Sound.flowEnd (h : s.Sound text) (htoken : token.IsWhole) : Steps text (s.flowEnd token) := by
  unfold Scan.flowEnd
  refine (h.dropKeys _).bind fun s hs => ?_
  have hs : Sound text { s with flowLevel := s.flowLevel - 1, keyAllowed := false } :=
    ⟨hs.forward, hs.whole⟩
  exact .ite (fun _ => hs.mark token htoken 1) fun _ => .malformed

/-- A mark behind which a key may or may not start. -/
theorem Sound.keyed (h : s.Sound text) (allowed : Bool) (token : Token)
    (htoken : token.IsWhole) :
    Steps text (do
      let s ← { s with keyAllowed := allowed }.dropKey
      return s.mark token 1) := by
  have h : Sound text { s with keyAllowed := allowed } := ⟨h.forward, h.whole⟩
  exact (h.dropKeys _).bind fun s hs => hs.mark token htoken 1

theorem Sound.flowEntry (h : s.Sound text) : Steps text s.flowEntry :=
  h.keyed true .flowEntry trivial

/-- A block that begins here, outside of flow. -/
theorem Sound.begin (h : s.Sound text) (token : Token) (htoken : token.IsWhole) :
    (if s.inFlow then s else s.openBlock s.cursor.column s.tokens.length token).Sound text := by
  split
  · exact h
  · exact h.openBlock _ _ token htoken

theorem Sound.blockEntry (h : s.Sound text) : Steps text s.blockEntry := by
  unfold Scan.blockEntry
  refine .check (fun _ => .malformed) fun _ => ?_
  exact (h.begin .blockSequenceStart trivial).keyed true .blockEntry trivial

theorem Sound.explicitKey (h : s.Sound text) : Steps text s.explicitKey := by
  unfold Scan.explicitKey
  refine .check (fun _ => .malformed) fun _ => ?_
  exact (h.begin .blockMappingStart trivial).keyed _ .key trivial

theorem Sound.value (h : s.Sound text) : Steps text s.value := by
  unfold Scan.value
  split
  · rename_i k _
    dsimp only
    generalize s.keys.filter _ = keys
    have hkeys : Sound text { s with keys := keys } := ⟨h.forward, h.whole⟩
    have hkey := hkeys.insert k.position .key trivial
    generalize Scan.insert _ k.position .key = inserted at *
    have hblock : (if inserted.inFlow then inserted
        else inserted.openBlock k.column k.position .blockMappingStart).Sound text := by
      split
      · exact hkey
      · exact hkey.openBlock _ _ _ trivial
    generalize (if inserted.inFlow then inserted
      else inserted.openBlock k.column k.position .blockMappingStart) = opened at *
    have hopened : Sound text { opened with keyAllowed := false } := ⟨hblock.forward, hblock.whole⟩
    exact hopened.mark .value trivial 1
  · refine .check (fun _ => .malformed) fun _ => ?_
    exact (h.begin .blockMappingStart trivial).keyed _ .value trivial

theorem Sound.node (h : s.Sound text) {read : Cursor → Except Fault (Token × Cursor)}
    (hread : ∀ c : Cursor, c.rest <:+ text → Scanned text (read c)) : Steps text (s.node read) :=
  h.saveKey.bind fun _ hs =>
    (hread _ hs.forward).bind fun _ hfound => ⟨hfound.2, (hs.emit _ hfound.1).whole⟩

theorem Sound.plain (h : s.Sound text) : Steps text s.plain :=
  h.saveKey.bind fun _ hs =>
    ⟨(readPlain_suffix _ _ _).trans hs.forward, List.forall_mem_cons.mpr ⟨trivial, hs.whole⟩⟩

theorem Sound.block (h : s.Sound text) (folds : Bool) : Steps text (s.block folds) :=
  (Sound.dropKeys (s := { s with keyAllowed := true }) ⟨h.forward, h.whole⟩ _).bind fun _ hs =>
    (readBlock_onward folds _ hs.forward).bind fun _ hfound =>
      ⟨hfound, List.forall_mem_cons.mpr ⟨trivial, hs.whole⟩⟩

theorem Sound.anchorName (h : s.Sound text) {f : String → Token} (hf : ∀ name, (f name).IsWhole) :
    Steps text (s.node fun c => (readAnchorName c).map fun (name, c) => (f name, c)) :=
  h.node fun _ hc => (readAnchorName_onward hc).map fun found hfound => ⟨hf found.1, hfound⟩

theorem Sound.quoted (h : s.Sound text) (quote : Char) : Steps text (s.quoted quote) :=
  h.node fun _ hc => (readQuoted_onward quote hc).map fun _ hfound => ⟨trivial, hfound⟩

/-- Every step leads on in the text. -/
theorem Sound.step (h : s.Sound text) (char : Char) : Steps text (s.step char) := by
  unfold Scan.step
  dsimp only
  refine .ite (fun _ => h.directive) fun _ => ?_
  refine .ite (fun _ => h.documentMark trivial) fun _ => ?_
  refine .ite (fun _ => h.documentMark trivial) fun _ => ?_
  refine .ite (fun _ => h.flowStart trivial) fun _ => ?_
  refine .ite (fun _ => h.flowStart trivial) fun _ => ?_
  refine .ite (fun _ => h.flowEnd trivial) fun _ => ?_
  refine .ite (fun _ => h.flowEnd trivial) fun _ => ?_
  refine .ite (fun _ => h.flowEntry) fun _ => ?_
  refine .ite (fun _ => h.blockEntry) fun _ => ?_
  refine .ite (fun _ => h.explicitKey) fun _ => ?_
  refine .ite (fun _ => h.value) fun _ => ?_
  refine .ite (fun _ => h.anchorName fun _ => trivial) fun _ => ?_
  refine .ite (fun _ => h.anchorName fun _ => trivial) fun _ => ?_
  refine .ite (fun _ => h.node fun _ => readTag_scanned) fun _ => ?_
  refine .ite (fun _ => h.block false) fun _ => ?_
  refine .ite (fun _ => h.block true) fun _ => ?_
  refine .ite (fun _ => h.quoted char) fun _ => ?_
  refine .ite (fun _ => h.plain) fun _ => ?_
  exact .malformed

theorem Sound.fetch (h : s.Sound text) : s.fetch.Ends (Snag text) fun
    | .inl tokens => ∀ token ∈ tokens, token.IsWhole
    | .inr s => s.Sound text := by
  unfold Scan.fetch
  refine ((h.toNextToken _).dropKeys _).bind fun s hs => ?_
  have hunwound := hs.unwind s.cursor.column
  dsimp only
  split
  · exact ((hunwound.unwind (-1)).dropKeys _).bind fun s hs token htoken =>
      hs.whole token (List.mem_reverse.mp htoken)
  · rename_i char _ _
    exact (hunwound.step char).bind fun s hs => hs

theorem Sound.all (h : s.Sound text) (fuel : Nat) (hbroken : .broken fault ∈ s.all fuel) :
    Snag text fault := by
  induction fuel generalizing s with
  | zero =>
    rw [Scan.all, List.mem_singleton] at hbroken
    cases hbroken
    exact .malformed
  | succ fuel ih =>
    have hfetch := h.fetch
    rw [Scan.all] at hbroken
    split at hbroken
    · rename_i tokens heq
      exact absurd (hfetch.of_ok heq (.broken fault) hbroken) id
    · rename_i s' heq
      exact ih (hfetch.of_ok heq) hbroken
    · rename_i fault' heq
      -- The tokens in front of the break are whole, so the fault is that of the break.
      rcases List.mem_append.mp hbroken with hmem | hmem
      · have hmem := List.mem_reverse.mp (List.mem_of_mem_take hmem)
        exact absurd (h.whole _ hmem) id
      · cases List.mem_singleton.mp hmem
        exact hfetch.of_error heq

end Scan

/-- A scan is broken off only for a reason that the text gives. -/
theorem tokens_broken {s : String} (h : .broken fault ∈ tokens s) : Snag s.toList fault := by
  unfold tokens at h
  dsimp only at h
  split at h
  · refine Scan.Sound.all (s := { cursor := _ }) ⟨?_, nofun⟩ _ h
    split
    · exact next_suffix _
    · exact List.suffix_rfl
  · cases List.mem_singleton.mp h
    exact .malformed

end Automation.Yaml
