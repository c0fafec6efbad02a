import Automation.Proofs.Yaml.Node
import Automation.Proofs.Yaml.Scalar
import Automation.Proofs.Yaml.Token

/-!
# Why a text has no data

The data of a document is built of its nodes. Where that fails, the text is malformed, or something in it
cannot be scanned, or a scalar in it has not the value that its form or its tag promises
(`Data.ofText_misread`).
-/

namespace Automation.Yaml

open Yaml.Node

namespace Data

variable {α β : Type} {P : α → Prop} {Q : β → Prop} {tokens : List Token} {node : Node} {tag : Tag}
  {s : String} {fault : Fault}

/-- Why what is drawn from some tokens has no data. -/
inductive Cause (tokens : List Token) : Fault → Prop where
  | malformed : Cause tokens .malformed
  /-- A scalar has not the value of its tag. -/
  | scalar {tag : Tag} {s : String} {fault : Fault} (h : Drawn tokens tag s)
      (hnone : ofScalar tag s = .error fault) : Cause tokens fault
  /-- A mapping has the tag of a time. -/
  | mappedTime {uri : String} (htag : IsWritten tokens uri) (htime : Tag.ofUri uri = .time) :
      Cause tokens .mappedTime

/-- A thing is built, unless there is a cause. -/
abbrev Caused (tokens : List Token) (x : Built α) : Prop :=
  x.Ends (fun e => Cause tokens e.2) fun _ => True

namespace Built

theorem now_caused {x : Except Fault α} (h : x.Ends (Cause tokens) fun _ => True) :
    Caused tokens (now x) := by
  cases x with
  | ok a => trivial
  | error fault => exact h

theorem later_caused {x : Built α} (h : Caused tokens x) : Caused tokens (later x) := by
  cases x with
  | ok a => trivial
  | error fault => exact h

theorem map_caused {x : Built α} (f : α → β) (h : Caused tokens x) : Caused tokens (x.map f) :=
  Except.Ends.map h fun _ _ => trivial

theorem both_caused {x : Built α} {y : Built β} (hx : Caused tokens x) (hy : Caused tokens y) :
    Caused tokens (both x y) := by
  match x, y with
  | .ok a, .ok b => trivial
  | .ok a, .error e => exact hy
  | .error e, .ok b => exact hx
  | .error e, .error e' =>
    -- Only one of two faults shows, but either has its cause.
    show Cause tokens (if e'.1 < e.1 then e' else e).2
    split
    · exact hy
    · exact hx

end Built

open Built

/-! ## Nodes -/

theorem ofScalar_caused (h : Drawn tokens tag s) :
    (ofScalar tag s).Ends (Cause tokens) fun _ => True := by
  cases hdata : ofScalar tag s with
  | ok data => trivial
  | error fault => exact .scalar h hdata

theorem ofLeaf_caused (h : IsDrawn tokens node) : (ofLeaf node).Ends (Cause tokens) fun _ => True := by
  unfold ofLeaf
  split
  · obtain ⟨htag, -⟩ := isDrawn_mapping.mp h
    cases htag with
    | tagged hwritten _ htag => exact .mappedTime hwritten htag
  · rename_i htext
    have hs := isTextOf_text? _ h htext
    cases h with
    | scalar h =>
      cases htext
      exact ofScalar_caused h
    | sequence _ => cases htext
    | mapping htag =>
      cases htag with
      | mapping => exact .malformed
      | @tagged uri _ hwritten hother htag =>
        -- The tag promises a scalar, and the text under the mark of a default is read as one.
        have hdrawn := Drawn.tagged true hwritten hs
        rw [scalarTag_uri hother, htag] at hdrawn
        exact ofScalar_caused hdrawn
      | key => trivial
  · exact .malformed

theorem ofOther_caused (h : IsDrawn tokens node) : Caused tokens (ofOther node) := by
  unfold ofOther
  split
  case h_5 => exact now_caused (ofLeaf_caused h)
  all_goals exact .malformed

mutual

theorem ofNode_caused (node : Node) (h : IsDrawn tokens node) : Caused tokens (ofNode node) := by
  match node with
  | .scalar tag s => exact ofOther_caused h
  | .sequence tag items =>
    have hitems := isDrawn_sequence.mp h
    cases tag with
    | sequence =>
      rw [ofNode]
      exact later_caused (map_caused _ (ofItems_caused items hitems))
    | pairs =>
      rw [ofNode]
      exact later_caused (map_caused _ (ofPairItems_caused items hitems))
    | _ => exact ofOther_caused h
  | .mapping tag entries none => cases tag <;> exact ofOther_caused h
  | .mapping tag entries (some merged) =>
    have hmerged := (isDrawn_mapping.mp h).2.2 merged rfl
    cases tag with
    | mapping | set =>
      rw [ofNode]
      exact later_caused (map_caused _ (ofEntries_caused merged hmerged))
    | _ => exact ofOther_caused h

theorem ofItems_caused (items : List Node) (h : ∀ item ∈ items, IsDrawn tokens item) :
    Caused tokens (ofItems items) := by
  match items with
  | [] => trivial
  | item :: items =>
    obtain ⟨hitem, hitems⟩ := List.forall_mem_cons.mp h
    rw [ofItems]
    exact map_caused _ (both_caused (ofNode_caused item hitem) (ofItems_caused items hitems))

theorem ofPairItems_caused (items : List Node) (h : ∀ item ∈ items, IsDrawn tokens item) :
    Caused tokens (ofPairItems items) := by
  match items with
  | [] => trivial
  | .mapping tag [(key, value)] merged :: items =>
    obtain ⟨hitem, hitems⟩ := List.forall_mem_cons.mp h
    obtain ⟨hkey, hvalue⟩ := (isDrawn_mapping.mp hitem).2.1 (key, value) List.mem_cons_self
    rw [ofPairItems]
    exact map_caused _ (both_caused (both_caused (ofNode_caused key hkey) (ofNode_caused value hvalue))
      (ofPairItems_caused items hitems))
  | .scalar .. :: _ | .sequence .. :: _ | .mapping _ [] _ :: _ | .mapping _ (_ :: _ :: _) _ :: _ =>
    exact .malformed

theorem ofEntries_caused (entries : List (Node × Node))
    (h : ∀ entry ∈ entries, EntryDrawn tokens entry) : Caused tokens (ofEntries entries) := by
  match entries with
  | [] => trivial
  | (key, value) :: entries =>
    obtain ⟨⟨hkey, hvalue⟩, hentries⟩ := List.forall_mem_cons.mp h
    rw [ofEntries]
    exact map_caused _ (both_caused (both_caused (now_caused (ofLeaf_caused hkey))
      (ofNode_caused value hvalue)) (ofEntries_caused entries hentries))

end

/-- A text has data, unless its tokens are no document, the scan of them was broken off, or there is a
cause. -/
theorem ofText_caused {text : String} (h : ofText text = .error fault) :
    Reading.Stop (Yaml.tokens text) fault ∨ Cause (Yaml.tokens text) fault := by
  have hdrawn := ofTokens_drawn (Yaml.tokens text)
  rcases Except.bind_eq_error.mp h with hstop | ⟨found, hfound, h⟩
  · exact .inl (hdrawn.of_error hstop)
  · cases found with
    | none => cases h
    | some node =>
      obtain ⟨e, hnode, rfl⟩ := Except.mapError_eq_error.mp h
      exact .inr ((ofNode_caused node (hdrawn.of_ok hfound node rfl)).of_error hnode)

end Data

/-! ## What is misread -/

/-- What is in a text that has no data, though it may well have the form of a document. -/
inductive Misread (text : String) : Fault → Prop where
  /-- Something that cannot be scanned. -/
  | snag {fault : Fault} (h : Snag text.toList fault) : Misread text fault
  /-- A plain scalar that has not the value which its form promises. -/
  | plain {s : String} {fault : Fault} (hmem : .scalar true s ∈ tokens text) (h : Unkept s fault) :
      Misread text fault
  /-- A tag that promises another value than the scalar behind it has. -/
  | tagged {uri s : String} {plain : Bool} {fault : Fault} (hwritten : IsWritten (tokens text) uri)
      (htext : IsTextOf (tokens text) s)
      (h : Data.ofScalar (scalarTag (some uri) plain s) s = .error fault) : Misread text fault
  /-- The tag of a time, in front of a mapping. -/
  | mappedTime {uri : String} (hwritten : IsWritten (tokens text) uri) (htime : Tag.ofUri uri = .time) :
      Misread text .mappedTime

/-- What is drawn from a text is misread if it has not its value. -/
theorem Misread.of_drawn {text : String} {tag : Tag} {s : String} {fault : Fault}
    (h : Drawn (tokens text) tag s) (hnone : Data.ofScalar tag s = .error fault) :
    Misread text fault := by
  cases h with
  | empty => cases hnone
  | @bare plain _ hmem =>
    cases plain with
    | true => exact .plain hmem (plain_unkept hnone)
    | false => cases hnone
  | tagged plain hwritten htext => exact .tagged hwritten htext hnone
  | key _ => cases hnone

/-- A text that has no data is malformed, or something in it is misread. -/
theorem Data.ofText_misread {text : String} {fault : Fault} (h : ofText text = .error fault) :
    Misread text fault := by
  rcases ofText_caused h with (rfl | hbroken) | hcause
  · exact .snag .malformed
  · exact .snag (tokens_broken hbroken)
  · cases hcause with
    | malformed => exact .snag .malformed
    | scalar hdrawn hnone => exact .of_drawn hdrawn hnone
    | mappedTime hwritten htime => exact .mappedTime hwritten htime

end Automation.Yaml
