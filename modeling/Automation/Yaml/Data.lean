import Automation.Schema.Source
import Automation.Value.Compare
import Automation.Yaml.Node

/-!
# Data of YAML

The data that a document describes. It has more than JSON has: points in time, and keys that are no
texts. Definitions are read from it as they are from JSON.
-/

namespace Automation.Yaml

/-- Data of a document. -/
inductive Data where
  | null
  | flag (b : Bool)
  | integer (n : Int)
  | number (x : Float)
  | text (s : String)
  | moment (m : Moment)
  | list (items : List Data)
  /-- Entries with different keys; a key is no collection. -/
  | mapping (entries : List (Data × Data))
deriving Inhabited

namespace Data

/-- Data that can be a key, as a value. -/
def keyValue? : Data → Option Value
  | .null => some .null
  | .flag b => some (.bool b)
  | .integer n => some (.int n)
  | .number x => some (.float x)
  | .text s => some (.text s)
  | .moment _ | .list _ | .mapping _ => none

/-- Whether two keys are the same: numbers by what they stand for. -/
def sameKey (a b : Data) : Bool :=
  match a.keyValue?, b.keyValue? with
  | some a, some b => a.agrees b
  | _, _ =>
    match a, b with
    | .moment a, .moment b => a = b
    | _, _ => false

/-- Add an entry. A key that is there already stays, and its value is replaced. -/
def setEntry (key value : Data) : List (Data × Data) → List (Data × Data)
  | [] => [(key, value)]
  | (k, v) :: rest =>
    if sameKey k key then (k, value) :: rest else (k, v) :: setEntry key value rest

/-- A mapping of entries. Where a key comes again, its last value counts. -/
def ofPairs (entries : List (Data × Data)) : List (Data × Data) :=
  entries.foldl (fun entries (key, value) => setEntry key value entries) []

/-! ## From nodes -/

/-- Values of sixty-four characters, six bits each. -/
def sextet? (c : Char) : Option Nat :=
  if c.isUpper then some (c.toNat - 'A'.toNat)
  else if c.isLower then some (c.toNat - 'a'.toNat + 26)
  else if c.isDigit then some (c.toNat - '0'.toNat + 52)
  else if c == '+' then some 62
  else if c == '/' then some 63
  else none

/-- The sextets of letters, with those in front of them, the last one first, and the count of fillers
since then. Fillers end the letters where they fill up a group of four; without them all groups must be
full. What is no letter is passed over. -/
def sextetsFrom (before : List Nat) (fillers : Nat) : List Char → Option (List Nat)
  | [] => if before.length % 4 = 0 then some before.reverse else none
  | c :: rest =>
    if c == '=' then
      if before.length % 4 < 2 then sextetsFrom before fillers rest
      else if 4 ≤ before.length % 4 + (fillers + 1) then some before.reverse
      else sextetsFrom before (fillers + 1) rest
    else match sextet? c with
      | some value => sextetsFrom (value :: before) 0 rest
      | none => sextetsFrom before fillers rest

/-- The bytes of some sextets. -/
def bytesOfSextets : List Nat → List UInt8
  | a :: b :: c :: d :: rest =>
    let n := ((a * 64 + b) * 64 + c) * 64 + d
    (n / 65536).toUInt8 :: (n / 256 % 256).toUInt8 :: (n % 256).toUInt8 :: bytesOfSextets rest
  | [a, b, c] => [(a * 4 + b / 16).toUInt8, (b % 16 * 16 + c / 4).toUInt8]
  | [a, b] => [(a * 4 + b / 16).toUInt8]
  | _ => []

/-- The text of bytes in letters. -/
def readBinary (s : String) : Except Fault String :=
  if s.toList.any fun c => 128 ≤ c.toNat then .error .malformed
  else match sextetsFrom [] 0 s.toList with
    | some sextets =>
      match String.fromUTF8? ⟨(bytesOfSextets sextets).toArray⟩ with
      | some decoded => .ok decoded
      | none => .error .malformed
    | none => .error .malformed

/-- The data of a scalar. -/
def ofScalar (tag : Tag) (s : String) : Except Fault Data :=
  match tag with
  | .null => .ok .null
  | .flag => (readFlag s).map .flag
  | .integer => (readInteger s).map .integer
  | .number => (readNumber s).map .number
  | .time => (readTime s).map .moment
  | .text => .ok (.text s)
  | .binary => (readBinary s).map .text
  | .merge | .default | .sequence | .pairs | .mapping | .set | .other _ => .error .malformed

/-- The data of a node whose tag is that of a scalar. -/
def ofLeaf (node : Node) : Except Fault Data :=
  match node.text?, node with
  | some _, .mapping .time _ _ => .error .mappedTime
  | some s, node => ofScalar node.tag s
  | none, _ => .error .malformed

/-- What is built of nodes, or the fault that is met first, with its depth: the count of collections
that are filled on the way to it. -/
abbrev Built (α : Type) := Except (Nat × Fault) α

namespace Built

variable {α β : Type}

/-- What is built at once. -/
def now (x : Except Fault α) : Built α := x.mapError fun fault => (0, fault)

/-- What is built when a collection is filled, which is after all that stands on a level with it. -/
def later (x : Built α) : Built α := x.mapError fun (depth, fault) => (depth + 1, fault)

/-- Two things on a level. Of two faults that of the lesser depth is met first. -/
def both (x : Built α) (y : Built β) : Built (α × β) :=
  match x, y with
  | .ok a, .ok b => .ok (a, b)
  | .error fault, .ok _ => .error fault
  | .ok _, .error fault => .error fault
  | .error first, .error second => .error (if second.1 < first.1 then second else first)

end Built

/-- The data of a node that is no collection. Where the tag is that of a collection, this shows when the
collection is filled. -/
def ofOther (node : Node) : Built Data :=
  match node.tag with
  | .sequence | .pairs | .mapping | .set => .later (.now (.error .malformed))
  | _ => .now (ofLeaf node)

mutual

/-- The data of a node. -/
def ofNode : Node → Built Data
  | .sequence .sequence items => .later ((ofItems items).map .list)
  | .sequence .pairs items => .later ((ofPairItems items).map .list)
  | .mapping .mapping _ (some entries) => .later ((ofEntries entries).map fun pairs =>
    .mapping (ofPairs pairs))
  | .mapping .set _ (some entries) => .later ((ofEntries entries).map fun pairs =>
    .list ((ofPairs pairs).map (·.1)))
  | node => ofOther node

/-- The data of some nodes. -/
def ofItems : List Node → Built (List Data)
  | [] => .ok []
  | item :: items => ((ofNode item).both (ofItems items)).map fun (item, items) => item :: items

/-- The data of pairs, each of which is a mapping with one entry. -/
def ofPairItems : List Node → Built (List Data)
  | [] => .ok []
  | .mapping _ [(key, value)] _ :: items =>
    (((ofNode key).both (ofNode value)).both (ofPairItems items)).map fun ((key, value), items) =>
      .list [key, value] :: items
  | _ :: _ => .now (.error .malformed)

/-- The data of the entries of a mapping. -/
def ofEntries : List (Node × Node) → Built (List (Data × Data))
  | [] => .ok []
  | (key, value) :: entries =>
    (((Built.now (ofLeaf key)).both (ofNode value)).both (ofEntries entries)).map fun (entry, entries) =>
      entry :: entries

end

/-- The data that a text describes; none if there is no document. -/
def ofText (s : String) : Except Fault Data := do
  match ← Node.ofTokens (tokens s) with
  | some node => (ofNode node).mapError fun (_, fault) => fault
  | none => return .null

/-! ## As a source -/

/-- A key that is no text, shown. -/
def shownKey : Data → String
  | .null => "None"
  | .flag b => if b then "True" else "False"
  | .integer n => toString n
  | .number x => Number.displayStyle.write x
  | .text s => s
  | .moment m => m.text
  | .list _ => "list"
  | .mapping _ => "dict"

/-- A key of an object. In places flags count as numbers. -/
def toKey : Data → Schema.Key
  | .text s => .name s
  | .flag b => .other (if b then "1" else "0") none
  | key => .other key.shownKey none

/-- The text of a key where only texts can be keys. -/
def keyText : Data → String
  | .flag b => if b then "true" else "false"
  | key => key.shownKey

mutual

/-- The data as a value: a moment is its text, and so is every key. -/
def toValue : Data → Value
  | .null => .null
  | .flag b => .bool b
  | .integer n => .int n
  | .number x => .float x
  | .text s => .text s
  | .moment m => .text m.text
  | .list items => .list (itemValues items)
  | .mapping entries => .object (entryValues entries)

/-- The values of some data. -/
def itemValues : List Data → List Value
  | [] => []
  | item :: items => item.toValue :: itemValues items

/-- The entries of a mapping as values. -/
def entryValues : List (Data × Data) → List (String × Value)
  | [] => []
  | (key, value) :: entries => (key.keyText, value.toValue) :: entryValues entries

end

/-- The outermost layer of data. -/
def shape : Data → Schema.Shape Data
  | .null => .null
  | .flag b => .bool b
  | .integer n => .int n
  | .number x => .float x
  | .text s => .text s
  | .moment m => .foreign m.text
  | .list items => .list items
  | .mapping entries => .object (entries.map fun (key, value) => (key.toKey, value))

instance : Schema.Source Data := ⟨shape, toValue⟩

end Data

end Automation.Yaml
