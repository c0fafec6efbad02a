import Automation.Schema.Issue
import Automation.Schema.Source
import Automation.Number.Text
import Automation.Time.WireReader

/-!
# Codecs

How data of a given shape is read and written. Reading is lenient about scalars: numbers may come
as text, flags as words. A record is described once, field by field, and the description gives both
directions.
-/

namespace Automation.Schema

/-- Which of its two names a field is written under. -/
inductive Naming where
  | camel
  | snake
deriving DecidableEq, Repr

/-- How records are written. -/
structure Layout where
  naming : Naming
  /-- Whether fields that are null are written. -/
  nulls : Bool
deriving DecidableEq, Repr

/-- The form on the wire: camel case, nulls left out. -/
def Layout.wire : Layout := ⟨.camel, false⟩

/-- The full form in camel case. -/
def Layout.full : Layout := ⟨.camel, true⟩

/-- The full form in snake case. -/
def Layout.plain : Layout := ⟨.snake, true⟩

/-- Reads and writes data of one shape. -/
structure Codec (α : Type) where
  read : {σ : Type} → [Source σ] → σ → Checked α
  write : Layout → α → Value

/-! ## Scalars -/

/-- The least integer of 64 bits. -/
def leastWord : Int := -9223372036854775808

/-- The greatest integer of 64 bits. -/
def greatestWord : Int := 9223372036854775807

/-- The integer of a float without a fraction. The first power of two that is too great for 64 bits
is as near to the greatest integer as floats come, and stands for it. -/
def integerOfFloat (x : Float) : Checked Int :=
  match Number.truncate? x with
  | none => .fail .infiniteNumber
  | some n =>
    if x.floor != x then .fail .fractionalInteger
    else if n < leastWord || greatestWord + 1 < n then .fail .oversizedInteger
    else .ok (min n greatestWord)

/-- ASCII digits with single underscores between them. -/
def latinDigits? (cs : List Char) : Option Nat :=
  if cs.all fun c => Text.isLatinDigit c || c == '_' then
    match Number.takeDigits 0 0 cs with
    | (n, count, []) => if count = 0 then none else some n
    | _ => none
  else none

/-- The most bytes of an integer's text. -/
def integerTextLimit : Nat := 4300

/-- The integer that a text writes, perhaps with a fraction of zeros. -/
def integerOfText (s : String) : Checked Int :=
  if integerTextLimit < s.utf8ByteSize then .fail .oversizedInteger
  else
    let (negative, cs) := Number.takeSign (Text.stripNumber s)
    let whole := cs.takeWhile (· != '.')
    let fraction := (cs.drop whole.length).drop 1
    match latinDigits? whole with
    | some n =>
      if fraction.all (· == '0') then .ok (if negative then -(n : Int) else n)
      else .fail .unreadableInteger
    | none => .fail .unreadableInteger

/-- The words for yes. -/
def yesWords : List String := ["1", "on", "t", "true", "y", "yes"]

/-- The words for no. -/
def noWords : List String := ["0", "off", "f", "false", "n", "no"]

/-- The flag that a number stands for. -/
def flagOfInteger (n : Int) : Checked Bool :=
  if n = 0 then .ok false else if n = 1 then .ok true else .fail .unclearFlag

/-- The flag that a float stands for. -/
def flagOfFloat (x : Float) : Checked Bool :=
  match integerOfFloat x with
  | .ok n => flagOfInteger n
  | .bad _ => .fail .flag

/-- The float that ASCII characters without gaps and low lines write. -/
def plainNumber? (cs : List Char) : Option Float :=
  if cs.all fun c => c.toNat < 128 && c != '_' && !Text.isNumberSpace c then
    Number.readFloat? (String.ofList cs)
  else none

/-- Characters without the low lines among them, of which there are some: none at an end, and no two
in a row. -/
def withoutLowLines? (cs : List Char) : Option (List Char) :=
  let doubled := (cs.zip (cs.drop 1)).any fun (a, b) => a == '_' && b == '_'
  if !cs.contains '_' || cs.head? == some '_' || cs.getLast? == some '_' || doubled then none
  else some (cs.filter (· != '_'))

/-- The float that a text writes: with white space around it, or with low lines in it. -/
def numberOfText (s : String) : Checked Float :=
  let plain := plainNumber? (Text.stripNumber s)
  match plain.orElse fun _ => (withoutLowLines? s.toList).bind plainNumber? with
  | some x => .ok x
  | none => .fail .unreadableNumber

namespace Codec

variable {α β : Type}

/-- A text, and nothing that could be made one. -/
def text : Codec String where
  read x := match Source.shape x with
    | .text s => .ok s
    | _ => .fail .text
  write _ s := .text s

/-- A text whose length is bounded. -/
def boundedText (least : Nat) (most : Option Nat) : Codec String where
  read x := (text.read x).andThen fun s =>
    if s.length < least then .fail (.textTooShort least)
    else match most with
      | some most => if most < s.length then .fail (.textTooLong most) else .ok s
      | none => .ok s
  write := text.write

/-- A flag, or a number or a word for one. -/
def flag : Codec Bool where
  read x := match Source.shape x with
    | .bool b => .ok b
    | .text s =>
      let word := Text.lowerLatin s
      if yesWords.contains word then .ok true
      else if noWords.contains word then .ok false
      else .fail .unclearFlag
    | .int n =>
      if leastWord ≤ n && n ≤ greatestWord then flagOfInteger n
      else flagOfFloat (Number.floatOfInt n)
    | .float x => flagOfFloat x
    | _ => .fail .flag
  write _ b := .bool b

/-- An integer, or a number without a fraction, a flag or a text that stands for one. -/
def integer : Codec Int where
  read x := match Source.shape x with
    | .int n => .ok n
    | .bool b => .ok (if b then 1 else 0)
    | .float x => integerOfFloat x
    | .text s => integerOfText s
    | _ => .fail .integer
  write _ n := .int n

/-- A float, or an integer, a flag or a text that stands for one. -/
def number : Codec Float where
  read x := match Source.shape x with
    | .float x => .ok x
    | .int n =>
      let x := Number.floatOfInt n
      if x.isInf then .fail .number else .ok x
    | .bool b => .ok (if b then 1.0 else 0.0)
    | .text s => numberOfText s
    | _ => .fail .number
  write _ x := .float x

/-- A point in time: text, or a count of seconds. -/
def time : Codec Time.Stamp where
  read x := match Source.shape x with
    | .text s => match Time.Wire.read s with
      | .ok t => .ok t
      | .error fault => .fail (.unreadableTime fault.message)
    | .int n => ofCount (Time.Wire.ofTimestamp n 0)
    | .float x => ofCount (Time.Wire.ofNumber x)
    | _ => .fail .time
  write _ t := .text t.wire
where
  ofCount : Except Time.Wire.CountFault Time.Stamp → Checked Time.Stamp
    | .ok t => .ok t
    | .error fault => .fail (.badTimestamp fault.message)

/-- Anything, as it is. -/
def any : Codec Value where
  read x := .ok (Source.toValue x)
  write _ v := v

/-- One of a list of names. -/
def choice (names : List String) (ofName? : String → Option α) (name : α → String) : Codec α where
  read x := match Source.shape x with
    | .text s =>
      match ofName? s with
      | some a => .ok a
      | none => .fail (.choice names)
    | _ => .fail (.choice names)
  write _ a := .text (name a)

/-- A value with a further condition. -/
def guarded (c : Codec α) (ok : α → Bool) (complaint : Complaint) : Codec α where
  read x := (c.read x).andThen fun a => if ok a then .ok a else .fail complaint
  write := c.write

/-! ## Collections -/

/-- A value or null. -/
def optional (c : Codec α) : Codec (Option α) where
  read x := match Source.shape x with
    | .null => .ok none
    | _ => (c.read x).map some
  write layout a := Value.ofOption (c.write layout) a

/-- The elements of a list, each under its index. -/
def readItems {σ : Type} [Source σ] (c : Codec α) (index : Nat) : List σ → List (Checked α)
  | [] => []
  | item :: items => (c.read item).under (.item index) :: readItems c (index + 1) items

/-- A list. -/
def list (c : Codec α) : Codec (List α) where
  read x := match Source.shape x with
    | .list items => Checked.all (readItems c 0 items)
    | _ => .fail .list
  write layout items := .list (items.map (c.write layout))

/-- The place of a key in issues. -/
def keyStep : Key → Step
  | .name s => .field s
  | .other _ (some n) => .item n
  | .other shown none => .field shown

/-- An entry of a dictionary, whose key must be a text. -/
def readEntry {σ : Type} [Source σ] (c : Codec α) (entry : Key × σ) : Checked (String × α) :=
  let key : Checked String := match entry.1 with
    | .name s => .ok s
    | _ => .bad [⟨[keyStep entry.1, .field "[key]"], .text⟩]
  (key.map Prod.mk).both ((c.read entry.2).under (keyStep entry.1))

/-- A dictionary from texts. -/
def dictionary (c : Codec α) : Codec (Entries α) where
  read x := match Source.shape x with
    | .object fields => Checked.all (fields.map (readEntry c))
    | _ => .fail .dictionary
  write layout entries := .object (entries.map fun (name, a) => (name, c.write layout a))

end Codec

/-! ## Records -/

/-- The names of a field. -/
structure FieldName where
  snake : String
  camel : String
deriving DecidableEq, Repr

/-- A field whose two names are the same. -/
def FieldName.plain (name : String) : FieldName := ⟨name, name⟩

/-- The name under a naming. -/
def FieldName.under (name : FieldName) : Naming → String
  | .camel => name.camel
  | .snake => name.snake

/-- The entry of a field and the name it was found under; the camel name wins. -/
def FieldName.find? {σ : Type} (name : FieldName) (entries : List (Key × σ)) :
    Option (String × σ) :=
  (named name.camel).orElse fun _ => named name.snake
where
  named (wanted : String) : Option (String × σ) :=
    entries.findSome? fun (key, x) => match key with
      | .name s => if s = wanted then some (s, x) else none
      | .other .. => none

/-- Fields of a record of type `ρ` that make up a part of type `α`. -/
structure Fields (ρ α : Type) where
  names : List FieldName
  read : {σ : Type} → [Source σ] → List (Key × σ) → Checked α
  write : Layout → ρ → List (FieldName × Value)

namespace Fields

variable {ρ α β : Type}

instance : Functor (Fields ρ) where
  map f x := { x with read := fun entries => (x.read entries).map f }

instance : Applicative (Fields ρ) where
  pure a := ⟨[], fun _ => .ok a, fun _ _ => []⟩
  seq f x :=
    { names := f.names ++ (x ()).names
      read := fun entries => (f.read entries).both ((x ()).read entries)
      write := fun layout r => f.write layout r ++ (x ()).write layout r }

/-- A field that must be there. -/
def required (name : FieldName) (get : ρ → α) (c : Codec α) : Fields ρ α where
  names := [name]
  read entries := match name.find? entries with
    | some (found, x) => (c.read x).under (.field found)
    | none => .bad [⟨[.field name.camel], .missing⟩]
  write layout r := [(name, c.write layout (get r))]

/-- A field that may be left out. -/
def default (name : FieldName) (get : ρ → α) (c : Codec α) (value : α) : Fields ρ α where
  names := [name]
  read entries := match name.find? entries with
    | some (found, x) => (c.read x).under (.field found)
    | none => .ok value
  write layout r := [(name, c.write layout (get r))]

/-- A field that may be null or left out. -/
def optional (name : FieldName) (get : ρ → Option α) (c : Codec α) : Fields ρ (Option α) :=
  default name get c.optional none

/-- The same fields of what is a part of another record. -/
def on {ρ' : Type} (fields : Fields ρ α) (part : ρ' → ρ) : Fields ρ' α where
  names := fields.names
  read := fields.read
  write layout r := fields.write layout (part r)

/-- The keys that no field was read from. -/
def extras {σ : Type} (names : List FieldName) (entries : List (Key × σ)) : List Issue :=
  let used := names.filterMap fun name => (name.find? entries).map (·.1)
  entries.filterMap fun (key, _) => match key with
    | .name s => if used.contains s then none else some ⟨[.field s], .extra⟩
    | .other .. => some ⟨[Codec.keyStep key], .badKey⟩

/-- The written fields of a record. -/
def object (fields : Fields ρ α) (layout : Layout) (r : ρ) : List (String × Value) :=
  (fields.write layout r).filterMap fun (name, value) =>
    if !layout.nulls && value = .null then none else some (name.under layout.naming, value)

end Fields

namespace Codec

variable {α : Type}

/-- A record, in which further fields are skipped. -/
def record (name : String) (fields : Fields α α) : Codec α where
  read x := match Source.shape x with
    | .object entries => fields.read entries
    | _ => .fail (.model name)
  write layout a := .object (fields.object layout a)

/-- A record that is no part of a request, in which further fields are skipped. -/
def attributes (fields : Fields α α) : Codec α where
  read x := match Source.shape x with
    | .object entries => fields.read entries
    | _ => .fail .attributes
  write layout a := .object (fields.object layout a)

/-- A record, in which further fields are issues. -/
def closedRecord (name : String) (fields : Fields α α) : Codec α where
  read x := match Source.shape x with
    | .object entries =>
      match Fields.extras fields.names entries with
      | [] => fields.read entries
      | extras => .bad ((fields.read entries).issues ++ extras)
    | _ => .fail (.model name)
  write layout a := .object (fields.object layout a)

end Codec

end Automation.Schema
