import Automation.Json.Reader
import Automation.Json.Writer
import Automation.Schema.Codec
import Automation.Time.IsoReader

/-!
# Columns

A row of a table is a structure. A column is one of its fields as the store sees it: under a name,
as a value, and with the values that it can take. The list of a table's columns is all that is
needed to show a row and to overwrite parts of it.
-/

namespace Automation

/-- Why the store refuses an operation. -/
inductive StoreFault where
  /-- The store is out of order. -/
  | outage (message : String)
  /-- Nothing where something is required, or a key that is taken. -/
  | integrity
  /-- An integer of more than 64 bits. -/
  | longInteger
  /-- A duration that no float can hold. -/
  | hugeDuration
deriving DecidableEq, Repr

/-- The fault in words, if it has any. -/
def StoreFault.message : StoreFault → String
  | .outage message => message
  | .integrity => ""
  | .longInteger => "Python int too large to convert to SQLite INTEGER"
  | .hugeDuration => "int too large to convert to float"

/-- Integers that the store can hold. -/
def storable (n : Int) : Bool := -9223372036854775808 ≤ n && n ≤ 9223372036854775807

/-- An integer on its way into the store. -/
def stored (n : Int) : Except StoreFault Int := if storable n then .ok n else .error .longInteger

/-- A field of a row as the store sees it. -/
structure Column (ρ : Type) where
  name : String
  get : ρ → Value
  put : Value → ρ → Except StoreFault ρ

namespace Column

variable {ρ : Type}

/-! ## Values in columns -/

/-- A value as a column of texts holds it. -/
def asText : Value → String
  | .text s => s
  | .bool b => if b then "1" else "0"
  | v => Json.write v

/-- A value as a column of numbers holds it, if it can. -/
def asInteger? : Value → Option Int
  | .int n => some n
  | .bool b => some (if b then 1 else 0)
  | .float x => if x.floor == x then Number.truncate? x else none
  | .text s => (Schema.integerOfText s).toOption
  | _ => none

/-- A value as a column of documents holds it. Text is a document if it can be read as one. -/
def asDocument : Value → Value
  | .bool b => .int (if b then 1 else 0)
  | .text s => (Json.read s).toOption.getD (.text s)
  | v => v

/-- A value as a column of times holds it, if it can. -/
def asTime? (v : Value) : Option Time.Stamp := v.text?.bind Time.Iso.read?

/-! ## Kinds of columns -/

/-- Put what a value stands for, which must be there. Other values leave the row as it is. -/
def putRequired {α : Type} (read : Value → Except StoreFault (Option α)) (set : α → ρ → ρ)
    (v : Value) (r : ρ) : Except StoreFault ρ :=
  if v = .null then .error .integrity else (read v).map fun a => (a.map (set · r)).getD r

/-- Put what a value stands for, which may be missing. -/
def putOptional {α : Type} (read : Value → Except StoreFault (Option α)) (set : Option α → ρ → ρ)
    (v : Value) (r : ρ) : Except StoreFault ρ :=
  if v = .null then .ok (set none r)
  else (read v).map fun a => (a.map fun a => set (some a) r).getD r

/-- An integer, if it fits into the store. -/
def readInteger (v : Value) : Except StoreFault (Option Int) :=
  match asInteger? v with
  | some n => (stored n).map some
  | none => .ok none

/-- A value that is taken as it is. -/
def readTotal {α : Type} (f : Value → α) (v : Value) : Except StoreFault (Option α) :=
  .ok (some (f v))

/-- A value that is taken if it can be. -/
def readPartial {α : Type} (f : Value → Option α) (v : Value) : Except StoreFault (Option α) :=
  .ok (f v)

/-- A required text. -/
def text (name : String) (get : ρ → String) (set : String → ρ → ρ) : Column ρ :=
  ⟨name, fun r => .text (get r), putRequired (readTotal asText) set⟩

/-- A text that may be missing. -/
def optText (name : String) (get : ρ → Option String) (set : Option String → ρ → ρ) : Column ρ :=
  ⟨name, fun r => .optText (get r), putOptional (readTotal asText) set⟩

/-- A required integer. -/
def integer (name : String) (get : ρ → Int) (set : Int → ρ → ρ) : Column ρ :=
  ⟨name, fun r => .int (get r), putRequired readInteger set⟩

/-- An integer that may be missing. -/
def optInteger (name : String) (get : ρ → Option Int) (set : Option Int → ρ → ρ) : Column ρ :=
  ⟨name, fun r => Value.ofOption .int (get r), putOptional readInteger set⟩

/-- A required flag. -/
def flag (name : String) (get : ρ → Bool) (set : Bool → ρ → ρ) : Column ρ :=
  ⟨name, fun r => .bool (get r),
    putRequired (fun v => (readInteger v).map fun n => n.map (· ≠ 0)) set⟩

/-- A required document. -/
def document (name : String) (get : ρ → Value) (set : Value → ρ → ρ) : Column ρ :=
  ⟨name, get, putRequired (readTotal asDocument) set⟩

/-- A document that may be missing. -/
def optDocument (name : String) (get : ρ → Value) (set : Value → ρ → ρ) : Column ρ :=
  ⟨name, get, fun v r => .ok (set (asDocument v) r)⟩

/-- A required time. -/
def time (name : String) (get : ρ → Time.Stamp) (set : Time.Stamp → ρ → ρ) : Column ρ :=
  ⟨name, fun r => .text (get r).iso, putRequired (readPartial asTime?) set⟩

/-- A time that may be missing. -/
def optTime (name : String) (get : ρ → Option Time.Stamp) (set : Option Time.Stamp → ρ → ρ) :
    Column ρ :=
  ⟨name, fun r => Value.ofOption (fun t => .text t.iso) (get r),
    putOptional (readPartial asTime?) set⟩

/-! ## Rows -/

/-- A row with all of its columns. -/
def describe (columns : List (Column ρ)) (r : ρ) : Value :=
  .object (columns.map fun c => (c.name, c.get r))

/-- Put a value into the column of a name, if there is one. -/
def putNamed (columns : List (Column ρ)) (entry : String × Value) (r : ρ) : Except StoreFault ρ :=
  match columns.find? (·.name = entry.1) with
  | some c => c.put entry.2 r
  | none => .ok r

/-- A row with some of its columns overwritten. -/
def overwrite (columns : List (Column ρ)) (changes : Entries Value) (r : ρ) : Except StoreFault ρ :=
  changes.foldlM (fun r entry => putNamed columns entry r) r

end Column

end Automation
