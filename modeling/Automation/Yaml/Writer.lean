import Automation.Yaml.Cursor

/-!
# Writing YAML

Values are written as blocks, one entry or item a line, with lists not indented below the key that
they belong to. A text is plain where it reads back as itself, else in quotes, and long ones are
folded at their blanks. What is not ASCII is escaped.
-/

namespace Automation.Yaml

/-! ## The pen -/

/-- What has been written, and where that ends. -/
structure Pen where
  /-- The text so far, the last part first. -/
  parts : List String := []
  column : Nat := 0
  /-- Whether a blank or a line break was written last. -/
  spaced : Bool := true
  /-- Whether nothing but indentation and marks stands on the line. -/
  fresh : Bool := true

namespace Pen

/-- The text so far. -/
def text (p : Pen) : String := String.join p.parts.reverse

/-- Write a text on the line. -/
def write (p : Pen) (s : String) : Pen :=
  { p with parts := s :: p.parts, column := p.column + s.length }

/-- Start a new line. -/
def newLine (p : Pen) : Pen := ⟨"\n" :: p.parts, 0, true, true⟩

/-- Go to an indentation, on a new line if this one is used. -/
def indentTo (p : Pen) (indent : Nat) : Pen :=
  let p := if !p.fresh || indent < p.column || (p.column == indent && !p.spaced) then p.newLine
    else p
  if p.column < indent then
    { p.write (String.ofList (List.replicate (indent - p.column) ' ')) with spaced := true }
  else p

/-- Write a mark, behind a blank if it needs one. Some marks leave the line fresh. -/
def mark (p : Pen) (s : String) (needsBlank keepsFresh : Bool) : Pen :=
  let p := p.write (if p.spaced || !needsBlank then s else " " ++ s)
  { p with spaced := false, fresh := p.fresh && keepsFresh }

end Pen

/-! ## How a text can be written -/

/-- What has been seen of a text. -/
structure Sight where
  /-- Something that means something else outside of quotes. -/
  marks : Bool := false
  breaks : Bool := false
  /-- Something that must be escaped. -/
  special : Bool := false
  /-- A blank behind a line break. -/
  breakBlank : Bool := false
  /-- A line break behind a blank. -/
  blankBreak : Bool := false

/-- Whether a character can be written as it is. -/
def isWritable (c : Char) : Bool := c == '\n' || (' ' ≤ c && c ≤ '~')

/-- Whether a character means something else in front of a plain text. -/
def isLeadingMark (c : Char) : Bool := "#,[]\x7b\x7d&*!|>'\"%@\x60".toList.contains c

/-- Look at the characters of a text, with the one before them. -/
def look (before : Option Char) (seen : Sight) : List Char → Sight
  | [] => seen
  | c :: rest =>
    let loose := startsWithGap rest
    let marks := match before with
      | none => isLeadingMark c || ((c == '?' || c == ':' || c == '-') && loose)
      | some b => (c == ':' && loose) || (c == '#' && isGap b)
    let isEnd := c == '\n' || c == '\x85' || c == '\u2028' || c == '\u2029'
    let wasEnd := match before with
      | some b => b == '\n' || b == '\x85' || b == '\u2028' || b == '\u2029'
      | none => false
    look (some c)
      { marks := seen.marks || marks
        breaks := seen.breaks || isEnd
        special := seen.special || !isWritable c
        breakBlank := seen.breakBlank || (c == ' ' && wasEnd)
        blankBreak := seen.blankBreak || (isEnd && before == some ' ') }
      rest

/-- Whether a text begins or ends with a blank or a line break. -/
def hasLooseEnd (cs : List Char) : Bool :=
  let loose (c : Char) : Bool := c == ' ' || c == '\n'
  cs.head?.any loose || cs.getLast?.any loose

/-- The way in which a text is written. -/
inductive TextStyle where
  | plain
  | single
  | double
deriving DecidableEq, Repr

/-- The best way to write a text; keys in front of a colon stay on their line. -/
def TextStyle.of (isKey : Bool) (s : String) : TextStyle :=
  let cs := s.toList
  let seen := look none { marks := s.startsWith "---" || s.startsWith "..." } cs
  if Tag.ofPlain s = .text && !seen.marks && !seen.breaks && !seen.special && !hasLooseEnd cs then
    .plain
  else if seen.special || seen.breakBlank || seen.blankBreak || (isKey && seen.breaks) then .double
  else .single

/-! ## Writing texts -/

/-- The column behind which texts are folded. -/
def bestWidth : Nat := 80

/-- A plain text, piece by piece: a piece is a run of blanks or a run of others. A single blank
behind the best width becomes a line break. -/
def writePlain (indent : Nat) (folds : Bool) : List (List Char) → Pen → Pen
  | [], p => p
  | piece :: rest, p =>
    if piece == [' '] && folds && bestWidth < p.column then
      writePlain indent folds rest { p.indentTo indent with spaced := false, fresh := false }
    else writePlain indent folds rest (p.write (String.ofList piece))

/-- The kind of a character within a text in single quotes. -/
def pieceKind (c : Char) : Nat := if c == ' ' then 0 else if c == '\n' then 1 else 2

/-- The text cut where the kind of characters changes. -/
def pieces (cs : List Char) : List (List Char) := cs.splitBy fun a b => pieceKind a == pieceKind b

/-- A text in single quotes, piece by piece. A line break is written as one more than there are, and
a quote twice. -/
def writeSingle (indent : Nat) (folds isFirst : Bool) : List (List Char) → Pen → Pen
  | [], p => p
  | piece :: rest, p =>
    let p :=
      if piece.head? == some '\n' then
        ((piece.foldl (fun p _ => p.newLine) p.newLine)).indentTo indent
      else if piece == [' '] && folds && bestWidth < p.column && !isFirst && !rest.isEmpty then
        p.indentTo indent
      else p.write (String.ofList (piece.flatMap fun c => if c == '\'' then ['\'', '\''] else [c]))
    writeSingle indent folds false rest p

/-- The letters behind a backslash. -/
def escapeLetters : List (Char × Char) :=
  [('\x00', '0'), ('\x07', 'a'), ('\x08', 'b'), ('\t', 't'), ('\n', 'n'), ('\x0b', 'v'),
   ('\x0c', 'f'), ('\r', 'r'), ('\x1b', 'e'), ('"', '"'), ('\\', '\\'), ('\x85', 'N'),
   ('\xa0', '_'), ('\u2028', 'L'), ('\u2029', 'P')]

/-- A number in capital hexadecimal digits. -/
def capitalHex (width n : Nat) : String := (String.ofList (Value.hex width n)).toUpper

/-- The escape of a character, if it needs one. -/
def escape? (c : Char) : Option String :=
  match escapeLetters.find? (·.1 == c) with
  | some (_, letter) => some (String.ofList ['\\', letter])
  | none =>
    if ' ' ≤ c && c ≤ '~' then none
    else if c ≤ '\xff' then some ("\\x" ++ capitalHex 2 c.toNat)
    else if c.toNat ≤ 0xffff then some ("\\u" ++ capitalHex 4 c.toNat)
    else some ("\\U" ++ capitalHex 8 c.toNat)

/-- A text in double quotes from a character on. Characters that need no escape are held back until
one does, or until the line is long enough to be folded at a blank or around an escape. -/
def writeDouble (indent : Nat) (folds : Bool) :
    (isFirst : Bool) → (held : List Char) → List Char → Pen → Pen
  | _, held, [], p => p.write (String.ofList held)
  | isFirst, held, c :: rest, p =>
    let escape := escape? c
    let (p, held, next) := match escape with
      | some escape => ((p.write (String.ofList held)).write escape, [], [])
      | none => (p, held, [c])
    let full :=
      if escape.isSome then bestWidth + 1 < p.column else bestWidth < p.column + held.length
    if folds && full && (c == ' ' || held.isEmpty) && !isFirst && !rest.isEmpty then
      let p := (p.write (String.ofList held ++ "\\")).indentTo indent
      let p := { p with spaced := false, fresh := false }
      let p := if (next ++ rest).head? == some ' ' then p.write "\\" else p
      writeDouble indent folds false next rest p
    else writeDouble indent folds false (held ++ next) rest p

/-- Write a text. Further lines are indented; keys have none. -/
def writeText (indent : Nat) (isKey : Bool) (s : String) (p : Pen) : Pen :=
  let folds := !isKey
  match TextStyle.of isKey s with
  | .plain =>
    let p := if p.spaced then p else p.write " "
    writePlain indent folds (pieces s.toList) { p with spaced := false, fresh := false }
  | .single =>
    (writeSingle indent folds true (pieces s.toList) (p.mark "'" true false)).mark "'" false false
  | .double =>
    (writeDouble indent folds true [] s.toList (p.mark "\"" true false)).mark "\"" false false

/-- A float, which has a point also in front of an exponent. -/
def writeFloat (x : Float) : String :=
  let style : Number.FloatStyle := { Number.displayStyle with nan := ".nan", infinity := ".inf" }
  let s := style.write x
  if s.contains '.' || !s.contains 'e' then s
  else
    let mantissa := s.toList.takeWhile (· != 'e')
    String.ofList mantissa ++ ".0" ++ String.ofList (s.toList.drop mantissa.length)

/-! ## Writing values -/

/-- Whether a key can stand in front of a colon on one line. -/
def isSimpleKey (s : String) : Bool :=
  !s.isEmpty && s.length < 123 && !(look none {} s.toList).breaks

/-- A word that needs no quotes. -/
def writeWord (s : String) (p : Pen) : Pen :=
  { (if p.spaced then p else p.write " ").write s with spaced := false, fresh := false }

/-- Write a key and its colon. A key that is not simple stands behind a mark of its own. -/
def writeKey (indent : Nat) (key : String) (p : Pen) : Pen :=
  let p := p.indentTo indent
  if isSimpleKey key then (writeText (indent + 2) true key p).mark ":" false false
  else
    ((writeText (indent + 2) false key (p.mark "?" true true)).indentTo indent).mark ":" true true

/-- The indentation of a list: that around it if it stands under a key on the same line. -/
def listIndent (indent : Option Nat) (underKey : Bool) (p : Pen) : Nat :=
  match indent with
  | none => 0
  | some n => if underKey && !p.fresh then n else n + 2

/-- The indentation of what stands below another one. -/
def innerIndent (indent : Option Nat) : Nat := (indent.map (· + 2)).getD 0

mutual

/-- Write a value below an indentation; the outermost has none. -/
def writeValue (indent : Option Nat) (underKey : Bool) : Value → Pen → Pen
  | .null, p => writeWord "null" p
  | .bool b, p => writeWord (if b then "true" else "false") p
  | .int n, p => writeWord (toString n) p
  | .float x, p => writeWord (writeFloat x) p
  | .text s, p => writeText (max 2 (innerIndent indent)) false s p
  | .list items, p =>
    if items.isEmpty then (p.mark "[" true false).write "]"
    else writeItems (listIndent indent underKey p) items p
  | .object fields, p =>
    if fields.isEmpty then (p.mark "\x7b" true false).write "\x7d"
    else writeFields (innerIndent indent) fields p

/-- The items of a list, each behind a dash. -/
def writeItems (indent : Nat) : List Value → Pen → Pen
  | [], p => p
  | item :: items, p =>
    writeItems indent items
      (writeValue (some indent) false item ((p.indentTo indent).mark "-" true true))

/-- The entries of an object. -/
def writeFields (indent : Nat) : List (String × Value) → Pen → Pen
  | [], p => p
  | (key, value) :: fields, p =>
    writeFields indent fields (writeValue (some indent) true value (writeKey indent key p))

end

/-- A value as a document. -/
def write (v : Value) : String := ((writeValue none false v {}).indentTo 0).text

end Automation.Yaml
