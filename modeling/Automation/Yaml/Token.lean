import Automation.Yaml.Cursor

/-!
# Tokens of YAML

The tokens of a text: marks, scalars, and the starts and ends of collections that only show in the
indentation. What a scalar in front of a colon is becomes clear at the colon; the token that says so
is put in front of it then, so possible keys are kept until their line ends. Where a scan breaks off,
the tokens in front that are settled by then are still good, and a token for the fault follows them.
-/

namespace Automation.Yaml

/-- A token. -/
inductive Token where
  | directive (name : String) (arguments : List String)
  | documentStart
  | documentEnd
  | blockSequenceStart
  | blockMappingStart
  | blockEnd
  | flowSequenceStart
  | flowSequenceEnd
  | flowMappingStart
  | flowMappingEnd
  | blockEntry
  | flowEntry
  | key
  | value
  | alias (name : String)
  | anchor (name : String)
  /-- A tag: the handle of a list of names and a name in it, or a name alone. -/
  | tag (handle : Option String) (name : String)
  | scalar (plain : Bool) (text : String)
  /-- The end of a scan that is broken off. -/
  | broken (fault : Fault)
deriving DecidableEq, Repr

/-! ## Names, tags and directives -/

/-- The name of an anchor or of an alias, which something must follow that ends it. -/
def readAnchorName (c : Cursor) : Except Fault (String × Cursor) :=
  let (name, c) := c.next.run isNameChar
  let ended := startsWithGap c.rest || match c.peek? with
    | some char => ['?', ':', ',', ']', '\x7d', '%', '@', '\x60'].contains char
    | none => true
  if name.isEmpty || !ended then .error .malformed else .ok (String.ofList name, c)

/-- Characters of the names of tags. -/
def isUriChar (c : Char) : Bool :=
  c.isAlphanum || "-;/?:@&=+$,_.!~*'()[]".toList.contains c

/-- The bytes of a run of escapes. -/
def escapedBytes (c : Cursor) : Nat → Except Fault (List UInt8 × Cursor)
  | 0 => .ok ([], c)
  | fuel + 1 =>
    if c.isAt '%' then
      let digits := c.next.rest.take 2
      match hexNumber? digits with
      | some n =>
        if digits.length < 2 then .error .malformed
        else (escapedBytes (c.advance 3) fuel).map fun (bytes, c) => (n.toUInt8 :: bytes, c)
      | none => .error .malformed
    else .ok ([], c)

/-- The name of a tag, with escapes for the bytes of characters. -/
def uriFrom : Nat → List Char → Cursor → Except Fault (List Char × Cursor)
  | 0, name, c => .ok (name, c)
  | fuel + 1, name, c =>
    if c.isAt '%' then
      match escapedBytes c c.rest.length with
      | .error fault => .error fault
      | .ok (bytes, c) =>
        match String.fromUTF8? ⟨bytes.toArray⟩ with
        | some s => uriFrom fuel (name ++ s.toList) c
        | none => .error .malformed
    else
      let (part, c) := c.run isUriChar
      if part.isEmpty then .ok (name, c) else uriFrom fuel (name ++ part) c

/-- The name of a tag that starts here, which must not be empty. -/
def readUri (c : Cursor) : Except Fault (String × Cursor) := do
  let before := c.index
  let (name, c) ← uriFrom c.rest.length [] c
  if c.index = before then .error .malformed else return (String.ofList name, c)

/-- Whether a blank, a line break or the end comes next. -/
def isAtEnd (c : Cursor) : Bool := !c.isAt '\t' && startsWithGap c.rest

/-- The handle of a list of names, between two exclamation marks or a single one. -/
def readHandle (c : Cursor) : Except Fault (String × Cursor) :=
  if !c.isAt '!' then .error .malformed
  else
    let start := c.next
    if start.isAt ' ' then .ok ("!", start)
    else
      let (name, c) := start.run isNameChar
      if c.isAt '!' then .ok ("!" ++ String.ofList name ++ "!", c.next) else .error .malformed

/-- The tag that starts here. -/
def readTag (c : Cursor) : Except Fault (Token × Cursor) := do
  let behind := c.next
  let (token, c) ←
    if behind.isAt '<' then do
      let (name, c) ← readUri behind.next
      if c.isAt '>' then pure (Token.tag none name, c.next) else .error .malformed
    else if startsWithGap behind.rest then pure (Token.tag none "!", behind)
    else do
      let word := behind.rest.takeWhile fun char => !(char == ' ' || isBreak char)
      let (handle, c) ← if word.contains '!' then readHandle c else pure ("!", behind)
      let (name, c) ← readUri c
      pure (Token.tag (some handle) name, c)
  if isAtEnd c then return (token, c) else .error .malformed

/-- A number of a version. -/
def readVersionPart (c : Cursor) : Except Fault (String × Cursor) :=
  let (digits, c) := c.run Char.isDigit
  if digits.isEmpty then .error .malformed
  else if Number.digitLimit < digits.length then .error (.longInteger digits.length)
  else .ok (String.ofList digits, c)

/-- The directive that starts here, up to the next line. -/
def readDirective (c : Cursor) : Except Fault (Token × Cursor) := do
  let (name, c) := c.next.run isNameChar
  if name.isEmpty || !isAtEnd c then .error .malformed
  let blank (char : Char) : Bool := char == ' '
  let (arguments, c) ← match String.ofList name with
    | "YAML" => do
      let (major, c) ← readVersionPart (c.skip blank)
      if !c.isAt '.' then .error .malformed
      let (minor, c) ← readVersionPart c.next
      if isAtEnd c then pure ([major, minor], c) else .error .malformed
    | "TAG" => do
      let (handle, c) ← readHandle (c.skip blank)
      if !c.isAt ' ' then .error .malformed
      let (names, c) ← readUri (c.skip blank)
      if isAtEnd c then pure ([handle, names], c) else .error .malformed
    | _ => pure ([], c.skip (!isBreak ·))
  return (.directive (String.ofList name) arguments, ← c.nextLine)

/-! ## The state of a scan -/

/-- A token that will be a key if a colon follows in time. -/
structure PossibleKey where
  /-- The count of tokens in front of it. -/
  position : Nat
  /-- Whether it can be nothing else. -/
  required : Bool
  index : Nat
  line : Nat
  column : Nat

/-- Where a scan stands. -/
structure Scan where
  cursor : Cursor
  /-- The tokens so far, the last first. -/
  tokens : List Token := []
  /-- The indentation of the innermost block, and those around it. -/
  indent : Int := -1
  outer : List Int := []
  /-- The count of flow collections around. -/
  flowLevel : Nat := 0
  /-- Whether a key may start here. -/
  keyAllowed : Bool := true
  /-- The possible key of each level. -/
  keys : List (Nat × PossibleKey) := []

namespace Scan

/-- Whether flow collections are around. -/
def inFlow (s : Scan) : Bool := s.flowLevel != 0

/-- Add a token. -/
def emit (s : Scan) (token : Token) : Scan := { s with tokens := token :: s.tokens }

/-- Put a token behind a count of others. -/
def insert (s : Scan) (position : Nat) (token : Token) : Scan :=
  { s with tokens := s.tokens.insertIdx (s.tokens.length - position) token }

/-- Forget a possible key, unless it has to be one. -/
def dropKeys (s : Scan) (drops : Nat → PossibleKey → Bool) : Except Fault Scan :=
  if s.keys.any fun (level, k) => drops level k && k.required then .error .malformed
  else .ok { s with keys := s.keys.filter fun (level, k) => !drops level k }

/-- Whether a possible key is on another line or too far back. -/
def isStale (s : Scan) (k : PossibleKey) : Bool :=
  k.line != s.cursor.line || k.index + 1024 < s.cursor.index

/-- Forget the possible keys that are out of reach. -/
def dropStale (s : Scan) : Except Fault Scan := s.dropKeys fun _ k => s.isStale k

/-- The tokens in front of the first that may still be a key. -/
def settled (s : Scan) : List Token :=
  let pending := s.keys.filter fun (_, k) => !s.isStale k
  s.tokens.reverse.take ((pending.map fun (_, k) => k.position).foldl min s.tokens.length)

/-- Forget the possible key of this level. -/
def dropKey (s : Scan) : Except Fault Scan := s.dropKeys fun level _ => level = s.flowLevel

/-- Note that the next token is a possible key. -/
def saveKey (s : Scan) : Except Fault Scan :=
  if s.keyAllowed then do
    let required := !s.inFlow && s.indent = s.cursor.column
    let s ← s.dropKey
    let k : PossibleKey :=
      ⟨s.tokens.length, required, s.cursor.index, s.cursor.line, s.cursor.column⟩
    return { s with keys := (s.flowLevel, k) :: s.keys }
  else .ok s

/-- End the blocks that are indented deeper than a column. -/
def unwindTo (column : Int) : List Int → Scan → Scan
  | [], s => s
  | around :: outer, s =>
    if column < s.indent then
      unwindTo column outer { s.emit .blockEnd with indent := around, outer }
    else s

/-- End the blocks that are indented deeper than a column. Within flow there are none. -/
def unwind (s : Scan) (column : Int) : Scan :=
  if s.inFlow then s else unwindTo column s.outer s

/-- Start a block at a column, if it is deeper than the current one, with a token put behind a count
of others. -/
def openBlock (s : Scan) (column : Nat) (position : Nat) (token : Token) : Scan :=
  if s.indent < column then
    { s.insert position token with indent := column, outer := s.indent :: s.outer }
  else s

/-! ## Steps -/

/-- Go to the next token. On a new line a key may start. -/
def toNextToken (s : Scan) : Nat → Scan
  | 0 => s
  | fuel + 1 =>
    let c := s.cursor.endOfLine
    match c.lineBreak? with
    | some (_, c) =>
      toNextToken { s with cursor := c, keyAllowed := s.keyAllowed || !s.inFlow } fuel
    | none => { s with cursor := c }

/-- A token of some characters. -/
def mark (s : Scan) (token : Token) (count : Nat) : Scan :=
  { s.emit token with cursor := s.cursor.advance count }

/-- A mark at the start or at the end of a document. -/
def documentMark (s : Scan) (token : Token) : Except Fault Scan := do
  let s ← (s.unwind (-1)).dropKey
  return { s with keyAllowed := false }.mark token 3

/-- A directive. -/
def directive (s : Scan) : Except Fault Scan := do
  let s ← (s.unwind (-1)).dropKey
  let (token, cursor) ← readDirective s.cursor
  return { s.emit token with cursor, keyAllowed := false }

/-- The start of a flow collection. -/
def flowStart (s : Scan) (token : Token) : Except Fault Scan := do
  let s ← s.saveKey
  return { s with flowLevel := s.flowLevel + 1, keyAllowed := true }.mark token 1

/-- The end of a flow collection. -/
def flowEnd (s : Scan) (token : Token) : Except Fault Scan := do
  let s ← s.dropKey
  if s.inFlow then return { s with flowLevel := s.flowLevel - 1, keyAllowed := false }.mark token 1
  else .error .malformed

/-- A comma. -/
def flowEntry (s : Scan) : Except Fault Scan := do
  let s ← { s with keyAllowed := true }.dropKey
  return s.mark .flowEntry 1

/-- A dash in front of an item. -/
def blockEntry (s : Scan) : Except Fault Scan := do
  if !s.inFlow && !s.keyAllowed then .error .malformed
  let s := if s.inFlow then s
    else s.openBlock s.cursor.column s.tokens.length .blockSequenceStart
  let s ← { s with keyAllowed := true }.dropKey
  return s.mark .blockEntry 1

/-- A question mark in front of a key. -/
def explicitKey (s : Scan) : Except Fault Scan := do
  if !s.inFlow && !s.keyAllowed then .error .malformed
  let s := if s.inFlow then s
    else s.openBlock s.cursor.column s.tokens.length .blockMappingStart
  let s ← { s with keyAllowed := !s.inFlow }.dropKey
  return s.mark .key 1

/-- A colon behind a key. -/
def value (s : Scan) : Except Fault Scan :=
  match s.keys.find? fun (level, _) => level = s.flowLevel with
  | some (_, k) =>
    let s := { s with keys := s.keys.filter fun (level, _) => level != s.flowLevel }
    let s := s.insert k.position .key
    let s := if s.inFlow then s else s.openBlock k.column k.position .blockMappingStart
    .ok ({ s with keyAllowed := false }.mark .value 1)
  | none => do
    if !s.inFlow && !s.keyAllowed then .error .malformed
    let s := if s.inFlow then s
      else s.openBlock s.cursor.column s.tokens.length .blockMappingStart
    let s ← { s with keyAllowed := !s.inFlow }.dropKey
    return s.mark .value 1

/-- A token that may be part of a key and is read from its first character. -/
def node (s : Scan) (read : Cursor → Except Fault (Token × Cursor)) : Except Fault Scan := do
  let s ← s.saveKey
  let (token, cursor) ← read s.cursor
  return { s.emit token with cursor, keyAllowed := false }

/-- A scalar in quotes. -/
def quoted (s : Scan) (quote : Char) : Except Fault Scan :=
  s.node fun c => (readQuoted quote c).map fun (text, c) => (.scalar false (String.ofList text), c)

/-- A plain scalar. A key may start behind it if a line break follows. -/
def plain (s : Scan) : Except Fault Scan := do
  let s ← s.saveKey
  let (text, crosses, cursor) := readPlain s.inFlow (s.indent + 1) s.cursor
  return { s.emit (.scalar true (String.ofList text)) with cursor, keyAllowed := crosses }

/-- A block of lines. -/
def block (s : Scan) (folds : Bool) : Except Fault Scan := do
  let s ← { s with keyAllowed := true }.dropKey
  let (text, cursor) ← readBlock folds s.indent s.cursor
  return { s.emit (.scalar false (String.ofList text)) with cursor }

/-- Whether a plain scalar can start here. -/
def startsPlain (s : Scan) : Bool :=
  match s.cursor.rest with
  | [] => false
  | c :: rest =>
    let indicators := "-?:,[]\x7b\x7d#&*!|>'\"%@\x60".toList
    (!isGap c && !indicators.contains c)
      || (!startsWithGap rest && (c == '-' || (!s.inFlow && (c == '?' || c == ':'))))

/-- The next token, at a character. -/
def step (s : Scan) (char : Char) : Except Fault Scan :=
  let c := s.cursor
  let atStart := c.column = 0
  let loose := startsWithGap (c.rest.drop 1)
  if char == '%' && atStart then s.directive
  else if char == '-' && atStart && c.isAtMark then s.documentMark .documentStart
  else if char == '.' && atStart && c.isAtMark then s.documentMark .documentEnd
  else if char == '[' then s.flowStart .flowSequenceStart
  else if char == '\x7b' then s.flowStart .flowMappingStart
  else if char == ']' then s.flowEnd .flowSequenceEnd
  else if char == '\x7d' then s.flowEnd .flowMappingEnd
  else if char == ',' then s.flowEntry
  else if char == '-' && loose then s.blockEntry
  else if char == '?' && (s.inFlow || loose) then s.explicitKey
  else if char == ':' && (s.inFlow || loose) then s.value
  else if char == '*' then s.node fun c => (readAnchorName c).map fun (name, c) => (.alias name, c)
  else if char == '&' then s.node fun c => (readAnchorName c).map fun (name, c) => (.anchor name, c)
  else if char == '!' then s.node readTag
  else if char == '|' && !s.inFlow then s.block false
  else if char == '>' && !s.inFlow then s.block true
  else if char == '\'' || char == '"' then s.quoted char
  else if s.startsPlain then s.plain
  else .error .malformed

/-- The end of a scan, or the next token behind the blocks that end in front of it. Gives nothing to
scan any more, or where to go on. -/
def fetch (s : Scan) : Except Fault (List Token ⊕ Scan) := do
  let s ← (s.toNextToken (s.cursor.rest.length + 1)).dropStale
  let s := s.unwind s.cursor.column
  match s.cursor.rest with
  | [] => return .inl (← (s.unwind (-1)).dropKey).tokens.reverse
  | char :: _ => return .inr (← s.step char)

/-- All tokens from here on. -/
def all (s : Scan) : Nat → List Token
  | 0 => [.broken .malformed]
  | fuel + 1 =>
    match s.fetch with
    | .ok (.inl tokens) => tokens
    | .ok (.inr s) => s.all fuel
    | .error fault => s.settled ++ [.broken fault]

end Scan

/-- The tokens of a text. -/
def tokens (text : String) : List Token :=
  let chars := text.toList
  if chars.all isAllowed then
    let start : Cursor := { rest := chars }
    let start := if start.isAt '\ufeff' then start.next else start
    ({ cursor := start } : Scan).all (chars.length + 1)
  else [.broken .malformed]

end Automation.Yaml
