import Automation.Yaml.Scalar

/-!
# Reading the text of scalars

A cursor stands in a text and knows its line and its column. The text of a scalar is read from a
cursor: plain, in quotes, or as a block of lines. Line breaks in it are folded as its style says.
-/

namespace Automation.Yaml

/-! ## Characters -/

/-- Whether a character ends a line. -/
def isBreak (c : Char) : Bool :=
  c == '\n' || c == '\r' || c == '\x85' || c == '\u2028' || c == '\u2029'

/-- Whether a character is blank or ends a line. -/
def isGap (c : Char) : Bool := c == ' ' || c == '\t' || isBreak c

/-- Whether there is a gap in front of what is left, or nothing. -/
def startsWithGap : List Char → Bool
  | [] => true
  | c :: _ => isGap c

/-- Characters that a text may hold at all. -/
def isAllowed (c : Char) : Bool :=
  c == '\t' || c == '\n' || c == '\r' || (' ' ≤ c && c ≤ '~') || c == '\x85'
    || ('\xa0' ≤ c && c ≤ '\ud7ff') || ('\ue000' ≤ c && c ≤ '\ufffd') || 0x10000 ≤ c.toNat

/-- Letters, digits, dashes and low lines. -/
def isNameChar (c : Char) : Bool := c.isAlphanum || c == '-' || c == '_'

/-! ## Cursors -/

/-- A place in a text. -/
structure Cursor where
  /-- What is left from here. -/
  rest : List Char
  index : Nat := 0
  line : Nat := 0
  column : Nat := 0

namespace Cursor

/-- The next character. -/
def peek? (c : Cursor) : Option Char := c.rest.head?

/-- Whether the next character is a given one. -/
def isAt (c : Cursor) (char : Char) : Bool := c.peek? == some char

/-- The place behind the next character. A byte order mark takes no column. -/
def next (c : Cursor) : Cursor :=
  match c.rest with
  | [] => c
  | char :: rest =>
    if char == '\r' && rest.head? == some '\n' then
      { c with rest, index := c.index + 1, column := c.column + 1 }
    else if isBreak char then { rest, index := c.index + 1, line := c.line + 1, column := 0 }
    else
      { c with rest, index := c.index + 1
               column := if char == '\ufeff' then c.column else c.column + 1 }

/-- The place some characters further on. -/
def advance (c : Cursor) : Nat → Cursor
  | 0 => c
  | n + 1 => c.next.advance n

/-- The characters in front that satisfy a condition, and the place behind them. -/
def run (c : Cursor) (p : Char → Bool) : List Char × Cursor :=
  let chars := c.rest.takeWhile p
  (chars, c.advance chars.length)

/-- The place behind the characters that satisfy a condition. -/
def skip (c : Cursor) (p : Char → Bool) : Cursor := (c.run p).2

/-- The line break that comes next and the place behind it. All but two rare ones are the same. -/
def lineBreak? (c : Cursor) : Option (Char × Cursor) :=
  match c.rest with
  | '\r' :: '\n' :: _ => some ('\n', c.advance 2)
  | char :: _ =>
    if isBreak char then
      some (if char == '\u2028' || char == '\u2029' then char else '\n', c.next)
    else none
  | [] => none

/-- Whether three dashes or three points that stand alone come next. -/
def isAtMark (c : Cursor) : Bool :=
  let mark := c.rest.take 3
  (mark == ['-', '-', '-'] || mark == ['.', '.', '.']) && startsWithGap (c.rest.drop 3)

/-- The place behind blanks and a comment, at the end of the line. -/
def endOfLine (c : Cursor) : Cursor :=
  let c := c.skip (· == ' ')
  if c.isAt '#' then c.skip (!isBreak ·) else c

/-- The place on the next line, if nothing but a comment is left on this one. -/
def nextLine (c : Cursor) : Except Fault Cursor :=
  let c := c.endOfLine
  match c.lineBreak? with
  | some (_, c) => .ok c
  | none => if c.rest.isEmpty then .ok c else .error .malformed

end Cursor

/-- What a line break comes to when lines are folded: a blank, unless empty lines follow or it is a
rare one. -/
def folded (lineBreak : Char) (breaks : List Char) : List Char :=
  (if lineBreak != '\n' then [lineBreak] else if breaks.isEmpty then [' '] else []) ++ breaks

/-! ## Plain scalars -/

/-- The characters in front that belong to a plain scalar without a gap. -/
def plainWord (inFlow : Bool) : List Char → List Char
  | [] => []
  | c :: rest =>
    let endsHere := isGap c
      || (c == ':' && match rest with
          | [] => true
          | next :: _ => isGap next || (inFlow && [',', '[', ']', '\x7b', '\x7d'].contains next))
      || (inFlow && [',', '?', '[', ']', '\x7b', '\x7d'].contains c)
    if endsHere then [] else c :: plainWord inFlow rest

/-- A gap within or behind a plain scalar. -/
structure PlainGap where
  /-- What the gap comes to if the scalar goes on; nothing if it cannot. -/
  text : List Char
  /-- Whether the gap goes over a line break. -/
  crosses : Bool
  cursor : Cursor

/-- Empty lines behind a line break, unless they end at a mark. -/
def plainBreaks (c : Cursor) : Nat → List Char → Option (List Char) × Cursor
  | 0, breaks => (some breaks, c)
  | fuel + 1, breaks =>
    if c.isAt ' ' then plainBreaks c.next fuel breaks
    else match c.lineBreak? with
      | none => (some breaks, c)
      | some (b, c) =>
        if c.isAtMark then (none, c) else plainBreaks c fuel (breaks ++ [b])

/-- The gap that comes next. -/
def plainGap (c : Cursor) : PlainGap :=
  let (blanks, c) := c.run (· == ' ')
  match c.lineBreak? with
  | none => ⟨blanks, false, c⟩
  | some (b, c) =>
    if c.isAtMark then ⟨[], true, c⟩
    else match plainBreaks c c.rest.length [] with
      | (none, c) => ⟨[], true, c⟩
      | (some breaks, c) => ⟨folded b breaks, true, c⟩

/-- A plain scalar from a gap on, with what has been read before. Gives the text, whether a line
break follows, and the place behind. -/
def plainFrom (inFlow : Bool) (indent : Int) :
    Nat → List Char → PlainGap → List Char × Bool × Cursor
  | 0, text, gap => (text, gap.crosses, gap.cursor)
  | fuel + 1, text, gap =>
    let c := gap.cursor
    let word := if c.isAt '#' then [] else plainWord inFlow c.rest
    if word.isEmpty then (text, gap.crosses, c)
    else
      let text := text ++ gap.text ++ word
      let gap := plainGap (c.advance word.length)
      if gap.text.isEmpty || gap.cursor.isAt '#' || (!inFlow && gap.cursor.column < indent) then
        (text, gap.crosses, gap.cursor)
      else plainFrom inFlow indent fuel text gap

/-- The plain scalar that starts here. Outside of flow its lines are indented. -/
def readPlain (inFlow : Bool) (indent : Int) (c : Cursor) : List Char × Bool × Cursor :=
  plainFrom inFlow indent c.rest.length [] ⟨[], false, c⟩

/-! ## Scalars in quotes -/

/-- Characters that a backslash makes of others. -/
def escapes : List (Char × Char) :=
  [('0', '\x00'), ('a', '\x07'), ('b', '\x08'), ('t', '\t'), ('\t', '\t'), ('n', '\n'),
   ('v', '\x0b'), ('f', '\x0c'), ('r', '\r'), ('e', '\x1b'), (' ', ' '), ('"', '"'), ('\\', '\\'),
   ('/', '/'), ('N', '\x85'), ('_', '\xa0'), ('L', '\u2028'), ('P', '\u2029')]

/-- The count of hexadecimal digits behind a letter. -/
def codeLength? : Char → Option Nat
  | 'x' => some 2
  | 'u' => some 4
  | 'U' => some 8
  | _ => none

/-- The number that hexadecimal digits write. -/
def hexNumber? (cs : List Char) : Option Nat :=
  if cs.all isHexDigit then some (natOfDigits 16 cs) else none

/-- The character of a code. A half of a pair stands for what cannot be shown. -/
def characterOf (code : Nat) : Except Fault Char :=
  if 0x10ffff < code then .error (.badCharacter (0x7fffffff < code))
  else if 0xd800 ≤ code && code < 0xe000 then .ok '\ufffd'
  else .ok (Char.ofNat code)

/-- The empty lines behind a line break in quotes. -/
def quotedBreaks (c : Cursor) : Nat → List Char → Except Fault (List Char × Cursor)
  | 0, breaks => .ok (breaks, c)
  | fuel + 1, breaks =>
    if c.isAtMark then .error .malformed
    else
      let c := c.skip fun char => char == ' ' || char == '\t'
      match c.lineBreak? with
      | none => .ok (breaks, c)
      | some (b, c) => quotedBreaks c fuel (breaks ++ [b])

/-- What a backslash and the characters behind it come to. -/
def readEscape (c : Cursor) : Except Fault (List Char × Cursor) :=
  match c.peek? with
  | none => .error .malformed
  | some char =>
    match escapes.find? (·.1 == char), codeLength? char, c.lineBreak? with
    | some (_, meant), _, _ => .ok ([meant], c.next)
    | none, some count, _ =>
      let digits := c.next.rest.take count
      match hexNumber? digits with
      | some code =>
        if digits.length < count then .error .malformed
        else do return ([← characterOf code], c.next.advance count)
      | none => .error .malformed
    | none, none, some (_, c) => quotedBreaks c (c.rest.length + 1) []
    | none, none, none => .error .malformed

/-- What is left of a scalar in quotes, with what has been read before. -/
def quotedFrom (quote : Char) : Nat → List Char → Cursor → Except Fault (List Char × Cursor)
  | 0, _, _ => .error .malformed
  | fuel + 1, text, c =>
    match c.rest with
    | [] => .error .malformed
    | char :: rest =>
      if char == quote then
        if quote == '\'' && rest.head? == some '\'' then
          quotedFrom quote fuel (text ++ ['\'']) (c.advance 2)
        else .ok (text, c.next)
      else if quote == '"' && char == '\\' then
        match readEscape c.next with
        | .error fault => .error fault
        | .ok (meant, c) => quotedFrom quote fuel (text ++ meant) c
      else if isGap char then
        let (blanks, c) := c.run fun char => char == ' ' || char == '\t'
        match c.lineBreak? with
        | none => quotedFrom quote fuel (text ++ blanks) c
        | some (b, c) =>
          match quotedBreaks c (c.rest.length + 1) [] with
          | .error fault => .error fault
          | .ok (breaks, c) => quotedFrom quote fuel (text ++ folded b breaks) c
      else
        let plain := c.rest.takeWhile fun char =>
          char != '\'' && char != '"' && char != '\\' && !isGap char
        let plain := if plain.isEmpty then [char] else plain
        quotedFrom quote fuel (text ++ plain) (c.advance plain.length)

/-- The scalar in quotes that starts here. -/
def readQuoted (quote : Char) (c : Cursor) : Except Fault (List Char × Cursor) :=
  quotedFrom quote c.rest.length [] c.next

/-! ## Blocks -/

/-- What becomes of the line breaks at the end of a block. -/
inductive Chomp where
  /-- One is kept. -/
  | clip
  | strip
  | keep
deriving DecidableEq, Repr

/-- How a block is read. -/
structure BlockStyle where
  folds : Bool
  chomp : Chomp
  /-- The indentation beyond that of the surroundings, if it is given. -/
  extra : Option Nat

/-- The mark of what becomes of line breaks at the end. -/
def takeChomp (c : Cursor) : Option Chomp × Cursor :=
  if c.isAt '+' then (some .keep, c.next)
  else if c.isAt '-' then (some .strip, c.next)
  else (none, c)

/-- The digit of an indentation, which is not zero. -/
def takeExtra (c : Cursor) : Except Fault (Option Nat × Cursor) :=
  match c.peek? with
  | some '0' => .error .malformed
  | some d => .ok (if d.isDigit then (some (d.toNat - '0'.toNat), c.next) else (none, c))
  | none => .ok (none, c)

/-- The marks behind the sign of a block, in either order, and the place on the next line. -/
def blockHeader (folds : Bool) (c : Cursor) : Except Fault (BlockStyle × Cursor) := do
  let (before, c) := takeChomp c
  let (extra, c) ← takeExtra c
  let (chomp, c) := if before.isNone && extra.isSome then takeChomp c else (before, c)
  match c.peek? with
  | some char => if !(char == ' ' || isBreak char) then .error .malformed
  | none => pure ()
  return (⟨folds, chomp.getD .clip, extra⟩, ← c.nextLine)

/-- The empty lines at the start of a block, and the widest indentation before the first other. -/
def blockIndent (c : Cursor) : Nat → List Char → Nat → List Char × Nat × Cursor
  | 0, breaks, widest => (breaks, widest, c)
  | fuel + 1, breaks, widest =>
    if c.isAt ' ' then blockIndent c.next fuel breaks (max widest (c.column + 1))
    else match c.lineBreak? with
      | some (b, c) => blockIndent c fuel (breaks ++ [b]) widest
      | none => (breaks, widest, c)

/-- The place behind blanks, but not beyond a column. -/
def skipIndent (indent : Nat) (c : Cursor) : Cursor :=
  c.advance ((c.rest.take (indent - c.column)).takeWhile (· == ' ')).length

/-- The empty lines within a block. -/
def blockBreaks (indent : Nat) (c : Cursor) : Nat → List Char → List Char × Cursor
  | 0, breaks => (breaks, c)
  | fuel + 1, breaks =>
    let c := skipIndent indent c
    match c.lineBreak? with
    | none => (breaks, c)
    | some (b, c) => blockBreaks indent c fuel (breaks ++ [b])

/-- Whether a cursor stands in front of a line of a block. -/
def inBlock (indent : Nat) (c : Cursor) : Bool := c.column == indent && !c.rest.isEmpty

/-- Whether there is no blank in front of what is left. -/
def startsFlush (c : Cursor) : Bool := !(c.isAt ' ' || c.isAt '\t')

/-- The lines of a block from one on, with what has been read before and the empty lines behind
that. -/
def blockFrom (style : BlockStyle) (indent : Nat) :
    Nat → List Char → List Char → Cursor → List Char × Cursor
  | 0, text, _, c => (text, c)
  | fuel + 1, text, breaks, c =>
    let flush := startsFlush c
    let (line, c) := c.run (!isBreak ·)
    let text := text ++ breaks ++ line
    let (ending, c) := match c.lineBreak? with
      | some (b, c) => ([b], c)
      | none => ([], c)
    let (breaks, c) := blockBreaks indent c (c.rest.length + 1) []
    if inBlock indent c then
      let joined :=
        if style.folds && ending == ['\n'] && flush && startsFlush c then
          if breaks.isEmpty then [' '] else []
        else ending
      blockFrom style indent fuel (text ++ joined) breaks c
    else match style.chomp with
      | .strip => (text, c)
      | .clip => (text ++ ending, c)
      | .keep => (text ++ ending ++ breaks, c)

/-- The block that starts here, in surroundings of an indentation. -/
def readBlock (folds : Bool) (indent : Int) (c : Cursor) : Except Fault (List Char × Cursor) := do
  let (style, c) ← blockHeader folds c.next
  let least := max 1 (indent + 1).toNat
  let (indent, breaks, c) := match style.extra with
    | some extra =>
      let indent := least + extra - 1
      let (breaks, c) := blockBreaks indent c (c.rest.length + 1) []
      (indent, breaks, c)
    | none =>
      let (breaks, widest, c) := blockIndent c (c.rest.length + 1) [] 0
      (max least widest, breaks, c)
  if inBlock indent c then return blockFrom style indent (c.rest.length + 1) [] breaks c
  else return (if style.chomp = .keep then breaks else [], c)

end Automation.Yaml
