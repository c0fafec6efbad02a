import Automation.Context
import Automation.Json.Writer

/-!
# Templates

Text with placeholders: a dotted path between double braces. Resolving a template is one pass that
cuts it at its leftmost placeholders and replaces those that the context knows. What comes out of a
replacement is not looked at again.
-/

namespace Automation.Template

/-- A part of a template: a character of its own, or a placeholder with the text it was read
from. -/
inductive Piece where
  | char (c : Char)
  | placeholder (path : String) (verbatim : List Char)
deriving DecidableEq, Repr

/-! ## Paths and placeholders -/

/-- The first character of a path. -/
def isPathStart (c : Char) : Bool := c == '_' || Text.isLatinLetter c

/-- A further character of a name in a path. -/
def isNameChar (c : Char) : Bool := c == '-' || Text.isWord c

/-- The names behind the first one of a path, each with the dot in front. -/
def takeNames : Nat → List Char → List Char × List Char
  | 0, cs => ([], cs)
  | fuel + 1, cs =>
    match cs with
    | '.' :: rest =>
      let name := rest.takeWhile isNameChar
      if name.isEmpty then ([], cs)
      else
        let (names, rest) := takeNames fuel (rest.dropWhile isNameChar)
        ('.' :: name ++ names, rest)
    | _ => ([], cs)

/-- A path in front of a text. -/
def takePath? : List Char → Option (List Char × List Char)
  | [] => none
  | c :: rest =>
    if isPathStart c then
      let name := c :: rest.takeWhile isNameChar
      let (names, rest) := takeNames rest.length (rest.dropWhile isNameChar)
      some (name ++ names, rest)
    else none

/-- The placeholder in front of a text: its path and the rest. -/
def takePlaceholder? : List Char → Option (String × List Char)
  | '\x7b' :: '\x7b' :: rest => do
    let (path, rest) ← takePath? (rest.dropWhile Text.isSpace)
    match rest.dropWhile Text.isSpace with
    | '\x7d' :: '\x7d' :: rest => some (String.ofList path, rest)
    | _ => none
  | _ => none

/-- Cut a text, after skipping some characters, at its leftmost placeholders. -/
def cutFrom : Nat → List Char → List Piece
  | _, [] => []
  | skip + 1, _ :: rest => cutFrom skip rest
  | 0, c :: rest =>
    match takePlaceholder? (c :: rest) with
    | some (path, after) =>
      let length := (c :: rest).length - after.length
      .placeholder path ((c :: rest).take length) :: cutFrom (length - 1) rest
    | none => .char c :: cutFrom 0 rest

/-- The pieces of a template. -/
def cut (template : String) : List Piece := cutFrom 0 template.toList

/-- Whether every opening pair of braces is closed before the next one opens. -/
def balancedFrom (isOpen : Bool) : List Char → Bool
  | '\x7b' :: '\x7b' :: rest => !isOpen && balancedFrom true rest
  | '\x7d' :: '\x7d' :: rest => isOpen && balancedFrom false rest
  | _ :: rest => balancedFrom isOpen rest
  | [] => !isOpen

/-- Whether the braces of a template are balanced. -/
def isBalanced (template : String) : Bool := balancedFrom false template.toList

/-! ## The text of a value -/

mutual

/-- A value as it is put into a template. -/
def format : Value → String
  | .null => ""
  | .bool b => if b then "true" else "false"
  | .list items => Text.join ", " (formatList items)
  | .object fields => Json.write (.object fields)
  | v => v.display

/-- The formatted elements of a list. -/
def formatList : List Value → List String
  | [] => []
  | item :: items => format item :: formatList items

end

/-! ## Resolving -/

/-- The text of a piece in a context. A placeholder that the context does not know stays. -/
def resolvePiece (c : Context) : Piece → Except LookupFault (List Char)
  | .char ch => .ok [ch]
  | .placeholder path verbatim =>
    match c.lookup path with
    | .error fault => .error fault
    | .ok none => .ok verbatim
    -- A path may lead to null, which is known: nothing is put in its place.
    | .ok (some v) => .ok (format v).toList

/-- The text of pieces in a context. -/
def resolvePieces (c : Context) : List Piece → Except LookupFault (List Char)
  | [] => .ok []
  | piece :: pieces => do
    let front ← resolvePiece c piece
    let rest ← resolvePieces c pieces
    return front ++ rest

/-- A template in a context. One whose braces are not balanced stays as it is. -/
def resolve (template : String) (c : Context) : Except LookupFault String :=
  if isBalanced template then (resolvePieces c (cut template)).map String.ofList
  else .ok template

mutual

/-- Resolve every text inside a value. Names of fields are no templates. -/
def resolveValue (c : Context) : Value → Except LookupFault Value
  | .text s => (resolve s c).map .text
  | .list items => (resolveList c items).map .list
  | .object fields => (resolveFields c fields).map .object
  | v => .ok v

/-- Resolve every element of a list. -/
def resolveList (c : Context) : List Value → Except LookupFault (List Value)
  | [] => .ok []
  | item :: items => do
    let item ← resolveValue c item
    let items ← resolveList c items
    return item :: items

/-- Resolve every field of an object. -/
def resolveFields (c : Context) : List (String × Value) → Except LookupFault (List (String × Value))
  | [] => .ok []
  | (name, value) :: rest => do
    let value ← resolveValue c value
    let rest ← resolveFields c rest
    return (name, value) :: rest

end

/-! ## Placeholders left over -/

/-- The paths of the placeholders in a text. -/
def placeholders (text : String) : List String :=
  (cut text).filterMap fun
    | .placeholder path _ => some path
    | .char _ => none

/-- The path in a text that is one placeholder, or else the text itself; white space around it
does not count. -/
def stripPlaceholder (text : String) : String :=
  let stripped := Text.strip text
  match takePlaceholder? stripped.toList with
  | some (path, []) => path
  | _ => stripped

end Automation.Template
