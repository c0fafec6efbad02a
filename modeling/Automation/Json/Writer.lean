import Automation.Value.Basic
import Automation.Number.Text
import Automation.Value.Display

/-!
# JSON text of a value

Text in ASCII: every other character is written as an escape, outside the basic plane as a pair.
Fields are written in their order.
-/

namespace Automation.Json

/-- A code unit as an escape. -/
def escapeUnit (n : Nat) : List Char := ['\\', 'u'] ++ Value.hex 4 n

/-- One character inside quotes. -/
def escapeChar (c : Char) : List Char :=
  if c == '"' || c == '\\' then ['\\', c]
  else if c == '\n' then ['\\', 'n']
  else if c == '\r' then ['\\', 'r']
  else if c == '\t' then ['\\', 't']
  else if c == '\x08' then ['\\', 'b']
  else if c == '\x0c' then ['\\', 'f']
  else
    let n := c.toNat
    if 32 ≤ n && n < 127 then [c]
    else if n < 65536 then escapeUnit n
    else
      let high := (n - 65536) / 1024 + 0xD800
      let low := (n - 65536) % 1024 + 0xDC00
      escapeUnit high ++ escapeUnit low

/-- A text in quotes. -/
def quoted (s : String) : String := String.ofList ('"' :: s.toList.flatMap escapeChar ++ ['"'])

mutual

/-- A value on one line, with a blank after each comma and colon. -/
def write : Value → String
  | .null => "null"
  | .bool true => "true"
  | .bool false => "false"
  | .int n => Number.writeInt n
  | .float x => Number.jsonStyle.write x
  | .text s => quoted s
  | .list items => "[" ++ Text.join ", " (writeList items) ++ "]"
  | .object fields => "\x7b" ++ Text.join ", " (writeFields fields) ++ "\x7d"

/-- The written elements of a list. -/
def writeList : List Value → List String
  | [] => []
  | item :: items => write item :: writeList items

/-- The written fields of an object. -/
def writeFields : List (String × Value) → List String
  | [] => []
  | (name, value) :: rest => (quoted name ++ ": " ++ write value) :: writeFields rest

end

/-- A line break and the blanks in front of a line at a depth, two for each level. -/
def newline (depth : Nat) : String := "\n" ++ String.ofList (List.replicate (2 * depth) ' ')

/-- The lines of a list or an object between its brackets; nothing between them if it is empty. -/
def bracketed (opening closing : String) (depth : Nat) (parts : List String) : String :=
  if parts.isEmpty then opening ++ closing
  else
    let separator := "," ++ newline (depth + 1)
    opening ++ newline (depth + 1) ++ Text.join separator parts ++ newline depth ++ closing

mutual

/-- A value with one item or field on each line. -/
def writeIndented (depth : Nat) : Value → String
  | .list items => bracketed "[" "]" depth (indentedList (depth + 1) items)
  | .object fields => bracketed "\x7b" "\x7d" depth (indentedFields (depth + 1) fields)
  | v => write v

/-- The indented elements of a list. -/
def indentedList (depth : Nat) : List Value → List String
  | [] => []
  | item :: items => writeIndented depth item :: indentedList depth items

/-- The indented fields of an object. -/
def indentedFields (depth : Nat) : List (String × Value) → List String
  | [] => []
  | (name, value) :: rest =>
    (quoted name ++ ": " ++ writeIndented depth value) :: indentedFields depth rest

end

/-- A value over several lines. -/
def pretty (v : Value) : String := writeIndented 0 v

end Automation.Json
