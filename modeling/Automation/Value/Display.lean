import Automation.Value.Basic
import Automation.Number.Text

/-!
# The shown form of a value

The text in which a value is compared with another and in which messages show it. A text shows
itself; inside a list or an object it stands in quotes.
-/

namespace Automation.Value

/-- The hexadecimal digits of a number, up to a width. -/
def hex (width n : Nat) : List Char :=
  let digits := Nat.toDigits 16 n
  List.replicate (width - digits.length) '0' ++ digits

/-- One character inside quotes. -/
def showChar (quote c : Char) : List Char :=
  if c == quote || c == '\\' then ['\\', c]
  else if c == '\n' then ['\\', 'n']
  else if c == '\r' then ['\\', 'r']
  else if c == '\t' then ['\\', 't']
  else if Text.isPrintable c then [c]
  else if c.toNat < 256 then ['\\', 'x'] ++ hex 2 c.toNat
  else if c.toNat < 65536 then ['\\', 'u'] ++ hex 4 c.toNat
  else ['\\', 'U'] ++ hex 8 c.toNat

/-- A text in quotes: single ones, or double ones if only single ones occur in it. -/
def quoted (s : String) : String :=
  let cs := s.toList
  let quote := if cs.contains '\'' && !cs.contains '"' then '"' else '\''
  String.ofList (quote :: cs.flatMap (showChar quote) ++ [quote])

mutual

/-- A value inside a list or an object. -/
def shown : Value → String
  | .null => "None"
  | .bool true => "True"
  | .bool false => "False"
  | .int n => Number.writeInt n
  | .float x => Number.displayStyle.write x
  | .text s => quoted s
  | .list items => "[" ++ Text.join ", " (shownList items) ++ "]"
  | .object fields => "\x7b" ++ Text.join ", " (shownFields fields) ++ "\x7d"

/-- The shown elements of a list. -/
def shownList : List Value → List String
  | [] => []
  | item :: items => shown item :: shownList items

/-- The shown fields of an object. -/
def shownFields : List (String × Value) → List String
  | [] => []
  | (name, value) :: rest => (quoted name ++ ": " ++ shown value) :: shownFields rest

end

/-- A value on its own. -/
def display : Value → String
  | .text s => s
  | v => shown v

/-- The kind of a value in one word. -/
def kindWord : Value → String
  | .null => "NoneType"
  | .bool _ => "bool"
  | .int _ => "int"
  | .float _ => "float"
  | .text _ => "str"
  | .list _ => "list"
  | .object _ => "dict"

end Automation.Value
