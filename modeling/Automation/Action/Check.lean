import Automation.Action.Failure
import Automation.Template
import Automation.Time.IsoReader

/-!
# Checks of actions

What must hold of the texts of an action before anything is sent. All checks are made on resolved
text, so a placeholder that is still there can never be resolved.
-/

namespace Automation.Check

/-! ## Texts -/

/-- A text without placeholders that is not blank. -/
def requireText (action field s : String) : Except Fault String :=
  match Template.placeholders s with
  | [] => if Text.isBlank s then .error (.permanent action s!"'{field}' is empty") else .ok s
  | paths =>
    let listed := Text.join ", " paths
    .error (.permanent action s!"'{field}' has unresolved variable(s): {listed}")

/-- The same for any value: null is nothing, and what is no text passes. -/
def requireValue (action field : String) : Value → Except Fault Value
  | .text s => (requireText action field s).map .text
  | .null => .error (.permanent action s!"'{field}' is empty")
  | v => .ok v

/-! ## Phone numbers -/

/-- Characters that people put between the digits of a phone number. -/
def isPhoneMark (c : Char) : Bool :=
  Text.isSpace c || c == '-' || c == '(' || c == ')' || c == '.'

/-- A plus, a digit that is not zero, and six to fourteen further digits. -/
def isPhoneNumber : List Char → Bool
  | '+' :: first :: rest =>
    '1' ≤ first && first ≤ '9' && rest.all Text.isDecimal && 6 ≤ rest.length && rest.length ≤ 14
  | _ => false

/-- A phone number without marks. -/
def phone (action s : String) : Except Fault String := do
  let s ← requireText action "phone number" s
  let cs := s.toList.filter (!isPhoneMark ·)
  if isPhoneNumber cs then return String.ofList cs
  else .error (.permanent action s!"Invalid phone number '{s}', expected E.164 format")

/-! ## Addresses -/

/-- Whether a domain has a point with something on both sides. -/
def isDomain (cs : List Char) : Bool :=
  !cs.any (fun c => c == '@' || Text.isSpace c)
    && ((cs.drop 1).dropLast).contains '.'

/-- A mail address: a name, an at sign and a domain, without white space. One line break at the end
is not seen. -/
def isMailAddress (s : String) : Bool :=
  let cs := Text.dropLineBreak s.toList
  let name := cs.takeWhile (· != '@')
  !name.isEmpty && !name.any Text.isSpace && name.length < cs.length
    && isDomain (cs.drop (name.length + 1))

/-- An address on the web without blanks around it. One that can never work is fatal. -/
def url (action s : String) : Except Fault String :=
  let s := Text.strip s
  match Url.cut s with
  | .error fault => .error (.defect (.url fault))
  | .ok parts =>
    if Url.usable s parts then .ok s else .error (.fatal action s!"Malformed URL '{s}'")

/-! ## Times -/

/-- A time of an appointment. The letter of UTC may stand anywhere. -/
def time (action field s : String) : Except Fault Time.Stamp := do
  let s := Text.strip (← requireText action field s)
  let written := String.ofList <| s.toList.flatMap fun c => if c = 'Z' then "+00:00".toList else [c]
  match Time.Iso.read? written with
  | some t => return t
  | none => .error (.permanent action s!"'{field}' is not an ISO-8601 time: '{s}'")

/-- The units of a distance, with their microseconds. -/
def distanceUnits : List (String × Int) :=
  [("minute", Time.minute), ("hour", Time.hour), ("day", Time.day), ("week", 7 * Time.day)]

/-- A letter in its small form; two letters of other alphabets have Latin ones as their other
case. -/
def smallLetter (c : Char) : Char :=
  if c = '\u017f' then 's' else if c = '\u212a' then 'k' else c.toLower

/-- The unit that a word names, in the singular or the plural. -/
def unitOf (word : List Char) : Option Int :=
  let word := String.ofList (word.map smallLetter)
  distanceUnits.findSome? fun (name, size) =>
    if word = name || word = name ++ "s" then some size else none

/-- A distance such as `+2 days`: its digits and the microseconds of its unit. -/
def distance? (s : String) : Option (List Char × Int) :=
  match (Text.strip s).toList with
  | '+' :: rest =>
    let rest := rest.dropWhile Text.isSpace
    let digits := rest.takeWhile Text.isDecimal
    let word := (rest.drop digits.length).dropWhile Text.isSpace
    if digits.isEmpty then none else (unitOf word).map fun size => (digits, size)
  | _ => none

/-- A due date. A distance is counted from now; any other text stays as it is, and an empty one is
no date. -/
def dueDate (s : String) (now : Time.Stamp) : Except Fault (Option String) :=
  if s.isEmpty then .ok none
  else match distance? s with
    | none => .ok (some s)
    | some (digits, size) =>
      let moved : Except Time.SpanFault Time.Stamp := do
        if Number.digitLimit < digits.length then .error (.longCount digits.length)
        let span ← Time.boundedSpan ((Text.natOfDigits? digits).getD 0 * size)
        now.shift span
      match moved with
      | .ok t => .ok (some t.iso)
      | .error fault => .error (.defect (.span fault))

/-! ## Answers -/

/-- The status of an answer: overload and trouble of the server pass, refusals stay. -/
def status (action : String) (code : Int) : Except Fault Unit :=
  if 500 ≤ code || code = 429 then .error (.transient action s!"Upstream returned HTTP {code}")
  else if 400 ≤ code then
    .error (.permanent action s!"Upstream rejected request with HTTP {code}")
  else .ok ()

end Automation.Check
