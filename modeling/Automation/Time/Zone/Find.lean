import Automation.Time.Zone.Africa
import Automation.Time.Zone.America
import Automation.Time.Zone.Asia
import Automation.Time.Zone.Europe
import Automation.Time.Zone.Ocean
import Automation.Time.Zone.Other
import Automation.Value.Display

/-!
# Zones by name

A name is a relative path such as `Europe/Paris`, written in the plainest way.
-/

namespace Automation.Time.Zone

/-- All rows. -/
def rows : List Row :=
  africaRows ++ americaRows ++ asiaRows ++ europeRows ++ oceanRows ++ otherRows

/-- Why a name has no zone. -/
inductive NameFault where
  | absolute (name : String)
  | notPlain (name : String)
  | escapes (name : String)
  | unknown (name : String)
  /-- The name of a table that is no zone. -/
  | notZone
deriving DecidableEq, Repr

/-- The fault in words. -/
def NameFault.message : NameFault → String
  | .absolute name => "ZoneInfo keys may not be absolute paths, got: " ++ name
  | .notPlain name => "ZoneInfo keys must be normalized relative paths, got: " ++ name
  | .escapes name => "ZoneInfo keys must refer to subdirectories of TZPATH, got: " ++ name
  | .unknown name => Value.quoted ("No time zone found with key " ++ name)
  | .notZone => "Invalid TZif file: magic not found"

/-- The tables that stand beside the zones. -/
def otherTables : List String :=
  ["leapseconds", "tzdata.zi", "zone.tab", "zonenow.tab", "iso3166.tab", "leap-seconds.list",
   "zone1970.tab"]

/-- The steps of a relative path in the plainest way: no empty step, no step that stays, and steps
back only at its start. The result is built from its end. -/
def plainSteps : List (List Char) → List (List Char) → List (List Char)
  | acc, [] => acc
  | acc, step :: steps =>
    if step = [] || step = ['.'] then plainSteps acc steps
    else if step = ['.', '.'] then
      match acc with
      | last :: before =>
        if last = ['.', '.'] then plainSteps (step :: acc) steps else plainSteps before steps
      | [] => plainSteps [step] steps
    else plainSteps (step :: acc) steps

/-- The length of a relative path in the plainest way. -/
def plainLength (steps : List (List Char)) : Nat :=
  match steps with
  | [] => 1
  | _ => steps.foldl (fun total step => total + step.length) 0 + steps.length - 1

/-- The zone of a name. -/
def find (name : String) : Except NameFault Zone :=
  let cs := name.toList
  let steps := plainSteps [] (Text.splitOn '/' cs)
  if cs.head? = some '/' then .error (.absolute name)
  else if plainLength steps ≠ cs.length then .error (.notPlain name)
  else if steps = [] || steps.getLast? = some ['.', '.'] then .error (.escapes name)
  else if otherTables.contains name then .error .notZone
  else match rows.find? (·.names.contains name) with
    | some row => .ok row.zone
    | none => .error (.unknown name)

end Automation.Time.Zone
