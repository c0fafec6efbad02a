import Automation.Text.Class
import Automation.Value.Display

/-!
# Addresses on the web

An address that a request can be sent to names one of the two schemes of the web and a host, and
holds no blank. To see that, it is cut into scheme, host part and the rest.
-/

namespace Automation.Url

/-- Why an address cannot be cut. -/
inductive Fault where
  /-- A square bracket without its partner. -/
  | brackets
  /-- Bracketed text that is neither a literal address nor of a later kind. -/
  | notAnAddress (host : String)
  | addressOfFour
  | laterKind
  /-- Characters that stand for delimiters. -/
  | disguised (host : String)
deriving DecidableEq, Repr

/-- The fault in words. -/
def Fault.message : Fault → String
  | .brackets => "Invalid IPv6 URL"
  | .notAnAddress host => Value.quoted host ++ " does not appear to be an IPv4 or IPv6 address"
  | .addressOfFour => "An IPv4 address cannot be in brackets"
  | .laterKind => "IPvFuture address is invalid"
  | .disguised host => s!"netloc '{host}' contains invalid characters under NFKC normalization"

/-! ## Literal addresses -/

/-- A hexadecimal digit. -/
def isHexDigit (c : Char) : Bool :=
  Text.isLatinDigit c || ('a' ≤ c && c ≤ 'f') || ('A' ≤ c && c ≤ 'F')

/-- A number from 0 to 255 without zeros in front. -/
def isOctet (cs : List Char) : Bool :=
  match cs with
  | [] => false
  | first :: rest =>
    cs.all Text.isLatinDigit && cs.length ≤ 3 && (first != '0' || rest.isEmpty)
      && (Text.natOfDigits? cs).getD 0 ≤ 255

/-- An address of four octets. -/
def isAddressOfFour (cs : List Char) : Bool :=
  let octets := Text.splitOn '.' cs
  octets.length == 4 && octets.all isOctet

/-- Up to four hexadecimal digits. -/
def isGroup (cs : List Char) : Bool := cs.all isHexDigit && cs.length ≤ 4

/-- Whether groups make up an address of eight, where one gap inside may stand for groups of zeros.
The groups at the ends may be empty only beside the gap. -/
def fillEight (groups : List (List Char)) : Bool :=
  let inner := (groups.drop 1).dropLast
  match (inner.zipIdx.filter (·.1.isEmpty)).map (·.2 + 1) with
  | [] =>
    groups.length == 8 && groups.all fun group => !group.isEmpty && isGroup group
  | [gap] =>
    let front := groups.take gap
    let back := groups.drop (gap + 1)
    let front := if front.head?.any List.isEmpty then front.drop 1 else front
    let back := if back.getLast?.any List.isEmpty then back.dropLast else back
    let whole := (groups.head?.any (!·.isEmpty) || front.isEmpty)
      && (groups.getLast?.any (!·.isEmpty) || back.isEmpty)
    whole && front.length + back.length ≤ 7
      && (front ++ back).all fun group => !group.isEmpty && isGroup group
  | _ => false

/-- An address of eight groups, whose last two may be written as four octets, perhaps with the name
of a zone behind it. -/
def isAddressOfEight (cs : List Char) : Bool :=
  let address := cs.takeWhile (· != '%')
  let zone := cs.drop address.length
  let zoneOk := zone.isEmpty || (1 < zone.length && !(zone.drop 1).contains '%')
  let groups := Text.splitOn ':' address
  let last := groups.getLast?.getD []
  let groups? :=
    if last.contains '.' then
      if isAddressOfFour last then some (groups.dropLast ++ [['0'], ['0']]) else none
    else some groups
  !cs.contains '/' && zoneOk && 3 ≤ groups.length
    && match groups? with
      | some groups => groups.length ≤ 9 && fillEight groups
      | none => false

/-- The mark of a later kind of address, and something behind it. -/
def isLaterKind (cs : List Char) : Bool :=
  match cs with
  | 'v' :: rest =>
    let digits := rest.takeWhile isHexDigit
    match rest.drop digits.length with
    | '.' :: tail => !digits.isEmpty && !tail.isEmpty && !tail.contains '\n'
    | _ => false
  | _ => false

/-- Check the text between brackets. -/
def checkBracketed (cs : List Char) : Except Fault Unit :=
  if cs.head? = some 'v' then (if isLaterKind cs then .ok () else .error .laterKind)
  else if isAddressOfFour cs then .error .addressOfFour
  else if isAddressOfEight cs then .ok ()
  else .error (.notAnAddress (String.ofList cs))

/-! ## Cutting -/

/-- Characters that stand for a delimiter in another form. -/
def disguises : List Nat :=
  [0x2047, 0x2048, 0x2049, 0x2100, 0x2101, 0x2105, 0x2106, 0x2a74, 0xfe13, 0xfe16, 0xfe55, 0xfe56,
   0xfe5f, 0xfe6b, 0xff03, 0xff0f, 0xff1a, 0xff1f, 0xff20]

/-- The parts of an address that decide whether it can be used. -/
structure Parts where
  scheme : List Char
  host : List Char
deriving DecidableEq, Repr

/-- A character of a scheme. -/
def isSchemeChar (c : Char) : Bool :=
  Text.isLatinLetter c || Text.isLatinDigit c || c == '+' || c == '-' || c == '.'

/-- The scheme in front of an address, in small letters, and the rest. -/
def takeScheme (cs : List Char) : List Char × List Char :=
  let scheme := cs.takeWhile (· != ':')
  if scheme.length < cs.length && scheme.head?.any Text.isLatinLetter
      && scheme.all isSchemeChar then
    (scheme.map Char.toLower, cs.drop (scheme.length + 1))
  else ([], cs)

/-- The host part in front of what is left of an address. -/
def takeHost : List Char → List Char
  | '/' :: '/' :: rest => rest.takeWhile fun c => c != '/' && c != '?' && c != '#'
  | _ => []

/-- The text between the first opening bracket and the next closing one. -/
def bracketed (host : List Char) : List Char :=
  ((host.dropWhile (· != '[')).drop 1).takeWhile (· != ']')

/-- Check the host part. -/
def checkHost (host : List Char) : Except Fault Unit := do
  if host.contains '[' != host.contains ']' then .error .brackets
  if host.contains '[' then checkBracketed (bracketed host)
  if host.any fun c => disguises.contains c.toNat then .error (.disguised (String.ofList host))

/-- Cut an address: control characters and blanks in front and line breaks anywhere do not count. -/
def cut (url : String) : Except Fault Parts := do
  let cs := url.toList.dropWhile fun c => c.toNat ≤ 32
  let cs := cs.filter fun c => c != '\t' && c != '\n' && c != '\r'
  let (scheme, rest) := takeScheme cs
  let host := takeHost rest
  checkHost host
  return { scheme, host }

/-- Whether a request can be sent to an address with such parts. -/
def usable (url : String) (parts : Parts) : Bool :=
  (parts.scheme == "http".toList || parts.scheme == "https".toList) && !parts.host.isEmpty
    && !url.toList.contains ' '

end Automation.Url
