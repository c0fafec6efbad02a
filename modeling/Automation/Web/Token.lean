import Automation.Schema.Codec
import Automation.Settings

/-!
# Tokens

A caller shows a token: claims about who the caller is, signed with a secret. It is accepted if it
was signed with the server's secret, is valid now and comes from the right issuer, and if it names a
user and a tenant.
-/

namespace Automation.Web

open Schema

/-- A token as it was sent. -/
inductive Token where
  | signed (algorithm secret : String) (claims : Entries Value)
  /-- A text that is no token. -/
  | garbled
deriving DecidableEq

/-- What a caller says about itself: a token, with the scheme by which it is to be read. -/
structure Credentials where
  scheme : String
  token : Token
deriving DecidableEq

/-- The credentials in a header that holds no signed token. -/
def Credentials.ofHeader (header : String) : Option Credentials :=
  let cs := header.toList
  let scheme := cs.takeWhile (· != ' ')
  let rest := (cs.drop scheme.length).drop 1
  if rest.isEmpty then none else some ⟨String.ofList scheme, .garbled⟩

/-- Why a caller is turned away. -/
inductive TokenFault where
  | missing
  | notConfigured
  | expired
  | invalid
  | noUser
  | noTenant
  /-- The claims do not have their shape. -/
  | badClaims (issues : List Issue)
deriving DecidableEq

/-- The fault in words. -/
def TokenFault.message : TokenFault → String
  | .missing => "Authorization header missing"
  | .notConfigured => "Token validation is not configured"
  | .expired => "Token has expired"
  | .invalid => "Invalid token"
  | .noUser => "Token missing user_id claim"
  | .noTenant => "Token missing tenant_id claim"
  | .badClaims issues => summary "TokenClaims" issues

/-- The status of an answer to a fault. -/
def TokenFault.status : TokenFault → Nat
  | .notConfigured | .badClaims _ => 500
  | _ => 401

/-! ## Claims -/

/-- Who a caller is. -/
structure Claims where
  userId : String
  tenantId : String
  email : String := ""
  role : String := "user"
  expiry : Int := 0
deriving DecidableEq, Repr

/-- Claims as a document. -/
def Claims.toValue (c : Claims) : Value := .object
  [("user_id", .text c.userId), ("tenant_id", .text c.tenantId), ("email", .text c.email),
   ("role", .text c.role), ("exp", .int c.expiry)]

/-- The integer that a text writes in digits. -/
def integerText? (s : String) : Option Int :=
  let (negative, cs) := Number.takeSign (Text.stripNumber s)
  match Number.takeDigits 0 0 cs with
  | (n, count + 1, []) =>
    if Number.digitLimit < count + 1 then none else some (if negative then -(n : Int) else n)
  | _ => none

/-- The integer part of a claim about time. -/
def wholeClaim? : Value → Option Int
  | .int n => some n
  | .bool b => some (if b then 1 else 0)
  | .float x => Number.truncate? x
  | .text s => integerText? s
  | _ => none

/-- The claim of a name, if it is there and not null. -/
def claim? (claims : Entries Value) (name : String) : Option Value :=
  (claims.get? name).filter (· ≠ .null)

/-- A claim about time, which must be an integer if it is there. -/
def timeClaim (claims : Entries Value) (name : String) : Except TokenFault (Option Int) :=
  match claims.get? name with
  | none => .ok none
  | some v => match wholeClaim? v with
    | some n => .ok (some n)
    | none => .error .invalid

/-- Whether a claim is a text, or not there. -/
def isTextIfAny (claims : Entries Value) (name : String) : Bool :=
  (claims.get? name).all fun v => v.text?.isSome

/-- Check the times and the origin of claims, at a moment in microseconds. -/
def checkClaims (settings : Settings) (instant : Int) (claims : Entries Value) :
    Except TokenFault Unit := do
  let later (n : Int) : Bool := instant < n * Time.second
  if (claim? claims "exp").isNone then throw .invalid
  if (← timeClaim claims "iat").any later then throw .invalid
  if (← timeClaim claims "nbf").any later then throw .invalid
  if (← timeClaim claims "exp").any fun n => n * Time.second ≤ instant then throw .expired
  if claims.get? "iss" ≠ some (.text settings.tokenIssuer) then throw .invalid
  if (claims.get? "aud").any fun v => !v.isEmptyLike then throw .invalid
  unless isTextIfAny claims "sub" && isTextIfAny claims "jti" do throw .invalid

/-- Whether authorities name the one of administrators. -/
def isAdministrator (authorities : Value) : Bool :=
  let name := "ROLE_TENANT_ADMIN"
  match authorities with
  | .list items => items.contains (.text name)
  | .object fields => Entries.has name fields
  | .text s => 1 < (s.splitOn name).length
  | _ => false

/-- A claim that says something. -/
def tellingClaim? (claims : Entries Value) (name : String) : Option Value :=
  (claims.get? name).filter fun v => !v.isEmptyLike

/-- Who the claims of an accepted token say that the caller is. -/
def readClaims (claims : Entries Value) : Except TokenFault Claims := do
  let some user := (tellingClaim? claims "user_id").or (tellingClaim? claims "sub")
    | throw .noUser
  let some tenant := tellingClaim? claims "tenant_id" | throw .noTenant
  let email := (Codec.text.read ((claims.get? "email").getD (.text ""))).under (.field "email")
  let expiry := (Codec.integer.read ((claims.get? "exp").getD (.int 0))).under (.field "exp")
  let authorities := (claims.get? "authorities").getD (.list [])
  let role := if isAdministrator authorities then "admin" else "user"
  match Prod.mk <$> email <*> expiry with
  | .ok (email, expiry) =>
    return { userId := user.display, tenantId := tenant.display, email, role, expiry }
  | .bad issues => throw (.badClaims issues)

/-- Who the caller is, at a moment in microseconds. -/
def authenticate (settings : Settings) (instant : Int) (credentials : Option Credentials) :
    Except TokenFault Claims := do
  let some c := credentials | throw .missing
  if Text.lowerLatin c.scheme ≠ "bearer" then throw .missing
  if settings.tokenSecret.isEmpty then throw .notConfigured
  match c.token with
  | .garbled => throw .invalid
  | .signed algorithm secret claims =>
    if algorithm ≠ settings.tokenAlgorithm || secret ≠ settings.tokenSecret then throw .invalid
    checkClaims settings instant claims
    readClaims claims

end Automation.Web
