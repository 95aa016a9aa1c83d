/-
Access tokens: JSON Web Tokens signed with HMAC-SHA256.

A token is a header, claims and a signature, in base64 and separated by
points. It names a user as the text of a positive number in `sub`, and is
good until 30 seconds after `exp`. `verify?` accepts a token only if all
of that holds; other claims do not count, except that a token for a
particular audience is refused.
-/
import Parley.AccessToken.EmbeddedKey
import Parley.Crypto.Hmac
import Parley.Json.Writer
import Parley.Text.Base64Url
import Parley.Text.Pieces

namespace Parley

open Text (pieces readInt64 showInt)
open Text.Utf8 (Octets)

namespace AccessToken

/-- The seconds that a token is accepted beyond its expiry. -/
def leeway : Int := 30

/-- What a token says of its user. -/
structure Claims where
  subject : String
  issuedAt : Int
  expiresAt : Int
deriving DecidableEq, Repr

/-! ## Issuing -/

/-- The name of the only algorithm. -/
def algorithm : String := "HS256"

def headerJson : Json := .obj [("typ", .str "JWT"), ("alg", .str algorithm)]

def Claims.toJson (c : Claims) : Json :=
  .obj [("sub", .str c.subject), ("iat", .int c.issuedAt), ("exp", .int c.expiresAt)]

/-- A JSON value as a part of a token. -/
def segment (v : Json) : List Char := Text.Base64Url.encode (Text.Utf8.encode v.write)

/-- The signature of the parts in front of it. -/
def signature (secret : String) (signed : List Char) : List Char :=
  Text.Base64Url.encode (Crypto.hmac (Text.Utf8.ofString secret) (Text.Utf8.encode signed))

/-- The token with those claims. -/
def sign (secret : String) (claims : Json) : List Char :=
  let signed := segment headerJson ++ '.' :: segment claims
  signed ++ '.' :: signature secret signed

/-- The claims for a user, made at a time in seconds for a number of seconds. -/
def claimsFor (user now lifetime : Int) : Claims := ⟨showInt user, now, now + lifetime⟩

/-- A token for a user. -/
def issue (secret : String) (user now lifetime : Int) : String :=
  String.ofList (sign secret (claimsFor user now lifetime).toJson)

/-! ## Reading headers -/

/-- The tree that a part of a token holds. -/
def readSegment (s : List Char) : Option Json.Raw :=
  (Text.Base64Url.decode? s).bind Json.Raw.ofOctets?

/-- The members of a header that are texts. -/
def headerTexts : List String := ["typ", "cty", "jku", "kid", "x5u", "x5t", "x5t#S256"]

/-- Whether a value names the algorithm: as a text, or as a member that
says no more. -/
def isAlgorithm : Json → Bool
  | .str name | .obj [(name, .null)] => name = algorithm
  | _ => false

/-- How a header is read: it has to name the algorithm, and what else it
says has to be well formed. -/
def headerForm : Json.Form Unit :=
  ⟨["typ", "alg", "cty", "jku", "jwk", "kid", "x5u", "x5c", "x5t", "x5t#S256"], fun r => do
  let alg ← r.required "alg" some
  guard (isAlgorithm alg)
  guard (headerTexts.all fun name => (r.optional name Json.str?).isSome)
  guard (r.optional "x5c" Json.texts?).isSome
  guard (r.optional "jwk" fun v => if EmbeddedKey.isKey v then some v else none).isSome⟩

/-! ## Reading claims -/

/-- How the claims of this library are read. -/
def claimsForm : Json.Form Claims :=
  ⟨["sub", "iat", "exp"], fun r => do
  let subject ← r.required "sub" Json.str?
  let issuedAt ← r.required "iat" Json.int64?
  let expiresAt ← r.required "exp" Json.int64?
  pure ⟨subject, issuedAt, expiresAt⟩⟩

/-- The registered claims; each may stand once. -/
def registered : List String := ["exp", "nbf", "sub", "iss", "aud"]

/-- Whether a claim names an audience: by a text or a list of texts. -/
def isAudience (v : Json) : Bool := v.str?.isSome || (v.texts?).isSome

/-- Whether a registered claim lets a token pass. One that cannot be read
counts as missing, as long as reading stops right behind it. A time that
is a container is not read into. -/
def passes (name : String) (claim : Json.Raw) : Bool :=
  if name = "nbf" then
    match claim with
    | .broken behind => behind
    | .arr items => items.isEmpty
    | .obj members => members.isEmpty
    | .scalar _ => true
  else if name = "aud" ∨ name = "iss" then
    match claim.partOutcome with
    | .value v => name = "iss" || !isAudience v
    | .failed behind => behind
  else true

/-- The registered claims of a tree, with their names. -/
def registeredClaims : Json.Raw → List (String × Json.Raw)
  | .obj members => members.filterMap fun (name, claim) =>
    name.bind fun name => if registered.contains name then some (name, claim) else none
  | _ => []

/-- The claims of a tree, if it is an object that names each registered
claim at most once, and they all let the token pass. -/
def readClaims (r : Json.Raw) : Option Claims := do
  let found := registeredClaims r
  guard (Json.distinct (found.map (·.1)))
  guard (found.all fun (name, claim) => passes name claim)
  match r with
  | .obj _ => claimsForm.ofRaw? r
  | _ => none

/-! ## Verifying -/

/-- Whether claims are still good at a time in seconds. -/
def Claims.current (c : Claims) (now : Int) : Bool := 0 ≤ c.expiresAt && now - leeway ≤ c.expiresAt

/-- The user that a subject names. -/
def userOf? (subject : String) : Option Int :=
  match readInt64 subject.toList with
  | some id => if 0 < id then some id else none
  | none => none

/-- The claims of a token with three parts, the right header and signature. -/
def openToken? (secret : String) (token : List Char) : Option Claims :=
  match pieces '.' token with
  | [header, claims, sig] => do
    (readSegment header).bind headerForm.ofRaw?
    guard (sig = signature secret (header ++ '.' :: claims))
    (readSegment claims).bind readClaims
  | _ => none

/-- The user of a token that is good at a time in seconds. -/
def verify? (secret : String) (now : Int) (token : String) : Option Int := do
  let claims ← openToken? secret token.toList
  if claims.current now then userOf? claims.subject else none

end AccessToken
end Parley
