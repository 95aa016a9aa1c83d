/-
Keys inside the header of a token.

A header may hold the public key of its signer. Nobody uses it, but a
header with something else in its place is no header. The members that all
kinds of keys have are read first; what is left has to describe an elliptic
curve key, an RSA key, a sequence of octets or a pair of octet keys.
-/
import Parley.Json.Record

namespace Parley.AccessToken.EmbeddedKey

open Json (Record)

/-! ## Members of all keys -/

def commonTexts : List String := ["use", "kid", "x5u", "x5t", "x5t#S256"]

def commonLists : List String := ["key_ops", "x5c"]

def commonNames : List String := "alg" :: commonTexts ++ commonLists

/-- The algorithms that a key may be meant for. -/
def algorithms : List String :=
  ["HS256", "HS384", "HS512", "ES256", "ES384", "RS256", "RS384", "RS512", "PS256", "PS384",
    "PS512", "EdDSA", "RSA1_5", "RSA-OAEP", "RSA-OAEP-256"]

/-- Whether a value names an algorithm: by a text, or by a member that says
no more. -/
def isAlgorithm : Json → Bool
  | .str s | .obj [(s, .null)] | .obj [(s, .obj [])] => algorithms.contains s
  | _ => false

/-- Whether the members that all keys have are well formed. -/
def acceptsCommon (r : Record) : Bool :=
  commonTexts.all (fun name => (r.optional name Json.str?).isSome)
    && commonLists.all (fun name => (r.optional name Json.texts?).isSome)
    && (r.optional "alg" fun v => if isAlgorithm v then some v else none).isSome

/-! ## Members of one kind of keys -/

/-- A word: a text, or a member that says no more. -/
def word? : Json → Option String
  | .str s | .obj [(s, .null)] => some s
  | _ => none

/-- The curves that a key may lie on. -/
def curves : List String := ["P-256", "P-384", "P-521", "Ed25519"]

/-- A kind of keys: its name, whether it has a curve, and its texts. -/
structure Kind where
  name : String
  hasCurve : Bool
  texts : List String
deriving Repr

def kinds : List Kind :=
  [⟨"EC", true, ["x", "y"]⟩, ⟨"RSA", false, ["n", "e"]⟩, ⟨"oct", false, ["k"]⟩,
    ⟨"OKP", true, ["x"]⟩]

/-- How the members of a kind of keys are read. -/
def Kind.form (k : Kind) : Json.Form Unit :=
  ⟨["kty"] ++ (if k.hasCurve then ["crv"] else []) ++ k.texts, fun r => do
  let name ← r.required "kty" word?
  guard (name = k.name)
  if k.hasCurve then
    let curve ← r.required "crv" word?
    guard (curves.contains curve)
  guard (k.texts.all fun text => (r.required text Json.str?).isSome)⟩

/-! ## Keys -/

/-- Whether a value is a key. -/
def isKey : Json → Bool
  | .obj members =>
    let own := Json.obj (members.filter fun m => !commonNames.contains m.1)
    ((Json.obj members).record? commonNames).any acceptsCommon
      && kinds.any fun k => (k.form.ofJson? own).isSome
  | _ => false

end Parley.AccessToken.EmbeddedKey
