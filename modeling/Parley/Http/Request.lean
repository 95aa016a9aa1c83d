/-
Requests, responses, and what is read from a request.

A target is a path and a query, perhaps with a scheme and an authority in
front and a fragment behind. Escapes in a path stand for their octets,
except those of a percent sign, a slash and a plus sign. A query is a list
of form fields; a field that is asked for may stand only once.
-/
import Parley.Http.Coding
import Parley.Http.Headers
import Parley.Http.MediaType
import Parley.Json.Record
import Parley.Text.Blank
import Parley.Text.Percent
import Parley.Text.Pieces

namespace Parley.Http

open Text

structure Request where
  method : String
  /-- What is asked for, as it was sent. -/
  target : String
  headers : Headers
  body : String
deriving Inhabited, Repr

/-- What a response holds. -/
inductive Body where
  | empty
  | json (v : Json)
  /-- A text for people. -/
  | text
deriving Repr

structure Response where
  status : Nat
  body : Body
  requestId : Option String
deriving Repr

/-! ## Targets -/

namespace Target

/-- Whether a character may stand in a scheme. -/
def isSchemeChar (c : Char) : Bool := c.isAlphanum || ['+', '-', '.', '~'].contains c

/-- The path and the query of a target without a fragment. An authority
without a path stands for the root, unless it has no scheme. -/
def pathAndQuery (target : List Char) : List Char :=
  match target with
  | '/' :: _ | ['*'] => target
  | _ =>
    match target.dropWhile isSchemeChar with
    | ':' :: '/' :: '/' :: rest =>
      match rest.dropWhile fun c => c ≠ '/' && c ≠ '?' with
      | '/' :: path => '/' :: path
      | query => '/' :: query
    | _ => []

end Target

namespace Request

/-- The path and the query, without what stands around them. -/
def place (r : Request) : List Char :=
  Target.pathAndQuery (r.target.toList.takeWhile (· ≠ '#'))

/-- The path, with its escapes replaced. -/
def path (r : Request) : String :=
  let raw := r.place.takeWhile (· ≠ '?')
  let kept : List UInt8 := [0x25, 0x2B, 0x2F]
  String.ofList (Utf8.decodeLossy
    (Percent.decodeWhere (fun b => !kept.contains b) (Utf8.encode raw)))

/-- The query as it was sent, empty if there is none. -/
def query (r : Request) : List Char := (r.place.dropWhile (· ≠ '?')).drop 1

end Request

/-! ## Queries -/

/-- The form fields of a query. -/
def fields (query : List Char) : List (String × String) :=
  ((pieces '&' query).filter fun piece => !piece.isEmpty).map fun piece =>
    let text (s : List Char) := String.ofList (Percent.decodeForm s)
    (text (piece.takeWhile (· ≠ '=')), text ((piece.dropWhile (· ≠ '=')).drop 1))

/-- A field that may be missing; no result if it stands twice. -/
def single (fields : List (String × String)) (name : String) : Option (Option String) :=
  match fields.filter fun f => f.1 == name with
  | [] => some none
  | [f] => some (some f.2)
  | _ => none

/-- A whole number that may be missing. -/
def singleInt (fields : List (String × String)) (name : String) : Option (Option Int) :=
  match single fields name with
  | some none => some none
  | some (some value) => (readInt64 value.toList).map some
  | none => none

/-! ## Bodies -/

/-- The greatest body that is read, in octets. -/
def greatestBody : Nat := 2097152

/-- Whether a content type is that of JSON. -/
def isJsonType (value : String) : Bool := (MediaType.ofText? value.toList).any MediaType.isJson

/-- The length that a body is said to have. -/
def declaredLength? (headers : Headers) : Option Int :=
  (headers.text? "content-length").bind fun value => IntRange.word64.read value.toList

/-- Why a body cannot be used. -/
inductive BodyFault where
  | malformed
  | tooLong
deriving DecidableEq, Repr

/-- The status of the answer to a faulty body. -/
def BodyFault.status : BodyFault → Nat
  | .malformed => 400
  | .tooLong => 413

/-- The octets of the body without its coding. -/
def contents? (r : Request) : Option Utf8.Octets :=
  let octets := Utf8.encode r.body.toList
  match Coding.ofHeaders? r.headers with
  | some coding => coding.decode? octets
  | none => some octets

/-- What the body describes. -/
def readBody {α : Type} (form : Json.Form α) (r : Request) : Except BodyFault α :=
  if !((r.headers.text? "content-type").any isJsonType) then .error .malformed
  else if (declaredLength? r.headers).any fun n => (greatestBody : Int) < n then .error .tooLong
  else match contents? r with
    | none => .error .malformed
    | some octets =>
      if greatestBody < octets.length then .error .tooLong
      else match form.ofOctets? octets with
        | some a => .ok a
        | none => .error .malformed

end Parley.Http
