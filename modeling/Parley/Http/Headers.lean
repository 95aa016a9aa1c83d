/-
Header fields of a request, and the credentials in them.

Of several fields with one name the first counts. A value with anything
but visible ASCII characters, spaces and tabs counts as missing.
-/
import Parley.Text.Blank

namespace Parley.Http

/-- Header fields in their order, with names in lower case. -/
abbrev Headers := List (String × String)

namespace Headers

/-- The first value of a name. -/
def raw? (headers : Headers) (name : String) : Option String :=
  (headers.find? fun h => h.1 == name).map (·.2)

/-- Whether a character may stand in a value that is read as text. -/
def isVisible (c : Char) : Bool := (32 ≤ c.toNat && c.toNat < 127) || c = '\t'

/-- The first value of a name, if it is text. -/
def text? (headers : Headers) (name : String) : Option String :=
  match headers.raw? name with
  | some value => if value.toList.all isVisible then some value else none
  | none => none

/-- The token in the authorization field. -/
def bearer? (headers : Headers) : Option String :=
  match headers.text? "authorization" with
  | some value =>
    match value.toList with
    | 'B' :: 'e' :: 'a' :: 'r' :: 'e' :: 'r' :: ' ' :: token =>
      let token := Text.trim token
      if token.isEmpty then none else some (String.ofList token)
    | _ => none
  | none => none

/-- The key for internal requests, empty if there is none. -/
def internalKey (headers : Headers) : String := (headers.text? "x-internal-api-key").getD ""

end Headers
end Parley.Http
