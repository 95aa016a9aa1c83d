/-
Reading JSON text from its tokens.

A `Parse` is a stack of containers begun, innermost first, and what may
come next. Taking a token is total and looks at no other token, so reading
a text is a fold. `raw?` reads the tree of a text and `read?` its value.
-/
import Parley.Json.Raw
import Parley.Json.Token
import Parley.Text.Utf8

namespace Parley.Json

/-- A container whose end has not come. Its contents so far are reversed. -/
inductive Open where
  | array (items : List Raw)
  /-- An object, with the name of the member that is being read. -/
  | object (members : List (Option String × Raw)) (name : Option String)

/-- What may come next. -/
inductive Expected where
  | value
  /-- The first item of an array, or its end. -/
  | firstItem
  /-- The first name of an object, or its end. -/
  | firstName
  | name
  /-- The colon behind a name. -/
  | colon
  /-- A comma, or the end of the innermost container. -/
  | next
  /-- Nothing: the value is complete. -/
  | nothing (r : Raw)

/-- The state of reading. -/
structure Parse where
  stack : List Open
  expected : Expected

namespace Parse

def empty : Parse := ⟨[], .value⟩

/-- Takes a complete value. -/
def value (r : Raw) : List Open → Parse
  | [] => ⟨[], .nothing r⟩
  | .array items :: stack => ⟨.array (r :: items) :: stack, .next⟩
  | .object members name :: stack => ⟨.object ((name, r) :: members) name :: stack, .next⟩

/-- Takes a token where a value must stand. -/
def takeValue (stack : List Open) : Token → Option Parse
  | .beginArray => some ⟨.array [] :: stack, .firstItem⟩
  | .beginObject => some ⟨.object [] none :: stack, .firstName⟩
  | .text s => some (value (.scalar (.str s)) stack)
  | .scalar v => some (value (.scalar v) stack)
  | .broken behind => some (value (.broken behind) stack)
  | _ => none

/-- Takes a name. -/
def takeName : List Open → Token → Option Parse
  | .object members _ :: stack, .text name => some ⟨.object members (some name) :: stack, .colon⟩
  | .object members _ :: stack, .broken _ => some ⟨.object members none :: stack, .colon⟩
  | _, _ => none

/-- Ends the innermost container. -/
def close : List Open → Token → Option Parse
  | .array items :: stack, .endArray => some (value (.arr items.reverse) stack)
  | .object members _ :: stack, .endObject => some (value (.obj members.reverse) stack)
  | _, _ => none

/-- Takes one token. -/
def take (p : Parse) (t : Token) : Option Parse :=
  match p.expected with
  | .value => takeValue p.stack t
  | .firstItem =>
    match t with
    | .endArray => close p.stack t
    | _ => takeValue p.stack t
  | .firstName =>
    match t with
    | .endObject => close p.stack t
    | _ => takeName p.stack t
  | .name => takeName p.stack t
  | .colon =>
    match t with
    | .colon => some ⟨p.stack, .value⟩
    | _ => none
  | .next =>
    match t, p.stack with
    | .comma, .array _ :: _ => some ⟨p.stack, .value⟩
    | .comma, .object _ _ :: _ => some ⟨p.stack, .name⟩
    | _, _ => close p.stack t
  | .nothing _ => none

/-- Takes all tokens. -/
def takeAll (p : Parse) : List Token → Option Parse
  | [] => some p
  | t :: ts =>
    match p.take t with
    | some p => p.takeAll ts
    | none => none

/-- The tree, once it is complete. -/
def result? (p : Parse) : Option Raw :=
  match p.expected with
  | .nothing r => some r
  | _ => none

end Parse

/-- The tree that the tokens spell. -/
def ofTokens? (ts : List Token) : Option Raw := (Parse.empty.takeAll ts).bind Parse.result?

/-- Reads the tree of one value and blanks around it. A `none` in the text
stands for octets that are no character. -/
def raw? (s : List (Option Char)) : Option Raw := (tokens? s).bind ofTokens?

/-- The tree of a string. -/
def Raw.ofString? (s : String) : Option Raw := raw? (s.toList.map some)

/-- The tree of octets. -/
def Raw.ofOctets? (octets : Text.Utf8.Octets) : Option Raw := raw? (Text.Utf8.scan none octets)

/-- Reads one value and blanks around it. -/
def read? (s : List Char) : Option Json := (raw? (s.map some)).bind Raw.value?

/-- Reads one value from a string. -/
def ofString? (s : String) : Option Json := read? s.toList

end Parley.Json
