/-
Reading a JSON value as a record with known fields.

An object gives the fields by name: a field may stand only once and members
of other names are ignored. An array gives the fields in their order and
may not be longer than their list. A field that allows it may be missing:
an `optional` one in an object only, a `defaulted` one in an array, too.

A `Form` says what the fields are and what they make. Read from a text, a
record asks for the values of its own fields alone.
-/
import Parley.Json.Reader

namespace Parley.Json

/-- The fields found in a value. -/
structure Record where
  /-- Whether they were given by position. -/
  positional : Bool
  found : List (String × Json)

/-- Whether no two of the names are equal. -/
def distinct : List String → Bool
  | [] => true
  | name :: names => !names.contains name && distinct names

/-- The fields of those names. -/
def record? (names : List String) : Json → Option Record
  | .obj members =>
    let known := members.filter fun m => names.contains m.1
    if distinct (known.map (·.1)) then some ⟨false, known⟩ else none
  | .arr items => if items.length ≤ names.length then some ⟨true, names.zip items⟩ else none
  | _ => none

namespace Record

/-- The value of a field. -/
def get? (r : Record) (name : String) : Option Json := (r.found.find? fun m => m.1 == name).map (·.2)

/-- A field that must stand. -/
def required {α : Type} (r : Record) (name : String) (read : Json → Option α) : Option α :=
  (r.get? name).bind read

/-- A value, or `null` for none. -/
def orNull {α : Type} (read : Json → Option α) : Json → Option (Option α)
  | .null => some none
  | v => (read v).map some

/-- A field that may be `null`, and that an object may leave out. -/
def optional {α : Type} (r : Record) (name : String) (read : Json → Option α) :
    Option (Option α) :=
  match r.get? name with
  | some v => orNull read v
  | none => if r.positional then none else some none

/-- A field that may be left out. -/
def defaulted {α : Type} (r : Record) (name : String) (absent : α) (read : Json → Option α) :
    Option α :=
  match r.get? name with
  | some v => read v
  | none => some absent

end Record

/-! ## Forms -/

/-- How a record is read: its fields in their order, and what they make. -/
structure Form (α : Type) where
  names : List String
  make : Record → Option α

namespace Form

variable {α : Type}

/-- What a value describes. -/
def ofJson? (f : Form α) (v : Json) : Option α := (v.record? f.names).bind f.make

/-- What a tree describes. -/
def ofRaw? (f : Form α) (r : Raw) : Option α := (r.restrict? f.names).bind f.ofJson?

/-- What a text describes. -/
def ofText? (f : Form α) (s : String) : Option α := (Raw.ofString? s).bind f.ofRaw?

/-- What octets describe. -/
def ofOctets? (f : Form α) (octets : Text.Utf8.Octets) : Option α :=
  (Raw.ofOctets? octets).bind f.ofRaw?

end Form
end Parley.Json
