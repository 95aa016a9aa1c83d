/-
JSON values.

Whole numbers that fit 64 bits are exact; every other number is a double.
An object keeps its members in the order in which they stand, repeated
names included: what a repeated name means is up to the reader of the
value.
-/
import Parley.Json.Double
import Parley.Text.Decimal

namespace Parley

open Text (IntRange)

/-- A JSON value. -/
inductive Json where
  | null
  | bool (b : Bool)
  | int (i : Int)
  | double (x : Json.Double)
  | str (s : String)
  | arr (items : List Json)
  | obj (members : List (String × Json))
deriving Inhabited, Repr

namespace Json

/-- What the reading of a well-formed text comes to. -/
inductive Outcome (α : Type) where
  | value (a : α)
  /-- There is no value; then it may matter whether reading stops right
  behind the text. -/
  | failed (behind : Bool)
deriving Repr

/-- A number without a sign. -/
def nat (n : Nat) : Json := .int n

/-- A value that may be missing, as `null`. -/
def ofOption {α : Type} (write : α → Json) : Option α → Json
  | some a => write a
  | none => .null

/-! ## Reading scalars -/

def bool? : Json → Option Bool
  | .bool b => some b
  | _ => none

def str? : Json → Option String
  | .str s => some s
  | _ => none

/-- A list of texts. -/
def texts? : Json → Option (List String)
  | .arr items => items.mapM str?
  | _ => none

/-- A whole number of a range; a double is none, even when it is whole. -/
def int? (r : IntRange) : Json → Option Int
  | .int i => r.check i
  | _ => none

def int64? : Json → Option Int := int? .int64

/-- The value of the last member of that name. -/
def member? (name : String) : Json → Option Json
  | .obj members => (members.reverse.find? fun m => m.1 == name).map (·.2)
  | _ => none

end Json
end Parley
