/-
The normal form of a JSON value: in every object each name stands once,
with the value that it has last, and the names are in the order of their
code points.
-/
import Parley.Json.Basic

namespace Parley.Json

/-- Puts a member into a sorted list of members, in place of one of its name. -/
def insertMember (name : String) (v : Json) : List (String × Json) → List (String × Json)
  | [] => [(name, v)]
  | (other, w) :: members =>
    if name = other then (name, v) :: members
    else if name < other then (name, v) :: (other, w) :: members
    else (other, w) :: insertMember name v members

mutual

/-- The value with sorted members at every level, the last of each name. -/
def normal : Json → Json
  | .arr items => .arr (normalItems items)
  | .obj members => .obj (normalMembers members [])
  | v => v

/-- The normal forms of the items. -/
def normalItems : List Json → List Json
  | [] => []
  | v :: items => normal v :: normalItems items

/-- The members put into a sorted list one after the other. -/
def normalMembers : List (String × Json) → List (String × Json) → List (String × Json)
  | [], sorted => sorted
  | (name, v) :: members, sorted => normalMembers members (insertMember name (normal v) sorted)

end

end Parley.Json
