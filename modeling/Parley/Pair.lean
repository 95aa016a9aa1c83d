/-
Keys of a pair of users.

`Pair.id` is the same for both users of a pair; `Pair.ownerKey` tells whose
side of the pair is meant. `ofId?` reads an id back: two positive numbers,
the lower first. It accepts every spelling of them that `readInt64` does.
-/
import Parley.Text.Decimal
import Parley.Text.Pieces

namespace Parley

/-- The number that stands for a user. -/
abbrev UserId := Int

namespace Pair

open Text (cut? integer readInt64)

/-- The key of one side of a pair: its owner, a colon and the other user. -/
def ownerKey (owner other : UserId) : String :=
  String.ofList (integer owner ++ ':' :: integer other)

/-- The id of a pair: the lower number, an underscore and the higher. -/
def id (a b : UserId) : String :=
  String.ofList (integer (min a b) ++ '_' :: integer (max a b))

/-- The two users of an id, the lower first. -/
def ofId? (id : String) : Option (UserId × UserId) := do
  let (front, behind) ← cut? '_' id.toList
  let low ← readInt64 front
  let high ← readInt64 behind
  if 0 < low ∧ 0 < high ∧ low ≤ high then some (low, high) else none

/-- The other user of an id, for one of its two users. -/
def counterpart? (id : String) (user : UserId) : Option UserId := do
  let (low, high) ← ofId? id
  if user = low then some high else if user = high then some low else none

end Pair
end Parley
