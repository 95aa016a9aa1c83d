/-
Well-formed JSON text, before anybody asks for the values in it.

A `Raw` is the tree of a text. A string or number in it may have no value,
and it may be nested to any depth: that counts only where the value is
asked for, so what nobody asks for need only be well formed.
-/
import Parley.Json.Basic

namespace Parley.Json

inductive Raw where
  /-- A string, a number or a word. -/
  | scalar (v : Json)
  /-- A string or number without a value, and whether reading it stops
  right behind it. -/
  | broken (behind : Bool)
  | arr (items : List Raw)
  /-- An object; the name of a member may have no value. -/
  | obj (members : List (Option String × Raw))
deriving Inhabited, Repr

namespace Raw

/-- The greatest number of containers around a value, its own among them. -/
def greatestDepth : Nat := 127

/-! ## Values -/

mutual

/-- The value of a tree with at most so many nested containers. -/
def valueWithin? (depth : Nat) : Raw → Option Json
  | .scalar v => some v
  | .broken _ => none
  | .arr items => if depth = 0 then none else (itemsWithin? (depth - 1) items).map .arr
  | .obj members => if depth = 0 then none else (membersWithin? (depth - 1) members).map .obj

/-- The values of the items. -/
def itemsWithin? (depth : Nat) : List Raw → Option (List Json)
  | [] => some []
  | item :: items => do
    let v ← valueWithin? depth item
    let vs ← itemsWithin? depth items
    pure (v :: vs)

/-- The members with their values. -/
def membersWithin? (depth : Nat) : List (Option String × Raw) → Option (List (String × Json))
  | [] => some []
  | (name, item) :: members => do
    let name ← name
    let v ← valueWithin? depth item
    let vs ← membersWithin? depth members
    pure ((name, v) :: vs)

end

/-- The value of a text. -/
def value? : Raw → Option Json := valueWithin? greatestDepth

/-- The value of an item or member of the outermost container. -/
def partValue? : Raw → Option Json := valueWithin? (greatestDepth - 1)

/-- The members of those names with their values. The other members need
no value, but all names do. -/
def restrictMembers? (names : List String) :
    List (Option String × Raw) → Option (List (String × Json))
  | [] => some []
  | (name, item) :: members => do
    let name ← name
    let rest ← restrictMembers? names members
    if names.contains name then
      let v ← item.partValue?
      pure ((name, v) :: rest)
    else pure rest

/-- The value without the members of other names, if the outermost
container is an object. -/
def restrict? (names : List String) : Raw → Option Json
  | .obj members => (restrictMembers? names members).map .obj
  | r => r.value?

/-! ## Where reading stops -/

mutual

/-- Whether to read a tree as a value, with at most so many nested
containers, stops right behind it. Reading stops at the first part without
a value, and then still takes the ends of containers. -/
def stopsBehind (depth : Nat) : Raw → Bool
  | .scalar _ => true
  | .broken behind => behind
  | .arr items => depth ≠ 0 && itemsStopBehind (depth - 1) items
  | .obj members => depth ≠ 0 && membersStopBehind (depth - 1) members

/-- Whether the only item without a value is the last one, if any. -/
def itemsStopBehind (depth : Nat) : List Raw → Bool
  | [] => true
  | [item] => stopsBehind depth item
  | item :: items => (valueWithin? depth item).isSome && itemsStopBehind depth items

/-- Whether the only member without a value is the last one, if any. -/
def membersStopBehind (depth : Nat) : List (Option String × Raw) → Bool
  | [] => true
  | [(name, item)] => name.isSome && stopsBehind depth item
  | (name, item) :: members =>
    name.isSome && (valueWithin? depth item).isSome && membersStopBehind depth members

end

/-- The outcome of reading a part of the outermost container as a value. -/
def partOutcome (r : Raw) : Outcome Json :=
  match r.partValue? with
  | some v => .value v
  | none => .failed (r.stopsBehind (greatestDepth - 1))

end Raw
end Parley.Json
