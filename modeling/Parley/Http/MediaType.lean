/-
Media types: what a content type says of a body.

A media type is a kind and a subtype with a slash between, and parameters
that each follow a semicolon. What stands behind the last plus sign of a
subtype is its suffix. A content type that is not well formed names no
media type.
-/
namespace Parley.Http

/-- A media type without its parameters, in lower case. -/
structure MediaType where
  kind : List Char
  subtype : List Char
  suffix : Option (List Char)
deriving DecidableEq, Repr

namespace MediaType

/-- Whether a character may stand in a name. -/
def isNameChar (c : Char) : Bool :=
  c.isAlphanum || "!#$&-^_.+%'*|~".toList.contains c || c = '\x60'

/-! ## Parameters -/

/-- Where a reader of parameters stands. -/
inductive Place where
  /-- Behind a semicolon. -/
  | start
  | name
  /-- In a value, with something of it read or not. -/
  | value (begun : Bool)
  /-- In a value in quotes. -/
  | quoted (begun : Bool)
  /-- Behind the quotes. -/
  | closed
deriving DecidableEq, Repr

namespace Place

/-- Takes one character. A quote that opens a value is part of it if
another one follows at once. -/
def take (c : Char) : Place → Option Place
  | start => if c = ' ' then some start else if isNameChar c then some name else none
  | name => if isNameChar c then some name else if c = '=' then some (value false) else none
  | value begun =>
    if isNameChar c then some (value true)
    else if c = '"' ∧ !begun then some (quoted false)
    else if c = ';' ∧ begun then some start
    else none
  | quoted begun =>
    if c = '"' ∧ begun then some closed
    else if 0x20 ≤ c.toNat ∧ c.toNat ≠ 0x7F then some (quoted true)
    else none
  | closed => if c = ' ' then some closed else if c = ';' then some start else none

/-- Whether the parameters may end here. -/
def isEnd : Place → Bool
  | start | value _ | closed => true
  | name | quoted _ => false

/-- Takes all characters. -/
def takeAll (p : Place) : List Char → Option Place
  | [] => some p
  | c :: s => (p.take c).bind fun p => p.takeAll s

end Place

/-- Whether what stands behind the first semicolon is well formed. -/
def wellFormedParameters (s : List Char) : Bool := (Place.start.takeAll s).any Place.isEnd

/-! ## Types -/

/-- Splits a subtype at its last plus sign, unless that is its first
character. -/
def splitSuffix (s : List Char) : List Char × Option (List Char) :=
  let suffix := (s.reverse.takeWhile (· ≠ '+')).reverse
  let subtype := s.take (s.length - suffix.length - 1)
  if subtype.isEmpty then (s, none) else (subtype, some suffix)

/-- The media type that a text names. -/
def ofText? (s : List Char) : Option MediaType :=
  let lower (s : List Char) := s.map Char.toLower
  let kind := s.takeWhile isNameChar
  match s.dropWhile isNameChar with
  | '/' :: rest =>
    let name := rest.takeWhile isNameChar
    let isWellFormed := match rest.dropWhile isNameChar with
      | [] => true
      | ';' :: parameters => !name.isEmpty && wellFormedParameters parameters
      | _ => false
    if kind.isEmpty || !isWellFormed then none
    else
      let (subtype, suffix) := splitSuffix (lower name)
      some ⟨lower kind, subtype, suffix⟩
  | _ => none

/-- Whether a body of that type is JSON: the subtype or its suffix says so. -/
def isJson (m : MediaType) : Bool :=
  m.subtype = "json".toList || m.suffix = some "json".toList

end MediaType
end Parley.Http
