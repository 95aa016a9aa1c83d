/-
UTF-8 as a list of octets.

`encode` writes a text. `decode?` reads octets and refuses whatever is
not a shortest form of a scalar value; `decodeLossy` puts U+FFFD for each
longest beginning of a character that breaks off, and for each octet that
can begin none.
-/
namespace Parley.Text.Utf8

abbrev Octets := List UInt8

/-- The octets of one character. -/
def encodeChar (c : Char) : Octets :=
  let n := c.toNat
  if n < 0x80 then [n.toUInt8]
  else if n < 0x800 then [(0xC0 + n / 64).toUInt8, (0x80 + n % 64).toUInt8]
  else if n < 0x10000 then
    [(0xE0 + n / 4096).toUInt8, (0x80 + n / 64 % 64).toUInt8, (0x80 + n % 64).toUInt8]
  else
    [(0xF0 + n / 262144).toUInt8, (0x80 + n / 4096 % 64).toUInt8, (0x80 + n / 64 % 64).toUInt8,
      (0x80 + n % 64).toUInt8]

/-- The octets of a text. -/
def encode (s : List Char) : Octets := s.flatMap encodeChar

/-- What a first octet announces: the payload bits it holds and, for each
octet to follow, the least and greatest value it may have. -/
structure Lead where
  payload : Nat
  tails : List (Nat × Nat)

def tail : Nat × Nat := (0x80, 0xBF)

/-- The first octets that a character can have. -/
def lead? (b : UInt8) : Option Lead :=
  let n := b.toNat
  if n < 0x80 then some ⟨n, []⟩
  else if n < 0xC2 then none
  else if n < 0xE0 then some ⟨n - 0xC0, [tail]⟩
  else if n = 0xE0 then some ⟨0, [(0xA0, 0xBF), tail]⟩
  else if n = 0xED then some ⟨0xD, [(0x80, 0x9F), tail]⟩
  else if n < 0xF0 then some ⟨n - 0xE0, [tail, tail]⟩
  else if n = 0xF0 then some ⟨0, [(0x90, 0xBF), tail, tail]⟩
  else if n < 0xF4 then some ⟨n - 0xF0, [tail, tail, tail]⟩
  else if n = 0xF4 then some ⟨4, [(0x80, 0x8F), tail, tail]⟩
  else none

/-- Where a decoder stands: between characters, or with payload bits read
and octets owed. -/
structure Pending where
  payload : Nat
  owed : List (Nat × Nat)

/-- Reads octets with a character begun or not. A `none` in the result is
a beginning that broke off or an octet that begins nothing. -/
def scan (begun : Option Pending) : Octets → List (Option Char)
  | [] => if begun.isSome then [none] else []
  | b :: rest =>
    match begun with
    | some ⟨payload, (low, high) :: owed⟩ =>
      if low ≤ b.toNat ∧ b.toNat ≤ high then
        let payload := payload * 64 + b.toNat % 64
        if owed.isEmpty then some (Char.ofNat payload) :: scan none rest
        else scan (some ⟨payload, owed⟩) rest
      else
        match lead? b with
        | none => none :: none :: scan none rest
        | some ⟨payload, []⟩ => none :: some (Char.ofNat payload) :: scan none rest
        | some ⟨payload, owed⟩ => none :: scan (some ⟨payload, owed⟩) rest
    | _ =>
      match lead? b with
      | none => none :: scan none rest
      | some ⟨payload, []⟩ => some (Char.ofNat payload) :: scan none rest
      | some ⟨payload, owed⟩ => scan (some ⟨payload, owed⟩) rest

/-- The text that the octets spell, if they are well formed. -/
def decode? (octets : Octets) : Option (List Char) := (scan none octets).mapM id

/-- The text that the octets spell, with U+FFFD for what is not well formed. -/
def decodeLossy (octets : Octets) : List Char :=
  (scan none octets).map fun c => c.getD '\uFFFD'

/-- The octets of a string. -/
def ofString (s : String) : Octets := encode s.toList

end Parley.Text.Utf8
