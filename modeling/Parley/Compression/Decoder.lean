/-
Decoders of compressed data.

A decoder reads bits, the lowest of each octet first, and writes octets.
It halts where the data runs short, or where the data is malformed; what
it has written until then is kept.
-/
namespace Parley.Compression

/-- Why a decoder halts before its end. -/
inductive Halt where
  /-- The data ends too early. -/
  | short
  | malformed
deriving DecidableEq, Repr

/-- How far a decoder has come. -/
structure Progress where
  input : Array UInt8
  /-- The number of bits that were read. -/
  position : Nat := 0
  output : Array UInt8 := #[]
deriving Repr

abbrev Decoder := EStateM Halt Progress

namespace Decoder

/-! ## Reading -/

/-- Reads a bit. -/
def bit : Decoder Bool := fun s =>
  match s.input[s.position / 8]? with
  | some octet => .ok (octet.toNat.testBit (s.position % 8)) { s with position := s.position + 1 }
  | none => .error .short s

/-- Reads a number of so many bits, the lowest first. -/
def bits : Nat → Decoder Nat
  | 0 => pure 0
  | n + 1 => do
    let low ← bit
    let high ← bits n
    pure (low.toNat + 2 * high)

/-- Reads a number that is at least so great, by so many bits. -/
def atLeast (least width : Nat) : Decoder Nat := do pure (least + (← bits width))

/-- Reads an octet. -/
def octet : Decoder UInt8 := do pure (UInt8.ofNat (← bits 8))

/-- Reads the bits that are left of an octet. -/
def leftover : Decoder Nat := fun s => bits ((8 - s.position % 8) % 8) s

/-- Passes over so many octets. -/
def skip : Nat → Decoder Unit
  | 0 => pure ()
  | n + 1 => do
    let _ ← octet
    skip n

/-- Refuses data for which a condition does not hold. -/
def require (condition : Bool) : Decoder Unit := if condition then pure () else throw .malformed

/-- Takes a value that has to be there. -/
def demand {α : Type} : Option α → Decoder α
  | some a => pure a
  | none => throw .malformed

/-- Runs a decoder several times. -/
def times {α : Type} (d : Decoder α) : Nat → Decoder (List α)
  | 0 => pure []
  | n + 1 => do
    let a ← d
    let as ← times d n
    pure (a :: as)

/-- The number of bits of the whole input: what bounds the steps of a
decoder that read something. -/
def available : Decoder Nat := fun s => .ok (8 * s.input.size) s

/-! ## Writing -/

/-- The number of octets that were written. -/
def written : Decoder Nat := fun s => .ok s.output.size s

/-- Writes an octet. -/
def emit (octet : UInt8) : Decoder Unit := modify fun s => { s with output := s.output.push octet }

/-- Writes so many octets of the input. -/
def transfer : Nat → Decoder Unit
  | 0 => pure ()
  | n + 1 => do
    emit (← octet)
    transfer n

/-- Writes again what was written so many octets ago. -/
def again (distance : Nat) : Decoder Unit := fun s =>
  match if distance ≤ s.output.size then s.output[s.output.size - distance]? else none with
  | some octet => .ok () { s with output := s.output.push octet }
  | none => .error .malformed s

/-- Writes so many octets again, each as it was written at a distance. -/
def repeatAt (distance : Nat) : Nat → Decoder Unit
  | 0 => pure ()
  | n + 1 => do
    again distance
    repeatAt distance n

/-! ## Ranges -/

/-- Consecutive ranges of numbers, each with its first number and the bits
that choose a number in it. -/
def ranges (first : Nat) : List Nat → List (Nat × Nat)
  | [] => []
  | width :: widths => (first, width) :: ranges (first + Nat.pow 2 width) widths

/-- Reads a number in one of several ranges. -/
def inRange (table : List (Nat × Nat)) (index : Nat) : Decoder Nat := do
  let (first, width) ← demand table[index]?
  atLeast first width

/-! ## Running -/

/-- Runs a decoder on some octets. -/
def runOn (d : Decoder Unit) (octets : List UInt8) : EStateM.Result Halt Progress Unit :=
  d.run { input := octets.toArray }

/-- What was written when all octets of the input were read, the last one
perhaps in part. -/
def whole? (s : Progress) : Option (List UInt8) :=
  if 8 * s.input.size < s.position + 8 then some s.output.toList else none

end Decoder
end Parley.Compression
