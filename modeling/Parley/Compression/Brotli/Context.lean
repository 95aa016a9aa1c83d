/-
Contexts of symbols in Brotli.

Which code a literal belongs to depends on the two octets before it, and
which code a distance belongs to on the length of its piece. A map gives
every context of every type of blocks its code.
-/
import Parley.Compression.Brotli.Code

namespace Parley.Compression.Brotli

open Decoder

/-! ## Contexts -/

/-- Groups of characters, and the contexts that follow them. -/
def characterGroups : List (String × Nat) :=
  [("\t\n\r", 4), (" ", 8), ("\"'", 16), ("%", 20), ("(<[\x7b", 24), (")>]\x7d", 28), (",:;", 32),
    (".", 36), ("=", 40), ("0123456789", 44), ("AEIOU", 48), ("BCDFGHJKLMNPQRSTVWXYZ", 52),
    ("aeiou", 56), ("bcdfghjklmnpqrstvwxyz", 60)]

/-- What the last octet of a text says about the next one. -/
def lastOfText (octet : Nat) : Nat :=
  if 192 ≤ octet then 2 + octet % 2
  else if 128 ≤ octet then octet % 2
  else match characterGroups.find? fun group => group.1.toList.contains (Char.ofNat octet) with
    | some group => group.2
    | none => if 32 < octet && octet < 127 then 12 else 0

/-- What the last octet but one of a text says about the next one. -/
def earlierOfText (octet : Nat) : Nat :=
  let c := Char.ofNat octet
  if 224 ≤ octet then 2
  else if 127 ≤ octet || octet ≤ 32 then 0
  else if c.isLower then 3
  else if c.isAlphanum then 2
  else 1

/-- The size of an octet that stands for a number with a sign. -/
def magnitude (octet : Nat) : Nat :=
  ([1, 16, 64, 128, 192, 240, 255].filter fun bound => bound ≤ octet).length

/-- The context of a literal after two octets, the last one first. -/
def literalContext (mode last earlier : Nat) : Nat :=
  match mode with
  | 0 => last % 64
  | 1 => last / 4
  | 2 => lastOfText last ||| earlierOfText earlier
  | _ => 8 * magnitude last + magnitude earlier

/-- The context of a distance for a piece. -/
def distanceContext (length : Nat) : Nat := min (length - 2) 3

/-! ## Maps -/

/-- Reads so many numbers of codes, with those before them in reverse. The
first symbols after zero are runs of zeros. -/
def readEntries (code : PrefixCode) (longest size : Nat) : Nat → List Nat → Decoder (List Nat)
  | 0, done => pure done.reverse
  | count + 1, done =>
    if size ≤ done.length then do
      require (done.length = size)
      pure done.reverse
    else do
      let symbol ← code.read
      if symbol = 0 then readEntries code longest size count (0 :: done)
      else if symbol ≤ longest then
        let zeros ← atLeast (Nat.pow 2 symbol) symbol
        require (done.length + zeros ≤ size)
        readEntries code longest size count (List.replicate zeros 0 ++ done)
      else readEntries code longest size count ((symbol - longest) :: done)

/-- Replaces positions in a list by what stands there, where what was
named last stands in front. -/
def namesOf : List Nat → List Nat → List Nat
  | _, [] => []
  | names, position :: positions =>
    let name := names.getD position 0
    name :: namesOf (name :: names.eraseIdx position) positions

/-- A map from contexts to codes, and the number of codes. -/
structure ContextMap where
  codes : Nat
  entries : Array Nat
deriving Repr

/-- Reads a map of so many contexts. -/
def readMap (size : Nat) : Decoder ContextMap := do
  let codes ← readCount
  if codes = 1 then pure ⟨1, Array.replicate size 0⟩
  else
    let longest ← if ← bit then atLeast 1 4 else pure 0
    let code ← readCode (codes + longest)
    let entries ← readEntries code longest size size []
    let moved ← bit
    pure ⟨codes, (if moved then namesOf (List.range 256) entries else entries).toArray⟩

end Parley.Compression.Brotli
