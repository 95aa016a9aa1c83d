/-
Commands and distances in Brotli.

A command says how many literals come next and how long the piece behind
them is that was written before. Its distance is named by a symbol, or is
the last one again.
-/
import Parley.Compression.Decoder

namespace Parley.Compression.Brotli

open Decoder

/-! ## Commands -/

structure Command where
  /-- The number of literals. -/
  literals : Nat
  /-- The length of the piece. -/
  length : Nat
  /-- Whether the piece is at the last distance, without a symbol for it. -/
  isNear : Bool
deriving DecidableEq, Repr

/-- The number of symbols for commands. -/
def commandCount : Nat := 704

/-- The numbers of literals. -/
def literalCounts : List (Nat × Nat) :=
  ranges 0 [0, 0, 0, 0, 0, 0, 1, 1, 2, 2, 3, 3, 4, 4, 5, 5, 6, 7, 8, 9, 10, 12, 14, 24]

/-- The lengths of pieces. -/
def pieceLengths : List (Nat × Nat) :=
  ranges 2 [0, 0, 0, 0, 0, 0, 0, 0, 1, 1, 2, 2, 3, 3, 4, 4, 5, 5, 6, 7, 8, 9, 10, 24]

/-- The groups of literal counts and of lengths that a group of symbols is
made of. The first two groups of symbols are those without a distance. -/
def commandGroups : List (Nat × Nat) :=
  [(0, 0), (0, 1), (0, 0), (0, 1), (1, 0), (1, 1), (0, 2), (2, 0), (1, 2), (2, 1), (2, 2)]

/-- Reads what is behind the symbol of a command. -/
def readCommand (symbol : Nat) : Decoder Command := do
  let (literals, lengths) ← demand commandGroups[symbol / 64]?
  let count ← demand literalCounts[8 * literals + symbol / 8 % 8]?
  let length ← demand pieceLengths[8 * lengths + symbol % 8]?
  let count ← atLeast count.1 count.2
  let length ← atLeast length.1 length.2
  pure ⟨count, length, symbol < 128⟩

/-! ## Distances -/

/-- The last four distances, the last one first. -/
abbrev Recent := List Nat

/-- The distances that count as the last ones in the beginning. -/
def firstRecent : Recent := [4, 11, 15, 16]

/-- How symbols for distances are made. -/
structure DistanceScheme where
  /-- The number of distances that have a symbol of their own. -/
  direct : Nat
  /-- The number of low bits of a distance that its symbol holds. -/
  low : Nat
  /-- The greatest number of bits behind a symbol. -/
  widest : Nat
deriving DecidableEq, Repr

/-- The number of symbols for distances. -/
def DistanceScheme.count (d : DistanceScheme) : Nat := 16 + d.direct + d.widest * Nat.pow 2 (d.low + 1)

/-- The symbols for the last distances and for those beside the last two:
which one is meant, and how far beside it. -/
def recentSymbols : List (Nat × Int) :=
  [(0, 0), (1, 0), (2, 0), (3, 0), (0, -1), (0, 1), (0, -2), (0, 2), (0, -3), (0, 3), (1, -1),
    (1, 1), (1, -2), (1, 2), (1, -3), (1, 3)]

/-- Reads what is behind the symbol of a distance. -/
def readDistance (d : DistanceScheme) (recent : Recent) (symbol : Nat) : Decoder Nat :=
  match recentSymbols[symbol]? with
  | some (index, offset) => do
    let distance := (recent.getD index 0 : Int) + offset
    require (0 < distance)
    pure distance.toNat
  | none =>
    let symbol := symbol - 16
    if symbol < d.direct then pure (symbol + 1)
    else do
      let symbol := symbol - d.direct
      let group := symbol / Nat.pow 2 d.low
      let width := 1 + group / 2
      let high ← atLeast ((2 + group % 2) * Nat.pow 2 width - 4) width
      pure (high * Nat.pow 2 d.low + symbol % Nat.pow 2 d.low + d.direct + 1)

/-- The last distances after one more. -/
def Recent.push (recent : Recent) (distance : Nat) : Recent := (distance :: recent).take 4

end Parley.Compression.Brotli
