/-
Prefix codes.

A code is a tree: its words are the paths to its symbols, and no word
begins another one. A canonical code is given by the lengths of its words
alone: in the order of lengths, and of symbols where lengths are equal,
every symbol gets the first path that is still free.
-/
import Parley.Compression.Decoder

namespace Parley.Compression

inductive PrefixCode where
  /-- A path to no symbol. -/
  | gap
  | symbol (n : Nat)
  | fork (zero one : PrefixCode)
deriving Repr

namespace PrefixCode

/-- Whether every path leads to a symbol. -/
def isComplete : PrefixCode → Bool
  | .gap => false
  | .symbol _ => true
  | .fork zero one => zero.isComplete && one.isComplete

/-! ## Canonical codes -/

/-- The symbols of a code with the lengths of their words. -/
abbrev Words := List (Nat × Nat)

/-- The greatest length of a word. -/
def greatestLength : Nat := 15

/-- The tree at a depth for the first of the words, and the words that it
has no room for. Its words are in order. -/
def grow : Nat → Nat → Words → PrefixCode × Words
  | _, _, [] => (.gap, [])
  | 0, depth, (length, n) :: words =>
    if length = depth then (.symbol n, words) else (.gap, (length, n) :: words)
  | levels + 1, depth, (length, n) :: words =>
    if length = depth then (.symbol n, words)
    else
      let (zero, words) := grow levels (depth + 1) ((length, n) :: words)
      let (one, words) := grow levels (depth + 1) words
      (.fork zero one, words)

/-- Whether a word comes first: the shorter one, or that of the smaller symbol. -/
def isBefore (a b : Nat × Nat) : Bool := a.1 < b.1 || (a.1 = b.1 && a.2 ≤ b.2)

/-- The canonical code of some words, unless there are too many of them. -/
def ofWords? (words : Words) : Option PrefixCode :=
  match grow greatestLength 0 (words.mergeSort isBefore) with
  | (code, []) => some code
  | _ => none

/-- The words whose lengths are given for one symbol after the other. No
symbol has a word of length zero. -/
def wordsOf (lengths : List Nat) : Words := lengths.zipIdx.filter fun word => word.1 ≠ 0

/-! ## Reading -/

/-- Reads a symbol. -/
def read : PrefixCode → Decoder Nat
  | .gap => throw .malformed
  | .symbol n => pure n
  | .fork zero one => do if ← Decoder.bit then one.read else zero.read

end PrefixCode
end Parley.Compression
