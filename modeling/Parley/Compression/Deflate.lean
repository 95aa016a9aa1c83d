/-
Deflated data in a frame with a checksum.

The data comes in blocks: octets as they are, or symbols of two prefix
codes, where a symbol is an octet, the end of the block, or the length of
a piece that was written before. The codes of a block are fixed or stand
in front of it.
-/
import Parley.Compression.PrefixCode

namespace Parley.Compression.Deflate

open Decoder

/-! ## Symbols -/

/-- The symbol for the end of a block. Those below it are octets, and those
above it are lengths. -/
def endOfBlock : Nat := 256

/-- The lengths of pieces. -/
def lengths : List (Nat × Nat) :=
  ranges 3 [0, 0, 0, 0, 0, 0, 0, 0, 1, 1, 1, 1, 2, 2, 2, 2, 3, 3, 3, 3, 4, 4, 4, 4, 5, 5, 5, 5]
    ++ [(258, 0)]

/-- The distances of pieces. -/
def distances : List (Nat × Nat) :=
  ranges 1 [0, 0, 0, 0, 1, 1, 2, 2, 3, 3, 4, 4, 5, 5, 6, 6, 7, 7, 8, 8, 9, 9, 10, 10, 11, 11,
    12, 12, 13, 13]

/-- The codes of a block. -/
structure Codes where
  symbols : PrefixCode
  distances : PrefixCode
deriving Repr

/-- Writes what the symbols of a block stand for. Every symbol has a bit
at least, so that there are no more symbols than bits. -/
def writeSymbols (codes : Codes) : Nat → Decoder Unit
  | 0 => throw .short
  | count + 1 => do
    let symbol ← codes.symbols.read
    if symbol < endOfBlock then
      emit (UInt8.ofNat symbol)
      writeSymbols codes count
    else if symbol = endOfBlock then pure ()
    else
      let length ← inRange lengths (symbol - endOfBlock - 1)
      let distance ← inRange distances (← codes.distances.read)
      repeatAt distance length
      writeSymbols codes count

/-! ## Codes -/

/-- A code that is complete, or has one word at most. -/
def codeOf? (lengths : List Nat) : Option PrefixCode :=
  let words := PrefixCode.wordsOf lengths
  (PrefixCode.ofWords? words).filter fun code => words.length ≤ 1 || code.isComplete

/-- The codes of blocks that bring none. -/
def fixedCodes : Option Codes := do
  let symbols ← codeOf? (List.replicate 144 8 ++ List.replicate 112 9 ++ List.replicate 24 7
    ++ List.replicate 8 8)
  let distances ← codeOf? (List.replicate 32 5)
  pure ⟨symbols, distances⟩

/-- The order in which the lengths of the words for lengths are given. -/
def lengthOrder : List Nat := [16, 17, 18, 0, 8, 7, 9, 6, 10, 5, 11, 4, 12, 3, 13, 2, 14, 1, 15]

/-- Reads so many lengths of words, with those before them in reverse. A
symbol is a length, or says how often the last length or zero comes again. -/
def readLengths (code : PrefixCode) (total : Nat) : Nat → List Nat → Decoder (List Nat)
  | 0, _ => throw .malformed
  | count + 1, done =>
    if total ≤ done.length then do
      require (done.length = total)
      pure done.reverse
    else do
      match ← code.read with
      | 16 =>
        let last ← demand done.head?
        let n ← atLeast 3 2
        readLengths code total count (List.replicate n last ++ done)
      | 17 =>
        let n ← atLeast 3 3
        readLengths code total count (List.replicate n 0 ++ done)
      | 18 =>
        let n ← atLeast 11 7
        readLengths code total count (List.replicate n 0 ++ done)
      | length => readLengths code total count (length :: done)

/-- Reads the codes that stand in front of a block. -/
def readCodes : Decoder Codes := do
  let symbols ← atLeast 257 5
  let distances ← atLeast 1 5
  let given ← atLeast 4 4
  require (symbols ≤ 286 && distances ≤ 30)
  let words := (← times (bits 3) given).zip lengthOrder
  let lengthCode ← demand (PrefixCode.ofWords? (words.filter fun word => word.1 ≠ 0))
  require lengthCode.isComplete
  let total := symbols + distances
  let lengths ← readLengths lengthCode total (total + 1) []
  let symbolCode ← demand (codeOf? (lengths.take symbols))
  let distanceCode ← demand (codeOf? (lengths.drop symbols))
  pure ⟨symbolCode, distanceCode⟩

/-! ## Blocks -/

/-- Writes the octets of a block that is stored as it is. Their number is
given twice, the second time with every bit turned. -/
def writeStored : Decoder Unit := do
  let _ ← leftover
  let size ← bits 16
  let turned ← bits 16
  require (size + turned = 65535)
  transfer size

/-- Writes what the blocks stand for. -/
def writeBlocks (most : Nat) : Nat → Decoder Unit
  | 0 => throw .short
  | count + 1 => do
    let isLast ← bit
    match ← bits 2 with
    | 0 => writeStored
    | 1 => writeSymbols (← demand fixedCodes) most
    | 2 => writeSymbols (← readCodes) most
    | _ => throw .malformed
    if isLast then pure () else writeBlocks most count

/-! ## Frames -/

/-- The checksum of some octets: the sum of all, and the sum of the sums. -/
def checksum (octets : Array UInt8) : Nat :=
  let modulus := 65521
  let (sum, sums) := octets.foldl (fun (sum, sums) octet =>
    let sum := (sum + octet.toNat) % modulus
    (sum, (sums + sum) % modulus)) (1, 0)
  sums * 65536 + sum

/-- Whether the two octets in front tell of deflated data without a
dictionary. -/
def isHeader (method flags : Nat) : Bool :=
  (method * 256 + flags) % 31 = 0 && method % 16 = 8 && method / 16 ≤ 7 && !flags.testBit 5

/-- Writes what a frame holds. -/
def writeFrame : Decoder Unit := do
  let method ← bits 8
  let flags ← bits 8
  require (isHeader method flags)
  let most ← available
  writeBlocks most most
  let _ ← leftover
  let sum ← times (bits 8) 4
  let output := (← get).output
  require (sum.foldl (fun n octet => n * 256 + octet) 0 = checksum output)

/-- What a frame holds, if it is whole and nothing stands behind it. -/
def decode? (octets : List UInt8) : Option (List UInt8) :=
  match writeFrame.runOn octets with
  | .ok _ s => whole? s
  | .error _ _ => none

end Parley.Compression.Deflate
