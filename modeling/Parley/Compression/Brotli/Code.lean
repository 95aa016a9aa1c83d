/-
Prefix codes and small numbers as Brotli writes them.

A code with up to four words names its symbols. Any other code gives the
lengths of its words, themselves as symbols of a code whose lengths stand
in front.
-/
import Parley.Compression.PrefixCode

namespace Parley.Compression.Brotli

open Decoder
open PrefixCode (Words)

/-- Reads a number from 1 to 256. -/
def readCount : Decoder Nat := do
  if ← bit then
    let width ← bits 3
    atLeast (Nat.pow 2 width + 1) width
  else pure 1

/-! ## Codes of few words -/

/-- Reads a code that names its symbols, out of so many. -/
def readNamed (alphabet : Nat) : Decoder PrefixCode := do
  let count ← atLeast 1 2
  let symbols ← times (bits ((alphabet - 1).log2 + 1)) count
  require (symbols.all (· < alphabet) && decide symbols.Nodup)
  match symbols with
  | [a] => pure (.symbol a)
  | [a, b] => demand (PrefixCode.ofWords? [(1, a), (1, b)])
  | [a, b, c] => demand (PrefixCode.ofWords? [(1, a), (2, b), (2, c)])
  | [a, b, c, d] =>
    let skewed ← bit
    demand (PrefixCode.ofWords?
      (if skewed then [(1, a), (2, b), (3, c), (3, d)] else [(2, a), (2, b), (2, c), (2, d)]))
  | _ => throw .malformed

/-! ## Codes given by lengths -/

/-- The order in which the widths of lengths are given. -/
def lengthOrder : List Nat := [1, 2, 3, 4, 0, 5, 17, 6, 16, 7, 8, 9, 10, 11, 12, 13, 14, 15]

/-- The code of widths. -/
def widthCode : PrefixCode :=
  .fork (.fork (.symbol 0) (.symbol 3))
    (.fork (.symbol 4) (.fork (.symbol 2) (.fork (.symbol 1) (.symbol 5))))

/-- Reads the words for lengths until there is no room for more. A word of
five bits takes one part of the room. -/
def readWidths : List Nat → Nat → Decoder Words
  | [], _ => pure []
  | symbol :: order, room =>
    if room = 0 then pure []
    else do
      let width ← widthCode.read
      if width = 0 then readWidths order room
      else
        let taken := Nat.pow 2 (5 - width)
        require (taken ≤ room)
        pure ((width, symbol) :: (← readWidths order (room - taken)))

/-- The code of some words: a single one has no bits, and several ones
leave no gap. -/
def codeOf : Words → Decoder PrefixCode
  | [(_, symbol)] => pure (.symbol symbol)
  | words => do
    let code ← demand (PrefixCode.ofWords? words)
    require code.isComplete
    pure code

/-- How far the lengths of the words of a code were read. -/
structure Lengths where
  /-- The lengths, the last one first. -/
  done : List Nat := []
  /-- The room for words, of which the longest take one part each. It is
  negative once there are too many words. -/
  room : Int := 32768
  /-- The last length that is not zero. -/
  last : Nat := 8
  /-- The length that came again, and how often. -/
  again : Nat := 0
  times : Nat := 0

namespace Lengths

/-- The part of the room that a word of a length takes. -/
def partOf (length : Nat) : Nat := if length = 0 then 0 else Nat.pow 2 (15 - length)

/-- Takes a length. -/
def add (l : Lengths) (length : Nat) : Lengths :=
  { l with
    done := length :: l.done
    room := l.room - partOf length
    last := if length = 0 then l.last else length
    times := 0 }

/-- Takes a length that comes again. A number that follows another one for
the same length stands for its higher digits. -/
def repeated (l : Lengths) (alphabet length width : Nat) : Decoder Lengths := do
  let before := if l.again = length then l.times else 0
  let times ← atLeast (3 + (before - 2) * Nat.pow 2 width) width
  let more := times - before
  require (l.done.length + more ≤ alphabet)
  pure { l with
    done := List.replicate more length ++ l.done
    room := l.room - more * partOf length
    again := length
    times := times }

/-- Reads lengths until every symbol has one or the words take just all
the room. Every step takes one length at least. -/
def read (code : PrefixCode) (alphabet : Nat) : Nat → Lengths → Decoder Lengths
  | 0, l => pure l
  | count + 1, l =>
    if alphabet ≤ l.done.length || l.room = 0 then pure l
    else do
      match ← code.read with
      | 16 => read code alphabet count (← l.repeated alphabet l.last 2)
      | 17 => read code alphabet count (← l.repeated alphabet 0 3)
      | length => read code alphabet count (l.add length)

end Lengths

/-- Reads a code that gives the lengths of its words, without the first
widths. -/
def readMeasured (alphabet skipped : Nat) : Decoder PrefixCode := do
  let code ← codeOf (← readWidths (lengthOrder.drop skipped) 32)
  let lengths ← Lengths.read code alphabet alphabet {}
  require (lengths.room = 0)
  demand (PrefixCode.ofWords? (PrefixCode.wordsOf lengths.done.reverse))

/-- Reads a code for so many symbols. -/
def readCode (alphabet : Nat) : Decoder PrefixCode := do
  match ← bits 2 with
  | 1 => readNamed alphabet
  | skipped => readMeasured alphabet skipped

end Parley.Compression.Brotli
