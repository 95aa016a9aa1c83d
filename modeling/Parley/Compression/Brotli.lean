/-
Data that Brotli has compressed.

The data comes in sections: octets as they are, octets to be passed over,
or commands with literals and distances. Symbols of these three sorts come
in blocks of several types, each with codes of its own. Data that ends too
early stands for what it holds until then.
-/
import Parley.Compression.Brotli.Command
import Parley.Compression.Brotli.Context
import Parley.Compression.Brotli.Dictionary

namespace Parley.Compression.Brotli

open Decoder

/-! ## Windows -/

/-- How far back a piece may be. -/
structure Window where
  width : Nat
  /-- The greatest number of bits behind the symbol of a distance. -/
  widest : Nat := 24
deriving DecidableEq, Repr

/-- The greatest distance of a piece after so many octets. -/
def Window.reach (w : Window) (written : Nat) : Nat := min written (Nat.pow 2 w.width - 16)

/-- Reads the window of all sections. -/
def readWindow : Decoder Window := do
  if !(← bit) then pure ⟨16, 24⟩
  else match ← bits 3 with
    | 0 =>
      match ← bits 3 with
      | 0 => pure ⟨17, 24⟩
      | 1 =>
        require !(← bit)
        let width ← bits 6
        require (10 ≤ width && width ≤ 30)
        pure ⟨width, 62⟩
      | n => pure ⟨8 + n, 24⟩
    | n => pure ⟨17 + n, 24⟩

/-! ## Blocks -/

/-- The blocks of one sort of symbols. -/
structure Blocks where
  /-- The number of types. -/
  types : Nat
  typeCode : PrefixCode
  sizeCode : PrefixCode
  /-- The type of the block, and of the one before. -/
  type : Nat := 0
  previous : Nat := 1
  /-- The number of symbols that are left in the block. -/
  left : Nat
deriving Repr

/-- The sizes of blocks. -/
def blockSizes : List (Nat × Nat) :=
  ranges 1 [2, 2, 2, 2, 3, 3, 3, 3, 4, 4, 4, 4, 5, 5, 5, 5, 6, 6, 7, 8, 9, 10, 11, 12, 13, 24]

/-- Reads how the blocks of one sort are told. -/
def readBlocks : Decoder Blocks := do
  let types ← readCount
  if types = 1 then pure { types := 1, typeCode := .gap, sizeCode := .gap, left := 0 }
  else
    let typeCode ← readCode (types + 2)
    let sizeCode ← readCode blockSizes.length
    let left ← inRange blockSizes (← sizeCode.read)
    pure { types := types, typeCode := typeCode, sizeCode := sizeCode, left := left }

/-- The type that a symbol stands for. -/
def Blocks.typeOf (b : Blocks) (symbol : Nat) : Nat :=
  let type :=
    match symbol with
    | 0 => b.previous
    | 1 => b.type + 1
    | n + 2 => n
  if b.types ≤ type then type - b.types else type

/-- Goes on to the next symbol, and to the next block if this one is at
its end. A single type has a block without end. -/
def Blocks.next (b : Blocks) : Decoder Blocks := do
  if b.types = 1 then pure b
  else if b.left ≠ 0 then pure { b with left := b.left - 1 }
  else
    let type := b.typeOf (← b.typeCode.read)
    let size ← inRange blockSizes (← b.sizeCode.read)
    pure { b with type := type, previous := b.type, left := size - 1 }

/-! ## Sections of commands -/

/-- What stands in front of the commands of a section. -/
structure Section where
  distances : DistanceScheme
  /-- How the contexts of literals are told, for each type. -/
  modes : Array Nat
  literalMap : ContextMap
  distanceMap : ContextMap
  literalCodes : Array PrefixCode
  commandCodes : Array PrefixCode
  distanceCodes : Array PrefixCode
deriving Repr

/-- How far the commands of a section were read. -/
structure Cursor where
  literals : Blocks
  commands : Blocks
  distances : Blocks
  recent : Recent
deriving Repr

/-- Reads what stands in front of the commands. -/
def readSection (w : Window) (recent : Recent) : Decoder (Section × Cursor) := do
  let literals ← readBlocks
  let commands ← readBlocks
  let distances ← readBlocks
  let low ← bits 2
  let direct ← bits 4
  let scheme : DistanceScheme := ⟨direct * Nat.pow 2 low, low, w.widest⟩
  let modes ← times (bits 2) literals.types
  let literalMap ← readMap (64 * literals.types)
  let distanceMap ← readMap (4 * distances.types)
  let literalCodes ← times (readCode 256) literalMap.codes
  let commandCodes ← times (readCode commandCount) commands.types
  let distanceCodes ← times (readCode scheme.count) distanceMap.codes
  pure (⟨scheme, modes.toArray, literalMap, distanceMap, literalCodes.toArray,
    commandCodes.toArray, distanceCodes.toArray⟩, ⟨literals, commands, distances, recent⟩)

/-- The context of the next literal. -/
def contextHere (mode : Nat) : Decoder Nat := fun s =>
  let size := s.output.size
  let before (distance : Nat) :=
    if size < distance then 0 else (s.output.getD (size - distance) 0).toNat
  .ok (literalContext mode (before 1) (before 2)) s

/-- Writes so many literals. -/
def writeLiterals (sec : Section) : Nat → Blocks → Decoder Blocks
  | 0, blocks => pure blocks
  | count + 1, blocks => do
    let blocks ← blocks.next
    let context ← contextHere (sec.modes.getD blocks.type 0)
    let index ← demand sec.literalMap.entries[64 * blocks.type + context]?
    let code ← demand sec.literalCodes[index]?
    emit (UInt8.ofNat (← code.read))
    writeLiterals sec count blocks

/-- Where a piece comes from. -/
structure Source where
  distance : Nat
  /-- The last distances, if the piece is one that was written before. -/
  recent : Recent
  /-- The blocks of distances from now on. -/
  blocks : Blocks
deriving Repr

/-- Reads where a piece comes from. -/
def readSource (sec : Section) (c : Cursor) (length : Nat) : Decoder Source := do
  let blocks ← c.distances.next
  let index ← demand sec.distanceMap.entries[4 * blocks.type + distanceContext length]?
  let code ← demand sec.distanceCodes[index]?
  let symbol ← code.read
  let distance ← readDistance sec.distances c.recent symbol
  pure ⟨distance, if symbol = 0 then c.recent else c.recent.push distance, blocks⟩

/-- Writes a word of a length, but no more than so many octets: how many. -/
def writeWord (length number left : Nat) : Decoder Nat := do
  let word ← demand (word? length number)
  require (word.length ≤ left)
  word.forM emit
  pure word.length

/-- Writes what the commands of a section stand for, until so many octets
are written. There are no more commands than those that write or read
something. -/
def writeCommands (w : Window) (sec : Section) : Nat → Nat → Cursor → Decoder Recent
  | 0, _, _ => throw .malformed
  | count + 1, left, c => do
    let commands ← c.commands.next
    let code ← demand sec.commandCodes[commands.type]?
    let command ← readCommand (← code.read)
    require (command.literals ≤ left)
    let literals ← writeLiterals sec command.literals c.literals
    let c := { c with commands := commands, literals := literals }
    let left := left - command.literals
    if left = 0 then pure c.recent
    else
      let source ←
        if command.isNear then pure ⟨c.recent.headD 0, c.recent, c.distances⟩
        else readSource sec c command.length
      let c := { c with distances := source.blocks }
      let reach := w.reach (← written)
      if source.distance ≤ reach then
        require (command.length ≤ left)
        repeatAt source.distance command.length
        let left := left - command.length
        if left = 0 then pure source.recent
        else writeCommands w sec count left { c with recent := source.recent }
      else
        let size ← writeWord command.length (source.distance - reach - 1) left
        let left := left - size
        if left = 0 then pure c.recent else writeCommands w sec count left c

/-! ## Sections -/

/-- Reads what is left of an octet, which has to be empty. -/
def readPadding : Decoder Unit := do require ((← leftover) = 0)

/-- Reads a number of several digits with so many bits each. The highest
digit is not zero, unless there are no more than the fewest. -/
def readDigits (width digits fewest : Nat) : Decoder Nat := do
  let n ← bits (width * digits)
  require (digits ≤ fewest || Nat.pow 2 (width * (digits - 1)) ≤ n)
  pure n

/-- Passes over octets. -/
def passOver : Decoder Unit := do
  require !(← bit)
  let digits ← bits 2
  let size ← if digits = 0 then pure 0 else do pure ((← readDigits 8 digits 1) + 1)
  readPadding
  skip size

/-- Writes what a section stands for. -/
def writeSection (w : Window) (recent : Recent) (isLast : Bool) : Decoder Recent := do
  match ← bits 2 with
  | 3 =>
    passOver
    pure recent
  | more =>
    let size := (← readDigits 4 (4 + more) 4) + 1
    let isStored ← if isLast then pure false else bit
    if isStored then
      readPadding
      transfer size
      pure recent
    else
      let (sec, c) ← readSection w recent
      writeCommands w sec (size + (← available)) size c

/-- Writes what the sections stand for. The last one may be empty. -/
def writeSections (w : Window) : Nat → Recent → Decoder Unit
  | 0, _ => throw .short
  | count + 1, recent => do
    let isLast ← bit
    let isEmpty ← if isLast then bit else pure false
    let recent ← if isEmpty then pure recent else writeSection w recent isLast
    if isLast then readPadding else writeSections w count recent

/-- Writes what some data stands for. -/
def writeAll : Decoder Unit := do
  let w ← readWindow
  writeSections w (← available) firstRecent

/-- What some data stands for, if nothing stands behind it. -/
def decode? (octets : List UInt8) : Option (List UInt8) :=
  match writeAll.runOn octets with
  | .ok _ s => whole? s
  | .error .short s => some s.output.toList
  | .error .malformed _ => none

end Parley.Compression.Brotli
