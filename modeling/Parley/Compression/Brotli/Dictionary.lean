/-
Pieces that are common words.

A distance beyond everything that was written names a word: the number of
the word among those of its length, and one of the forms that a word may
have.
-/
import Parley.Compression.Brotli.Words

namespace Parley.Compression.Brotli

/-! ## Changes -/

/-- What is done to a word. -/
inductive Change where
  | same
  /-- The first character becomes a capital letter. -/
  | capital
  /-- All characters become capital letters. -/
  | capitals
  /-- So many octets are left out in front. -/
  | behead (count : Nat)
  /-- So many octets are left out at the end. -/
  | shorten (count : Nat)
deriving DecidableEq, Repr

/-- The number of octets of a character that begins with an octet. -/
def characterSize (octet : UInt8) : Nat := if octet < 0xC0 then 1 else if octet < 0xE0 then 2 else 3

/-- Makes all characters capital letters, by their octets. Letters of Latin,
Greek and Cyrillic are meant; what else stands there is changed as if it
were one of them. -/
def capitalize : List UInt8 → List UInt8
  | [] => []
  | a :: rest =>
    if characterSize a = 1 then (if 0x61 ≤ a && a ≤ 0x7A then a ^^^ 0x20 else a) :: capitalize rest
    else match rest with
      | [] => [a]
      | b :: rest =>
        if characterSize a = 2 then a :: (b ^^^ 0x20) :: capitalize rest
        else match rest with
          | [] => [a, b]
          | c :: rest => a :: b :: (c ^^^ 0x05) :: capitalize rest

/-- Changes a word. -/
def Change.apply : Change → List UInt8 → List UInt8
  | .same, word => word
  | .capital, word =>
    let size := (word.head?.map characterSize).getD 0
    capitalize (word.take size) ++ word.drop size
  | .capitals, word => capitalize word
  | .behead count, word => word.drop count
  | .shorten count, word => word.take (word.length - count)

/-! ## Forms -/

/-- The forms of words: what stands in front, the change, and what stands
behind. -/
def wordForms : List (String × Change × String) :=
  [("", .same, ""), ("", .same, " "), (" ", .same, " "), ("", .behead 1, ""), ("", .capital, " "),
    ("", .same, " the "), (" ", .same, ""), ("s ", .same, " "), ("", .same, " of "),
    ("", .capital, ""), ("", .same, " and "), ("", .behead 2, ""), ("", .shorten 1, ""),
    (", ", .same, " "), ("", .same, ", "), (" ", .capital, " "), ("", .same, " in "),
    ("", .same, " to "), ("e ", .same, " "), ("", .same, "\""), ("", .same, "."),
    ("", .same, "\">"), ("", .same, "\n"), ("", .shorten 3, ""), ("", .same, "]"),
    ("", .same, " for "), ("", .behead 3, ""), ("", .shorten 2, ""), ("", .same, " a "),
    ("", .same, " that "), (" ", .capital, ""), ("", .same, ". "), (".", .same, ""),
    (" ", .same, ", "), ("", .behead 4, ""), ("", .same, " with "), ("", .same, "'"),
    ("", .same, " from "), ("", .same, " by "), ("", .behead 5, ""), ("", .behead 6, ""),
    (" the ", .same, ""), ("", .shorten 4, ""), ("", .same, ". The "), ("", .capitals, ""),
    ("", .same, " on "), ("", .same, " as "), ("", .same, " is "), ("", .shorten 7, ""),
    ("", .shorten 1, "ing "), ("", .same, "\n\t"), ("", .same, ":"), (" ", .same, ". "),
    ("", .same, "ed "), ("", .behead 9, ""), ("", .behead 7, ""), ("", .shorten 6, ""),
    ("", .same, "("), ("", .capital, ", "), ("", .shorten 8, ""), ("", .same, " at "),
    ("", .same, "ly "), (" the ", .same, " of "), ("", .shorten 5, ""), ("", .shorten 9, ""),
    (" ", .capital, ", "), ("", .capital, "\""), (".", .same, "("), ("", .capitals, " "),
    ("", .capital, "\">"), ("", .same, "=\""), (" ", .same, "."), (".com/", .same, ""),
    (" the ", .same, " of the "), ("", .capital, "'"), ("", .same, ". This "), ("", .same, ","),
    (".", .same, " "), ("", .capital, "("), ("", .capital, "."), ("", .same, " not "),
    (" ", .same, "=\""), ("", .same, "er "), (" ", .capitals, " "), ("", .same, "al "),
    (" ", .capitals, ""), ("", .same, "='"), ("", .capitals, "\""), ("", .capital, ". "),
    (" ", .same, "("), ("", .same, "ful "), (" ", .capital, ". "), ("", .same, "ive "),
    ("", .same, "less "), ("", .capitals, "'"), ("", .same, "est "), (" ", .capital, "."),
    ("", .capitals, "\">"), (" ", .same, "='"), ("", .capital, ","), ("", .same, "ize "),
    ("", .capitals, "."), ("\u00a0", .same, ""), (" ", .same, ","), ("", .capital, "=\""),
    ("", .capitals, "=\""), ("", .same, "ous "), ("", .capitals, ", "), ("", .capital, "='"),
    (" ", .capital, ","), (" ", .capitals, "=\""), (" ", .capitals, ", "), ("", .capitals, ","),
    ("", .capitals, "("), ("", .capitals, ". "), (" ", .capitals, "."), ("", .capitals, "='"),
    (" ", .capitals, ". "), (" ", .capital, "=\""), (" ", .capitals, "='"), (" ", .capital, "='")]

/-- The octets of a word, by its length and the number of one of its forms. -/
def word? (length number : Nat) : Option (List UInt8) := do
  let width ← wordWidth? length
  let (front, change, back) ← wordForms[number / Nat.pow 2 width]?
  let word := change.apply (wordAt length (number % Nat.pow 2 width))
  pure (front.toUTF8.toList ++ word ++ back.toUTF8.toList)

end Parley.Compression.Brotli
