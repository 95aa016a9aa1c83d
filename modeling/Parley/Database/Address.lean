/-
Internet addresses as text.

Four numbers below 256 between dots, without needless zeros in front; or
eight groups of up to four hexadecimal digits between colons. Two colons
in a row stand for the groups that are missing, at least one, and four
numbers may stand for the last two groups.
-/
import Parley.Text.Decimal
import Parley.Text.Pieces

namespace Parley.Database.Address

open Text (cut? pieces digitsValue? isDigit)

/-- Whether a text is one of the four numbers. -/
def isByte (s : List Char) : Bool :=
  s.all isDigit && (s.length == 1 || (s.length ≤ 3 && s.head? != some '0'))
    && (digitsValue? s).any (· < 256)

/-- Whether a text is an address of four numbers. -/
def isFour (s : List Char) : Bool :=
  let parts := pieces '.' s
  parts.length == 4 && parts.all isByte

def isHexDigit (c : Char) : Bool :=
  isDigit c || ('a' ≤ c && c ≤ 'f') || ('A' ≤ c && c ≤ 'F')

/-- Whether a text is a group. -/
def isGroup (s : List Char) : Bool := !s.isEmpty && s.length ≤ 4 && s.all isHexDigit

/-- How many groups a list of texts stands for. -/
def groups? (closing : Bool) : List (List Char) → Option Nat
  | [] => some 0
  | [last] => if isGroup last then some 1 else if closing && isFour last then some 2 else none
  | s :: rest => if isGroup s then (groups? closing rest).map (· + 1) else none

/-- The texts between colons, none in an empty text. -/
def between (s : List Char) : List (List Char) := if s.isEmpty then [] else pieces ':' s

/-- The texts before and behind the first two colons in a row. -/
def gap? : List Char → Option (List Char × List Char)
  | ':' :: ':' :: s => some ([], s)
  | c :: s => (gap? s).map fun (front, behind) => (c :: front, behind)
  | [] => none

/-- Whether a text is an address of eight groups. -/
def isEight (s : List Char) : Bool :=
  match gap? s with
  | some (front, behind) =>
    match groups? false (between front), groups? true (between behind) with
    | some m, some n => m + n ≤ 7
    | _, _ => false
  | none => groups? true (between s) == some 8

/-- Whether a text is an address. -/
def isAddress (s : List Char) : Bool := isFour s || isEight s

end Parley.Database.Address
