/-
Whole numbers in decimal, written and read.

`natural` and `integer` write a number with the fewest digits, a minus
sign in front of a negative one. Reading takes an optional sign and then
ASCII digits only; leading zeros are allowed, and a value outside the
range that is asked for is refused. A minus sign is read only in a range
that has negative numbers.
-/
namespace Parley.Text

/-! ## Writing -/

/-- The character of a digit below ten. -/
def digit (n : Nat) : Char := Char.ofNat (48 + n)

/-- A natural number in decimal. -/
def natural (n : Nat) : List Char :=
  if n < 10 then [digit n] else natural (n / 10) ++ [digit (n % 10)]
termination_by n

/-- An integer in decimal. -/
def integer : Int → List Char
  | .ofNat n => natural n
  | .negSucc n => '-' :: natural (n + 1)

/-- An integer in decimal, as a string. -/
def showInt (i : Int) : String := String.ofList (integer i)

/-- A natural number in decimal, as a string. -/
def showNat (n : Nat) : String := String.ofList (natural n)

/-- A natural number with zeros in front up to a width. -/
def padded (width n : Nat) : List Char :=
  let digits := natural n
  List.replicate (width - digits.length) '0' ++ digits

/-! ## Reading -/

/-- The value of an ASCII digit. -/
def digitValue? (c : Char) : Option Nat :=
  if 48 ≤ c.toNat ∧ c.toNat ≤ 57 then some (c.toNat - 48) else none

/-- Whether a character is an ASCII digit. -/
def isDigit (c : Char) : Bool := (digitValue? c).isSome

/-- The value of digits read after a number that has been read so far. -/
def digitsFrom (value : Nat) : List Char → Option Nat
  | [] => some value
  | c :: s =>
    match digitValue? c with
    | some d => digitsFrom (10 * value + d) s
    | none => none

/-- The value of a text of one or more digits. -/
def digitsValue? : List Char → Option Nat
  | [] => none
  | c :: s => digitsFrom 0 (c :: s)

/-- The integers that a field of fixed width can hold. -/
structure IntRange where
  least : Int
  greatest : Int
deriving DecidableEq, Repr

namespace IntRange

def int16 : IntRange := ⟨-0x8000, 0x7FFF⟩
def int32 : IntRange := ⟨-0x80000000, 0x7FFFFFFF⟩
def int64 : IntRange := ⟨-0x8000000000000000, 0x7FFFFFFFFFFFFFFF⟩
def word16 : IntRange := ⟨0, 0xFFFF⟩
def word32 : IntRange := ⟨0, 0xFFFFFFFF⟩
def word64 : IntRange := ⟨0, 0xFFFFFFFFFFFFFFFF⟩

/-- Whether a number lies in the range. -/
def contains (r : IntRange) (i : Int) : Bool := r.least ≤ i && i ≤ r.greatest

/-- The nearest number of the range. -/
def clamp (r : IntRange) (i : Int) : Int := max r.least (min r.greatest i)

/-- A number that lies in the range. -/
def check (r : IntRange) (i : Int) : Option Int := if r.contains i then some i else none

/-- Reads a number of the range: an optional sign, then digits. -/
def read (r : IntRange) : List Char → Option Int
  | '+' :: s => (digitsValue? s).bind fun n => r.check n
  | '-' :: s => if r.least < 0 then (digitsValue? s).bind fun n => r.check (-(n : Int)) else none
  | s => (digitsValue? s).bind fun n => r.check n

end IntRange

/-- Reads a 64-bit signed integer. -/
def readInt64 (s : List Char) : Option Int := IntRange.int64.read s

end Parley.Text
