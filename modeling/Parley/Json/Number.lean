/-
Reading JSON numbers.

A whole number that fits 64 bits with its sign is exact, except that a
zero with a minus sign is a double. Every other number is a double. Of its
digits only those count that a significand of 64 bits holds; the others
raise the power of ten or are dropped. A number beyond the greatest double
is well formed and has no value.
-/
import Parley.Json.Basic

namespace Parley.Json

open Text (digitValue? isDigit)

/-- A decimal number in reading: its digits so far as `significand * 10 ^ power`. -/
structure Decimal where
  significand : Nat
  power : Int

/-- The greatest significand that is kept exactly. -/
def greatestSignificand : Nat := 0xFFFFFFFFFFFFFFFF

/-- Takes digits in front of the point: once a digit no longer fits, this
digit and all that follow only raise the power. -/
def Decimal.takeWhole (x : Decimal) : List Char → Decimal
  | [] => x
  | c :: s =>
    let longer := 10 * x.significand + (digitValue? c).getD 0
    if x.power = 0 ∧ longer ≤ greatestSignificand then takeWhole ⟨longer, 0⟩ s
    else takeWhole { x with power := x.power + 1 } s

/-- Takes digits behind the point: the first that no longer fits and all
that follow are dropped. -/
def Decimal.takeFraction (x : Decimal) : List Char → Decimal
  | [] => x
  | c :: s =>
    let longer := 10 * x.significand + (digitValue? c).getD 0
    if longer ≤ greatestSignificand then takeFraction ⟨longer, x.power - 1⟩ s else x

/-- The double that a decimal stands for, if it is in range. -/
def Decimal.toDouble (negative : Bool) (x : Decimal) : Outcome Json :=
  match Magnitude.ofDecimal x.significand x.power with
  | some m => .value (.double ⟨negative, m⟩)
  | none => .failed true

/-- The greatest exponent that is read as it stands. -/
def greatestExponent : Nat := 0x7FFFFFFF

/-- Raises or lowers a decimal by a written exponent. One that is too long
to be read makes zero of a zero and of a decimal that it lowers; otherwise
reading fails at the first digit that is too much. -/
def Decimal.withExponent (negative down : Bool) (x : Decimal) (exponent : List Char) :
    Option (Outcome Json) := do
  let e ← Text.digitsValue? exponent
  if e ≤ greatestExponent then
    let power := if down then x.power - e else x.power + e
    pure (Decimal.toDouble negative { x with power := Text.IntRange.int32.clamp power })
  else if x.significand = 0 ∨ down then pure (.value (.double ⟨negative, .zero⟩))
  else pure (.failed (e / 10 ≤ greatestExponent))

/-- Reads what stands behind the digits of a number that is no whole
number: nothing, or the letter E and an exponent. -/
def Decimal.readExponent (negative : Bool) (x : Decimal) : List Char → Option (Outcome Json)
  | [] => some (x.toDouble negative)
  | mark :: s =>
    if mark = 'e' ∨ mark = 'E' then
      match s with
      | '-' :: exponent => x.withExponent negative true exponent
      | '+' :: exponent => x.withExponent negative false exponent
      | exponent => x.withExponent negative false exponent
    else none

/-- Whether digits in front of a point are well formed: some, and no zero
in front of others. -/
def wellFormedWhole : List Char → Bool
  | [] => false
  | ['0'] => true
  | '0' :: _ => false
  | _ => true

/-- The value of a whole number: exact if it fits 64 bits with its sign,
and not a zero with a minus sign. -/
def Decimal.toWhole (negative : Bool) (x : Decimal) : Outcome Json :=
  let value : Int := if negative then -(x.significand : Int) else x.significand
  if x.power = 0 ∧ -0x8000000000000000 ≤ value ∧ ¬(negative ∧ x.significand = 0) then .value (.int value)
  else x.toDouble negative

/-- Reads a number without its sign. -/
def readMagnitude (negative : Bool) (s : List Char) : Option (Outcome Json) :=
  let whole := s.takeWhile isDigit
  if wellFormedWhole whole then
    let x := Decimal.takeWhole ⟨0, 0⟩ whole
    match s.dropWhile isDigit with
    | [] => some (x.toWhole negative)
    | '.' :: behind =>
      let fraction := behind.takeWhile isDigit
      if fraction.isEmpty then none
      else (x.takeFraction fraction).readExponent negative (behind.dropWhile isDigit)
    | rest => x.readExponent negative rest
  else none

/-- Reads a number; no result if it is malformed. -/
def readNumber : List Char → Option (Outcome Json)
  | '-' :: s => readMagnitude true s
  | s => readMagnitude false s

/-- Whether a character can stand inside a number. -/
def isNumberChar (c : Char) : Bool :=
  isDigit c || c = '-' || c = '+' || c = '.' || c = 'e' || c = 'E'

end Parley.Json
