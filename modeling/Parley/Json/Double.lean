/-
Finite binary floating-point numbers of 64 bits, as whole numbers.

A `Double` is a sign and a magnitude `mantissa * 2 ^ exponent` with a
mantissa below `2 ^ 53` and an exponent from -1074 to 971; the mantissa is
at least `2 ^ 52` unless the exponent is -1074. `Magnitude.ofRatio` rounds
an exact quotient to the nearest magnitude, a tie to the even mantissa,
and has no result when that is out of range. `Magnitude.digits` finds the
shortest decimal that rounds back, and among those the nearest.
-/
namespace Parley.Json

/-- A non-negative number `mantissa * 2 ^ exponent`. -/
structure Magnitude where
  mantissa : Nat
  exponent : Int
deriving DecidableEq, Repr, Inhabited

/-- A magnitude with a sign; zero has two signs. -/
structure Double where
  negative : Bool
  magnitude : Magnitude
deriving DecidableEq, Repr, Inhabited

namespace Magnitude

def zero : Magnitude := ⟨0, -1074⟩

/-- `num / den * 2 ^ shift` as a quotient of natural numbers. -/
def scaled (num den : Nat) (shift : Int) : Nat × Nat :=
  if 0 ≤ shift then (num * Nat.pow 2 shift.toNat, den) else (num, den * Nat.pow 2 (-shift).toNat)

/-- The nearest natural number to a quotient, a tie to the even one. -/
def roundHalfEven (num den : Nat) : Nat :=
  let q := num / den
  let r := num % den
  if den < 2 * r ∨ (2 * r = den ∧ q % 2 = 1) then q + 1 else q

/-- The exponent whose unit makes the mantissa of `num / den` 53 bits long,
or the least exponent. -/
def unitExponent (num den : Nat) : Int :=
  let guess : Int := (Nat.log2 num : Int) - Nat.log2 den - 52
  let (n, d) := scaled num den (-guess)
  max (if n / d < Nat.pow 2 52 then guess - 1 else guess) (-1074)

/-- The magnitude nearest to `num / den`. -/
def ofRatio (num den : Nat) : Option Magnitude :=
  if num = 0 then some zero
  else
    let e := unitExponent num den
    let (n, d) := scaled num den (-e)
    let m := roundHalfEven n d
    let rounded : Magnitude := if m = Nat.pow 2 53 then ⟨Nat.pow 2 52, e + 1⟩ else ⟨m, e⟩
    if 971 < rounded.exponent then none else some rounded

/-- A magnitude as a quotient of natural numbers. -/
def ratio (x : Magnitude) : Nat × Nat := scaled x.mantissa 1 x.exponent

/-- The rounded product with a power of ten that is rounded first. -/
def timesPower (x : Magnitude) (power : Nat) : Option Magnitude := do
  let (n, d) := x.ratio
  let (pn, pd) := (← ofRatio (Nat.pow 10 power) 1).ratio
  ofRatio (n * pn) (d * pd)

/-- The rounded quotient by a power of ten that is rounded first. -/
def overPower (x : Magnitude) (power : Nat) : Option Magnitude := do
  let (n, d) := x.ratio
  let (pn, pd) := (← ofRatio (Nat.pow 10 power) 1).ratio
  ofRatio (n * pd) (d * pn)

/-- The greatest power of ten that a double can hold. -/
def greatestPower : Nat := 308

/-- `significand * 10 ^ power` for a significand of at most 64 bits: one
rounded product, or one or two rounded quotients; no result when it is out
of range. Behind the second quotient nothing but zero is left. -/
def ofDecimal (significand : Nat) (power : Int) : Option Magnitude := do
  let x ← ofRatio significand 1
  if significand = 0 then pure x
  else if greatestPower < power then none
  else if 0 ≤ power then x.timesPower power.toNat
  else if -greatestPower ≤ power then x.overPower (-power).toNat
  else if -(2 * greatestPower) ≤ power then
    let y ← x.overPower greatestPower
    y.overPower (-power - greatestPower).toNat
  else pure zero

/-! ## The shortest decimal -/

/-- The numbers that round to `x`, times `2 ^ (2 - exponent)`: the ends of
their interval, which belong to it iff the mantissa is even. -/
structure Basin where
  low : Nat
  high : Nat
  closed : Bool

def basin (x : Magnitude) : Basin :=
  let below := if x.mantissa = Nat.pow 2 52 ∧ -1074 < x.exponent then 1 else 2
  ⟨4 * x.mantissa - below, 4 * x.mantissa + 2, x.mantissa % 2 = 0⟩

/-- Whether `n * num / den` lies in the interval, where `num / den` is the
decimal unit times `2 ^ (2 - exponent)`. -/
def Basin.holds (b : Basin) (num den n : Nat) : Bool :=
  let v := n * num
  if b.closed then b.low * den ≤ v && v ≤ b.high * den
  else b.low * den < v && v < b.high * den

/-- `10 ^ power * 2 ^ shift` as a quotient. -/
def decimalUnit (power shift : Int) : Nat × Nat :=
  let (n, d) := if 0 ≤ power then (Nat.pow 10 power.toNat, 1) else (1, Nat.pow 10 (-power).toNat)
  scaled n d shift

/-- The multiple of `10 ^ power` nearest to `x` among those that round to
it: a tie goes to the even one. -/
def nearestMultiple? (x : Magnitude) (power : Int) : Option Nat :=
  let (num, den) := decimalUnit power (2 - x.exponent)
  let exact := 4 * x.mantissa * den
  let down := exact / num
  let hit n := x.basin.holds num den n
  match hit down, hit (down + 1) with
  | false, false => none
  | true, false => some down
  | false, true => some (down + 1)
  | true, true =>
    let under := exact - down * num
    let above := (down + 1) * num - exact
    if under < above ∨ (under = above ∧ down % 2 = 0) then some down else some (down + 1)

/-- The number of digits in front of the point of a number at least one. -/
def wholeDigits (n : Nat) : Nat := if n < 10 then 1 else wholeDigits (n / 10) + 1
termination_by n

/-- The exponent `k` with `10 ^ (k - 1) ≤ x < 10 ^ k`. -/
def decimalExponent (x : Magnitude) : Int :=
  let (n, d) := x.ratio
  if d ≤ n then wholeDigits (n / d)
  else
    let zeros := wholeDigits (d / n)
    if n * Nat.pow 10 zeros = d * 10 then 2 - (zeros : Int)
    else if d ≤ n * Nat.pow 10 (zeros - 1) then 2 - (zeros : Int) else 1 - (zeros : Int)

/-- Searches the grids of `count` digits and more, up to 17. -/
def digitsFrom (x : Magnitude) (k : Int) (count : Nat) : Nat → Nat × Int
  | 0 => (0, 0)
  | more + 1 =>
    let power := k - count
    match nearestMultiple? x power with
    | some n => (n, power)
    | none => digitsFrom x k (count + 1) more

/-- Drops the zeros at the end of a significand. -/
def withoutZeros (n : Nat) (power : Int) : Nat × Int :=
  if n ≠ 0 ∧ n % 10 = 0 then withoutZeros (n / 10) (power + 1) else (n, power)
termination_by n
decreasing_by omega

/-- The significand and the power of ten of the shortest decimal that
rounds to `x`. -/
def digits (x : Magnitude) : Nat × Int :=
  if x.mantissa = 0 then (0, 0)
  else
    let (n, power) := digitsFrom x x.decimalExponent 1 17
    withoutZeros n power

end Magnitude
end Parley.Json
