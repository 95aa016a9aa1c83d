/-
Octets in the URL-safe base64 alphabet, without padding.

Three octets make four characters; one or two octets at the end make two
or three. Reading accepts what writing makes and nothing else: bits left
over in the last character must be zero.
-/
import Parley.Text.Utf8

namespace Parley.Text.Base64Url

open Utf8 (Octets)

/-- The character of a value below 64. -/
def symbol (n : Nat) : Char :=
  if n < 26 then Char.ofNat (65 + n)
  else if n < 52 then Char.ofNat (71 + n)
  else if n < 62 then Char.ofNat (n - 4)
  else if n = 62 then '-'
  else '_'

/-- The value of a character of the alphabet. -/
def value? (c : Char) : Option Nat :=
  let n := c.toNat
  if 65 ≤ n ∧ n ≤ 90 then some (n - 65)
  else if 97 ≤ n ∧ n ≤ 122 then some (n - 71)
  else if 48 ≤ n ∧ n ≤ 57 then some (n + 4)
  else if c = '-' then some 62
  else if c = '_' then some 63
  else none

/-- The text of octets. -/
def encode : Octets → List Char
  | a :: b :: c :: rest =>
    let a := a.toNat
    let b := b.toNat
    let c := c.toNat
    symbol (a / 4) :: symbol (a % 4 * 16 + b / 16) :: symbol (b % 16 * 4 + c / 64)
      :: symbol (c % 64) :: encode rest
  | [a, b] =>
    let a := a.toNat
    let b := b.toNat
    [symbol (a / 4), symbol (a % 4 * 16 + b / 16), symbol (b % 16 * 4)]
  | [a] =>
    let a := a.toNat
    [symbol (a / 4), symbol (a % 4 * 16)]
  | [] => []

/-- The octets of a list of values below 64. -/
def join : List Nat → Option Octets
  | w :: x :: y :: z :: rest =>
    (join rest).map fun octets =>
      (w * 4 + x / 16).toUInt8 :: (x % 16 * 16 + y / 4).toUInt8 :: (y % 4 * 64 + z).toUInt8 :: octets
  | [w, x, y] =>
    if y % 4 = 0 then some [(w * 4 + x / 16).toUInt8, (x % 16 * 16 + y / 4).toUInt8] else none
  | [w, x] => if x % 16 = 0 then some [(w * 4 + x / 16).toUInt8] else none
  | [_] => none
  | [] => some []

/-- The octets that a text stands for. -/
def decode? (s : List Char) : Option Octets := (s.mapM value?).bind join

end Parley.Text.Base64Url
