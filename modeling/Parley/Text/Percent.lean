/-
Percent-encoded octets.

`decode` replaces each `%` with two hexadecimal digits by the octet they
name and leaves every other `%` as it stands. `decodeForm` also reads `+`
as a space, the way form fields are written.
-/
import Parley.Text.Utf8

namespace Parley.Text.Percent

open Utf8 (Octets)

/-- The value of a hexadecimal digit. -/
def hexValue? (b : UInt8) : Option Nat :=
  let n := b.toNat
  if 48 ≤ n ∧ n ≤ 57 then some (n - 48)
  else if 65 ≤ n ∧ n ≤ 70 then some (n - 55)
  else if 97 ≤ n ∧ n ≤ 102 then some (n - 87)
  else none

/-- The octet that two hexadecimal digits name. -/
def octet? (high low : UInt8) : Option UInt8 :=
  match hexValue? high, hexValue? low with
  | some h, some l => some (16 * h + l).toUInt8
  | _, _ => none

/-- Replaces the escapes whose octet passes a test and keeps the others. -/
def decodeWhere (replaced : UInt8 → Bool) : Octets → Octets
  | 0x25 :: high :: low :: rest =>
    match octet? high low with
    | some b =>
      if replaced b then b :: decodeWhere replaced rest
      else 0x25 :: high :: low :: decodeWhere replaced rest
    | none => 0x25 :: decodeWhere replaced (high :: low :: rest)
  | b :: rest => b :: decodeWhere replaced rest
  | [] => []
termination_by s => s.length

/-- Replaces every escape. -/
def decode (s : Octets) : Octets := decodeWhere (fun _ => true) s

/-- The text of one form field. -/
def decodeForm (s : List Char) : List Char :=
  let plain := (Utf8.encode s).map fun b => if b = 0x2B then 0x20 else b
  Utf8.decodeLossy (decode plain)

end Parley.Text.Percent
