/-
What stands between the quotes of a JSON string.

The pieces of a string are characters, code units that are written as
escapes, and octets that are no character. A string is text if its
surrogates stand in pairs, a high one in front of a low one, and if all
its octets are characters. Any other string is well formed as well, but
has no value.
-/
import Parley.Json.Basic

namespace Parley.Json

/-- A piece of a string. -/
inductive Piece where
  | char (c : Char)
  /-- A code unit of 16 bits, written with four digits. -/
  | unit (value : Nat)
  /-- Octets that are no character. -/
  | foreign
deriving DecidableEq, Repr

def isHighSurrogate (value : Nat) : Bool := 0xD800 ≤ value && value ≤ 0xDBFF

def isLowSurrogate (value : Nat) : Bool := 0xDC00 ≤ value && value ≤ 0xDFFF

/-- The character of a pair of surrogates. -/
def pairedChar (high low : Nat) : Char :=
  Char.ofNat (0x10000 + (high - 0xD800) * 0x400 + (low - 0xDC00))

/-- Puts the pieces of a string together, behind characters that are read
already, in reverse. A surrogate without its partner ends reading at once,
or at the closing quote if it is the last piece. Octets that are no
character are noticed only behind the string. -/
def assemble (read : List Char) (foreign : Bool) : List Piece → Outcome String
  | [] => if foreign then .failed true else .value (String.ofList read.reverse)
  | .char c :: rest => assemble (c :: read) foreign rest
  | .foreign :: rest => assemble read true rest
  | .unit value :: rest =>
    if isLowSurrogate value then .failed false
    else if isHighSurrogate value then
      match rest with
      | [] => .failed true
      | .unit low :: rest =>
        if isLowSurrogate low then assemble (pairedChar value low :: read) foreign rest
        else .failed false
      | _ => .failed false
    else assemble (Char.ofNat value :: read) foreign rest

/-- The text of a string. -/
def unquote (pieces : List Piece) : Outcome String := assemble [] false pieces

end Parley.Json
