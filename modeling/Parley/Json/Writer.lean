/-
Writing a JSON value: no blanks, members in their order, every character
as it is except quotes, backslashes and the controls below U+0020.

Doubles have the fewest digits that read back. They are positional while
the point stands at most four zeros in front of the digits and at most 16
places behind the first, and then always have a fraction; otherwise one
digit stands in front of the point and an exponent with its sign behind.
-/
import Parley.Json.Token

namespace Parley.Json

open Text (natural integer)

/-! ## Numbers -/

def zeros (n : Nat) : List Char := List.replicate n '0'

/-- An exponent, always with a sign. -/
def writeExponent (e : Int) : List Char := if 0 ≤ e then '+' :: integer e else integer e

/-- A decimal `significand * 10 ^ power` without its sign. -/
def writeDecimal (significand : Nat) (power : Int) : List Char :=
  let digits := natural significand
  let point : Int := digits.length + power
  if 0 ≤ power ∧ point ≤ 16 then digits ++ zeros power.toNat ++ ['.', '0']
  else if 0 < point ∧ point ≤ 16 then
    digits.take point.toNat ++ ['.'] ++ digits.drop point.toNat
  else if -5 < point ∧ point ≤ 0 then ['0', '.'] ++ zeros (-point).toNat ++ digits
  else
    let fraction := if digits.length = 1 then [] else '.' :: digits.drop 1
    digits.take 1 ++ fraction ++ ['e'] ++ writeExponent (point - 1)

/-- A double. -/
def writeDouble (x : Double) : List Char :=
  let text :=
    if x.magnitude.mantissa = 0 then ['0', '.', '0']
    else writeDecimal x.magnitude.digits.1 x.magnitude.digits.2
  if x.negative then '-' :: text else text

/-! ## Strings -/

/-- A lower-case hexadecimal digit. -/
def hexDigit (n : Nat) : Char := if n < 10 then Char.ofNat (48 + n) else Char.ofNat (87 + n)

/-- A character inside quotes. -/
def escape (c : Char) : List Char :=
  if c = '"' then ['\\', '"']
  else if c = '\\' then ['\\', '\\']
  else if c = '\x08' then ['\\', 'b']
  else if c = '\x0c' then ['\\', 'f']
  else if c = '\n' then ['\\', 'n']
  else if c = '\r' then ['\\', 'r']
  else if c = '\t' then ['\\', 't']
  else if c.toNat < 0x20 then
    ['\\', 'u', '0', '0', hexDigit (c.toNat / 16), hexDigit (c.toNat % 16)]
  else [c]

/-- A string in quotes. -/
def quote (s : String) : List Char := '"' :: s.toList.flatMap escape ++ ['"']

/-! ## Values -/

/-- A value that is neither a string nor a container. -/
def writeScalar : Json → List Char
  | .null => ['n', 'u', 'l', 'l']
  | .bool true => ['t', 'r', 'u', 'e']
  | .bool false => ['f', 'a', 'l', 's', 'e']
  | .int i => integer i
  | .double x => writeDouble x
  | _ => []

/-- A token in the form that this library writes; a broken one has none. -/
def Token.spell : Token → List Char
  | .beginArray => ['[']
  | .endArray => [']']
  | .beginObject => ['\x7b']
  | .endObject => ['\x7d']
  | .comma => [',']
  | .colon => [':']
  | .text s => quote s
  | .scalar v => writeScalar v
  | .broken _ => []

/-- The parts of a list with a comma between any two. -/
def separated : List (List Token) → List Token
  | [] => []
  | [ts] => ts
  | ts :: rest => ts ++ .comma :: separated rest

mutual

/-- The tokens of a value. -/
def tokens : Json → List Token
  | .str s => [.text s]
  | .arr items => .beginArray :: separated (tokensOfItems items) ++ [.endArray]
  | .obj members => .beginObject :: separated (tokensOfMembers members) ++ [.endObject]
  | v => [.scalar v]

/-- The tokens of each item. -/
def tokensOfItems : List Json → List (List Token)
  | [] => []
  | v :: items => tokens v :: tokensOfItems items

/-- The tokens of each member. -/
def tokensOfMembers : List (String × Json) → List (List Token)
  | [] => []
  | (name, v) :: members => (.text name :: .colon :: tokens v) :: tokensOfMembers members

end

/-- The text of a value. -/
def write (v : Json) : List Char := (tokens v).flatMap Token.spell

/-- The text of a value as a string. -/
def toText (v : Json) : String := String.ofList (write v)

end Parley.Json
