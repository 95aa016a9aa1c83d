/-
The tokens of JSON text.

`tokensFrom` splits what it is given into tokens, one character at a time;
blanks between tokens are dropped. Octets that are no character may stand
in strings alone. A string token holds the characters that its escapes
stand for, and a number token its value, if they have one. `spell` in the
writer puts a token in the one form that this library uses.
-/
import Parley.Json.Number
import Parley.Json.Quoted

namespace Parley.Json

/-- A token. `scalar` stands for `null`, the truth values and numbers. -/
inductive Token where
  | beginArray
  | endArray
  | beginObject
  | endObject
  | comma
  | colon
  | text (s : String)
  | scalar (v : Json)
  /-- A well-formed string or number without a value, and whether reading
  it stops right behind it. -/
  | broken (behind : Bool)
deriving Inhabited, Repr

/-! ## Splitting -/

/-- Blanks between tokens. -/
def isSpace (c : Char) : Bool := c = ' ' || c = '\t' || c = '\n' || c = '\r'

/-- What the splitter is in the middle of. What is read so far is reversed. -/
inductive Within where
  | nothing
  /-- A number or a word. -/
  | run (read : List Char)
  | string (read : List Piece)
  /-- Behind a backslash. -/
  | escape (read : List Piece)
  /-- In the four digits of a code unit. -/
  | unit (read : List Piece) (count value : Nat)

/-- The token of a number. -/
def Token.ofNumber : Outcome Json → Token
  | .value v => .scalar v
  | .failed behind => .broken behind

/-- The token of a string. -/
def Token.ofString : Outcome String → Token
  | .value s => .text s
  | .failed behind => .broken behind

/-- The token of a word or number. -/
def scalar? (run : List Char) : Option Token :=
  if run = ['n', 'u', 'l', 'l'] then some (.scalar .null)
  else if run = ['t', 'r', 'u', 'e'] then some (.scalar (.bool true))
  else if run = ['f', 'a', 'l', 's', 'e'] then some (.scalar (.bool false))
  else (readNumber run).map .ofNumber

/-- The tokens of one character. -/
def punctuation? (c : Char) : Option Token :=
  match c with
  | '[' => some .beginArray
  | ']' => some .endArray
  | '\x7b' => some .beginObject
  | '\x7d' => some .endObject
  | ',' => some .comma
  | ':' => some .colon
  | _ => none

/-- Whether a character can stand inside a number or a word. -/
def isRunChar (c : Char) : Bool := isNumberChar c || ('a' ≤ c && c ≤ 'z')

/-- The character of a one-letter escape. -/
def escaped? (c : Char) : Option Char :=
  match c with
  | '"' => some '"'
  | '\\' => some '\\'
  | '/' => some '/'
  | 'b' => some '\x08'
  | 'f' => some '\x0c'
  | 'n' => some '\n'
  | 'r' => some '\r'
  | 't' => some '\t'
  | _ => none

/-- The value of a hexadecimal digit. -/
def hexDigit? (c : Char) : Option Nat :=
  let n := c.toNat
  if 48 ≤ n ∧ n ≤ 57 then some (n - 48)
  else if 65 ≤ n ∧ n ≤ 70 then some (n - 55)
  else if 97 ≤ n ∧ n ≤ 102 then some (n - 87)
  else none

/-- Takes one character between tokens. -/
def start (c : Char) : Option (List Token × Within) :=
  if isSpace c then some ([], .nothing)
  else if c = '"' then some ([], .string [])
  else if isRunChar c then some ([], .run [c])
  else (punctuation? c).map fun t => ([t], .nothing)

/-- Takes one character: the tokens that it ends or is, and where the
splitter stands behind it. -/
def takeChar (c : Char) : Within → Option (List Token × Within)
  | .nothing => start c
  | .run read =>
    if isRunChar c then some ([], .run (c :: read))
    else do
      let t ← scalar? read.reverse
      let (ts, w) ← start c
      pure (t :: ts, w)
  | .string read =>
    if c = '"' then some ([.ofString (unquote read.reverse)], .nothing)
    else if c = '\\' then some ([], .escape read)
    else if c.toNat < 0x20 then none
    else some ([], .string (.char c :: read))
  | .escape read =>
    if c = 'u' then some ([], .unit read 0 0)
    else (escaped? c).map fun e => ([], .string (.char e :: read))
  | .unit read count value => do
    let d ← hexDigit? c
    let value := 16 * value + d
    pure ([], if count = 3 then .string (.unit value :: read) else .unit read (count + 1) value)

/-- Takes octets that are no character: only a string may hold them. -/
def takeForeign : Within → Option (List Token × Within)
  | .string read => some ([], .string (.foreign :: read))
  | _ => none

/-- Takes a character, or octets that are none. -/
def take : Option Char → Within → Option (List Token × Within)
  | some c => takeChar c
  | none => takeForeign

/-- The tokens that the end of the text ends. -/
def finish : Within → Option (List Token)
  | .nothing => some []
  | .run read => (scalar? read.reverse).map fun t => [t]
  | _ => none

/-- Splits a text from where the splitter stands. -/
def tokensFrom (w : Within) : List (Option Char) → Option (List Token)
  | [] => finish w
  | c :: s =>
    match take c w with
    | none => none
    | some (ts, w) => (tokensFrom w s).map (ts ++ ·)

/-- Splits a text into tokens. -/
def tokens? (s : List (Option Char)) : Option (List Token) := tokensFrom .nothing s

end Parley.Json
