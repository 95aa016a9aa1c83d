/-
The hash SHA-256 of a list of octets.

The message is padded to whole blocks of 64 octets. Each block gives a
schedule of 64 words, and each word takes the eight words of the state
through one round.
-/
import Parley.Text.Utf8

namespace Parley.Crypto.Sha256

open Text.Utf8 (Octets)

abbrev Word := UInt32

def rotate (x : Word) (n : Word) : Word := (x >>> n) ||| (x <<< (32 - n))

/-! ## Padding and words -/

/-- A number in big-endian octets. -/
def bigEndian (width n : Nat) : Octets :=
  match width with
  | 0 => []
  | width + 1 => (n / Nat.pow 256 width % 256).toUInt8 :: bigEndian width n

/-- The message with a one bit, zeros and its length in bits. -/
def pad (message : Octets) : Octets :=
  let length := message.length
  let zeros := (119 - length % 64) % 64
  message ++ 0x80 :: List.replicate zeros 0 ++ bigEndian 8 (8 * length)

/-- The words of a list of octets, four octets each. -/
def words : Octets → List Word
  | a :: b :: c :: d :: rest =>
    (a.toUInt32 <<< 24 ||| b.toUInt32 <<< 16 ||| c.toUInt32 <<< 8 ||| d.toUInt32) :: words rest
  | _ => []

/-- A list cut into pieces of a length. -/
def pieces {α : Type} (size : Nat) : Nat → List α → List (List α)
  | 0, _ => []
  | count + 1, xs => xs.take size :: pieces size count (xs.drop size)

/-! ## The schedule -/

def smallSigma0 (x : Word) : Word := rotate x 7 ^^^ rotate x 18 ^^^ (x >>> 3)
def smallSigma1 (x : Word) : Word := rotate x 17 ^^^ rotate x 19 ^^^ (x >>> 10)

/-- The next word behind the last sixteen. -/
def nextWord (last : List Word) : Word :=
  smallSigma1 (last.getD 14 0) + last.getD 9 0 + smallSigma0 (last.getD 1 0) + last.getD 0 0

/-- The last sixteen words and `count` more. -/
def extend : Nat → List Word → List Word
  | 0, last => last
  | count + 1, last => last.take 1 ++ extend count (last.drop 1 ++ [nextWord last])

/-- The 64 words of a block of sixteen. -/
def schedule (block : List Word) : List Word := extend 48 block

/-! ## Rounds -/

structure State where
  a : Word
  b : Word
  c : Word
  d : Word
  e : Word
  f : Word
  g : Word
  h : Word
deriving DecidableEq

def State.initial : State :=
  ⟨0x6a09e667, 0xbb67ae85, 0x3c6ef372, 0xa54ff53a, 0x510e527f, 0x9b05688c, 0x1f83d9ab, 0x5be0cd19⟩

def constants : List Word :=
  [0x428a2f98, 0x71374491, 0xb5c0fbcf, 0xe9b5dba5, 0x3956c25b, 0x59f111f1, 0x923f82a4, 0xab1c5ed5,
    0xd807aa98, 0x12835b01, 0x243185be, 0x550c7dc3, 0x72be5d74, 0x80deb1fe, 0x9bdc06a7, 0xc19bf174,
    0xe49b69c1, 0xefbe4786, 0x0fc19dc6, 0x240ca1cc, 0x2de92c6f, 0x4a7484aa, 0x5cb0a9dc, 0x76f988da,
    0x983e5152, 0xa831c66d, 0xb00327c8, 0xbf597fc7, 0xc6e00bf3, 0xd5a79147, 0x06ca6351, 0x14292967,
    0x27b70a85, 0x2e1b2138, 0x4d2c6dfc, 0x53380d13, 0x650a7354, 0x766a0abb, 0x81c2c92e, 0x92722c85,
    0xa2bfe8a1, 0xa81a664b, 0xc24b8b70, 0xc76c51a3, 0xd192e819, 0xd6990624, 0xf40e3585, 0x106aa070,
    0x19a4c116, 0x1e376c08, 0x2748774c, 0x34b0bcb5, 0x391c0cb3, 0x4ed8aa4a, 0x5b9cca4f, 0x682e6ff3,
    0x748f82ee, 0x78a5636f, 0x84c87814, 0x8cc70208, 0x90befffa, 0xa4506ceb, 0xbef9a3f7, 0xc67178f2]

def bigSigma0 (x : Word) : Word := rotate x 2 ^^^ rotate x 13 ^^^ rotate x 22
def bigSigma1 (x : Word) : Word := rotate x 6 ^^^ rotate x 11 ^^^ rotate x 25
def choose (x y z : Word) : Word := (x &&& y) ^^^ (~~~x &&& z)
def majority (x y z : Word) : Word := (x &&& y) ^^^ (x &&& z) ^^^ (y &&& z)

/-- One round with a constant and a word of the schedule. -/
def round (s : State) (constant word : Word) : State :=
  let t1 := s.h + bigSigma1 s.e + choose s.e s.f s.g + constant + word
  let t2 := bigSigma0 s.a + majority s.a s.b s.c
  ⟨t1 + t2, s.a, s.b, s.c, s.d + t1, s.e, s.f, s.g⟩

def State.add (s t : State) : State :=
  ⟨s.a + t.a, s.b + t.b, s.c + t.c, s.d + t.d, s.e + t.e, s.f + t.f, s.g + t.g, s.h + t.h⟩

/-- Takes one block. -/
def compress (s : State) (block : List Word) : State :=
  s.add ((constants.zip (schedule block)).foldl (fun t p => round t p.1 p.2) s)

def State.octets (s : State) : Octets :=
  [s.a, s.b, s.c, s.d, s.e, s.f, s.g, s.h].flatMap fun w => bigEndian 4 w.toNat

/-- The hash of a message: 32 octets. -/
def hash (message : Octets) : Octets :=
  let all := words (pad message)
  ((pieces 16 (all.length / 16) all).foldl compress State.initial).octets

end Parley.Crypto.Sha256
