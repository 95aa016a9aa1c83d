/-
The keyed hash HMAC over SHA-256.
-/
import Parley.Crypto.Sha256

namespace Parley.Crypto

open Text.Utf8 (Octets)

/-- The octets in a block of the hash. -/
def blockSize : Nat := 64

/-- The key, hashed if it is longer than a block, and filled with zeros. -/
def blockKey (key : Octets) : Octets :=
  let short := if blockSize < key.length then Sha256.hash key else key
  short ++ List.replicate (blockSize - short.length) 0

/-- The code that authenticates a message under a key. -/
def hmac (key message : Octets) : Octets :=
  let k := blockKey key
  let inner := Sha256.hash (k.map (· ^^^ 0x36) ++ message)
  Sha256.hash (k.map (· ^^^ 0x5c) ++ inner)

end Parley.Crypto
