import Gatehouse.Crypto.Sha256

/-!
# Key derivation

HMAC (RFC 2104) and two blocks of HKDF (RFC 5869), both over SHA-256.
-/

namespace Gatehouse.Hkdf

/-- The block size of the hash function in bytes. -/
def blockSize : Nat := 64

/-- A key as one block: hashed if it is longer than that, then filled up with zeros. -/
def blockKey (key : Bytes) : Bytes :=
  let short := if key.length ≤ blockSize then key else (Sha256.hash key).bytes
  short ++ List.replicate (blockSize - short.length) 0

/-- The authentication code of a message under a key. -/
def hmac (key message : Bytes) : Digest :=
  let k := blockKey key
  let inner := Sha256.hash (k.map (· ^^^ 0x36) ++ message)
  Sha256.hash (k.map (· ^^^ 0x5c) ++ inner.bytes)

/-- Two keys derived from input key material, with `salt` as the salt and no further context. -/
def derivePair (salt : Bytes) (input : Bytes) : Key × Key :=
  let extracted := hmac salt input
  let first := hmac extracted.bytes [1]
  let second := hmac extracted.bytes (first.bytes ++ [2])
  (first, second)

end Gatehouse.Hkdf
