import Gatehouse.Crypto.Hkdf
import Gatehouse.Crypto.Curve25519
import Gatehouse.Crypto.ChaChaPoly

/-!
# The functions of a Noise protocol

A Noise protocol is put together from a Diffie–Hellman function, a cipher with associated data and
a hash function.  Everything above them is written for any `Suite`, so that what it relies on can
be said as a hypothesis; `Suite.standard` is the one that the gate runs with.
-/

namespace Gatehouse

/-- The secret half of a key pair. -/
abbrev Secret := Octets 32

/-- The public half of a key pair. -/
abbrev PublicKey := Octets 32

/-- The functions that a Noise protocol is put together from. -/
structure Suite where
  /-- The public half that belongs to a secret. -/
  publicKey : Secret → PublicKey
  /-- The Diffie–Hellman function: none where the secret would contribute nothing. -/
  agree : Secret → PublicKey → Option Key
  /-- The hash function. -/
  hash : Bytes → Digest
  /-- The next chaining key and a fresh cipher key, from a chaining key and input key material. -/
  derive : Key → Bytes → Key × Key
  /-- Seal a text under a key, a counter and data known to both sides. -/
  sealText : Key → UInt64 → (known text : Bytes) → Option Bytes
  /-- Open a sealed text. -/
  openText : Key → UInt64 → (known sealedText : Bytes) → Option Bytes
  /-- A sealed text is longer than its text by a tag of sixteen bytes. -/
  length_sealText : ∀ {key counter known text c},
    sealText key counter known text = some c → c.length = text.length + 16
  /-- What opens is longer than its text by a tag of sixteen bytes. -/
  length_openText : ∀ {key counter known c text},
    openText key counter known c = some text → c.length = text.length + 16

namespace Suite

/-- X25519, ChaCha20-Poly1305 and SHA-256. -/
def standard : Suite where
  publicKey := Curve25519.publicKey
  agree := Curve25519.agree
  hash := Sha256.hash
  derive chain input := Hkdf.derivePair chain.bytes input
  sealText := ChaChaPoly.sealText
  openText := ChaChaPoly.openText
  length_sealText := ChaChaPoly.length_of_sealText
  length_openText := ChaChaPoly.length_of_openText

end Suite

end Gatehouse
