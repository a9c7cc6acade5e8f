import Gatehouse.Bytes

/-!
# Poly1305

The one-time authenticator of RFC 8439: the message is a polynomial modulo 2¹³⁰ − 5, evaluated at
a point that one half of the key gives and masked with the other half.
-/

namespace Gatehouse.Poly1305

/-- The modulus, 2¹³⁰ − 5. -/
def prime : Nat := Nat.pow 2 130 - 5

/-- The point at which to evaluate: the first half of the key with 22 of its bits cleared. -/
def point (key : Bytes) : Nat :=
  Bytes.toNatLE (key.take 16) &&& 0x0ffffffc0ffffffc0ffffffc0fffffff

/-- Take one block of up to sixteen bytes into the sum: a set bit is put above its last byte. -/
def absorb (r acc : Nat) (block : Bytes) : Nat := (acc + Bytes.toNatLE (block ++ [1])) * r % prime

/-- The tag of a message under a key of 32 bytes that is used for nothing else. -/
def tag (key message : Bytes) : Octets 16 :=
  let sum := (Bytes.chunks 16 message).foldl (absorb (point key)) 0
  ⟨Bytes.ofNatLE 16 (sum + Bytes.toNatLE (key.drop 16)), by simp⟩

end Gatehouse.Poly1305
