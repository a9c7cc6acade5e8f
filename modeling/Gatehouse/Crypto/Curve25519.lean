import Gatehouse.Bytes

/-!
# Curve25519

The Diffie–Hellman function X25519 of RFC 7748 on `u`-coordinates: a secret of 32 bytes is clamped
to a scalar, a public value is read as a field element, and the Montgomery ladder multiplies.
-/

namespace Gatehouse.Curve25519

/-- The order of the field, 2²⁵⁵ − 19. -/
def prime : Nat := Nat.pow 2 255 - 19

/-- The field of `u`-coordinates. -/
abbrev Field := Fin prime

/-- A number as an element of the field. -/
def Field.ofNat (n : Nat) : Field := ⟨n % prime, Nat.mod_lt n (by decide)⟩

/-- `x` to the power whose bits are these, least significant first. -/
def power (x : Field) : List Bool → Field
  | [] => Field.ofNat 1
  | true :: bits => x * power (x * x) bits
  | false :: bits => power (x * x) bits

/-- The lowest `count` bits of a number, least significant first. -/
def bits : (count n : Nat) → List Bool
  | 0, _ => []
  | count + 1, n => (n % 2 == 1) :: bits count (n / 2)

/-- The inverse by Fermat's little theorem; the inverse of zero is zero. -/
def inverse (x : Field) : Field := power x (bits 255 (prime - 2))

/-- (486662 − 2) / 4, for the curve's coefficient 486662. -/
def a24 : Field := Field.ofNat 121665

/-- Two points `x₂ : z₂` and `x₃ : z₃` whose difference is the point that is multiplied. -/
structure Ladder where
  x₂ : Field
  z₂ : Field
  x₃ : Field
  z₃ : Field

/-- Exchange the two points if the bit is set. -/
def Ladder.swapIf (bit : Bool) (l : Ladder) : Ladder :=
  if bit then ⟨l.x₃, l.z₃, l.x₂, l.z₂⟩ else l

/-- Double the first point and add it to the second one. -/
def Ladder.double (u : Field) (l : Ladder) : Ladder :=
  let a := l.x₂ + l.z₂
  let b := l.x₂ - l.z₂
  let aa := a * a
  let bb := b * b
  let e := aa - bb
  let da := (l.x₃ - l.z₃) * a
  let cb := (l.x₃ + l.z₃) * b
  let sum := da + cb
  let difference := da - cb
  ⟨aa * bb, e * (aa + a24 * e), sum * sum, u * (difference * difference)⟩

/-- One rung of the ladder, for one bit of the scalar. -/
def Ladder.step (u : Field) (l : Ladder) (bit : Bool) : Ladder :=
  ((l.swapIf bit).double u).swapIf bit

/-- The `u`-coordinate of the multiple of a point by the low 255 bits of a scalar. -/
def multiply (scalar : Nat) (u : Field) : Field :=
  -- from the point at infinity and the point itself, by the highest bit first
  let final := (bits 255 scalar).reverse.foldl (Ladder.step u)
    ⟨Field.ofNat 1, Field.ofNat 0, u, Field.ofNat 1⟩
  final.x₂ * inverse final.z₂

/-- The scalar that a secret stands for: a multiple of eight with bit 254 as its highest bit. -/
def clamp (secret : Key) : Nat :=
  let n := Bytes.toNatLE secret.bytes
  -- bits 0 to 2 and 255 are cleared and bit 254 is set
  Nat.pow 2 254 + (n % Nat.pow 2 254 - n % 8)

/-- The `u`-coordinate that a public value stands for: its top bit is ignored. -/
def coordinate (value : Key) : Field := Field.ofNat (Bytes.toNatLE value.bytes % Nat.pow 2 255)

/-- A field element in 32 bytes. -/
def ofField (x : Field) : Key := ⟨Bytes.ofNatLE 32 x.val, by simp⟩

/-- The Diffie–Hellman function. -/
def x25519 (secret value : Key) : Key := ofField (multiply (clamp secret) (coordinate value))

/-- The `u`-coordinate of the base point. -/
def basePoint : Key := ofField (Field.ofNat 9)

/-- The public value that belongs to a secret. -/
def publicKey (secret : Key) : Key := x25519 secret basePoint

/-- The shared value of a secret and a public value, unless it is all zero: then the public value
    is of low order and the secret contributed nothing. -/
def agree (secret value : Key) : Option Key :=
  let shared := x25519 secret value
  if shared = Octets.zero 32 then none else some shared

end Gatehouse.Curve25519
