import Gatehouse.Noise.Suite

/-!
# Chance

The random choices of the program as a value: bytes for secrets and numbers for jitter, in the
order in which they will be taken.  A supply that has run out gives zeros.
-/

namespace Gatehouse

/-- The random choices that are still to be made. -/
structure Chance where
  /-- Bytes for secrets. -/
  bytes : Bytes := []
  /-- Numbers for jitter. -/
  numbers : List UInt64 := []
deriving DecidableEq

namespace Chance

/-- Draw a secret. -/
def takeSecret (c : Chance) : Secret × Chance :=
  (Octets.ofPrefix 32 c.bytes, { c with bytes := c.bytes.drop 32 })

/-- Draw a number below a bound; zero if the bound is zero. -/
def takeBelow (c : Chance) (bound : UInt64) : UInt64 × Chance :=
  (c.numbers.headD 0 % bound, { c with numbers := c.numbers.tail })

end Chance

end Gatehouse
