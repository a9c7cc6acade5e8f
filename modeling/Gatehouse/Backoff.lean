import Gatehouse.Chance

/-!
# Backing off

How long to pause after a raw connection could not be taken.  The pause doubles with every failure
in a row, up to a limit, and jitter of less than a tenth is added so that several listeners do not
keep step.  The arithmetic is that of 64-bit words which saturate instead of wrapping; only the last
addition is not protected, and its overflow is reported.
-/

namespace Gatehouse

/-- The product of two words, or the largest word where the product does not fit. -/
def saturatingMul (a b : UInt64) : UInt64 :=
  if a.toNat * b.toNat < UInt64.size then a * b else UInt64.ofNat (UInt64.size - 1)

/-- The next number, or the same one where there is no next. -/
def saturatingSucc (n : UInt32) : UInt32 := if n.toNat + 1 < UInt32.size then n + 1 else n

/-- The sum of two words, where it fits. -/
def checkedAdd (a b : UInt64) : Option UInt64 :=
  if a.toNat + b.toNat < UInt64.size then some (a + b) else none

theorem toNat_saturatingMul (a b : UInt64) :
    (saturatingMul a b).toNat = min (a.toNat * b.toNat) (UInt64.size - 1) := by
  unfold saturatingMul
  split
  · rename_i h
    rw [UInt64.toNat_mul, Nat.mod_eq_of_lt h]
    simp only [UInt64.size] at h ⊢
    omega
  · rename_i h
    have hmax : (UInt64.ofNat (UInt64.size - 1)).toNat = UInt64.size - 1 := by decide
    rw [hmax]
    simp only [UInt64.size] at h ⊢
    omega

theorem toNat_saturatingSucc (n : UInt32) :
    (saturatingSucc n).toNat = min (n.toNat + 1) (UInt32.size - 1) := by
  have := n.toNat_lt
  unfold saturatingSucc
  split
  · rename_i h
    have h1 : (1 : UInt32).toNat = 1 := rfl
    rw [UInt32.toNat_add, h1, Nat.mod_eq_of_lt h]
    simp only [UInt32.size] at h ⊢
    omega
  · rename_i h
    simp only [UInt32.size] at h ⊢
    omega

theorem checkedAdd_eq_some_iff {a b c : UInt64} :
    checkedAdd a b = some c ↔ c.toNat = a.toNat + b.toNat := by
  have hc := c.toNat_lt
  unfold checkedAdd
  split
  · rename_i h
    have hsum : (a + b).toNat = a.toNat + b.toNat := by
      rw [UInt64.toNat_add, Nat.mod_eq_of_lt h]
    constructor
    · intro he
      cases he
      exact hsum
    · intro he
      exact congrArg some (UInt64.toNat_inj.mp (hsum.trans he.symm))
  · rename_i h
    constructor
    · intro he
      cases he
    · intro he
      exact absurd (he ▸ hc) h

/-- A count of failures in a row, and the bounds of the pauses. -/
structure Backoff where
  failures : UInt32 := 0
  /-- The pause after the first failure, in milliseconds. -/
  base : UInt64
  /-- The longest pause without jitter, in milliseconds. -/
  limit : UInt64
deriving DecidableEq

/-- A pause as it was decided on. -/
structure Pause where
  /-- The bound that a random number was drawn below, if one was drawn. -/
  jitterRange : Option UInt64
  /-- The length in milliseconds; none if it exceeds a word. -/
  length : Option UInt64
deriving DecidableEq

namespace Backoff

/-- The bounds that a listener uses: from five milliseconds to a second. -/
def standard : Backoff := { base := 5, limit := 1000 }

/-- The pause after this many failures in a row, without jitter. -/
def capped (b : Backoff) (failures : UInt32) : UInt64 :=
  -- a shift by at most 32 places does not wrap
  let exponent := min (failures.toNat - 1) 32
  min (saturatingMul b.base (1 <<< UInt64.ofNat exponent)) b.limit

/-- Count a failure and decide on the pause after it. -/
def recordFailure (b : Backoff) (chance : Chance) : Pause × Backoff × Chance :=
  let failures := saturatingSucc b.failures
  let capped := b.capped failures
  let range := capped / 10
  let after := { b with failures }
  if 0 < range then
    let (jitter, chance) := chance.takeBelow range
    (⟨some range, checkedAdd capped jitter⟩, after, chance)
  else (⟨none, checkedAdd capped 0⟩, after, chance)

/-- Count a failure `times` times over, and give the last pause, if there was one. -/
def recordFailures (b : Backoff) (chance : Chance) (times : Nat) : Option Pause × Backoff × Chance :=
  times.repeat
    (fun (_, b, chance) =>
      let (pause, b, chance) := b.recordFailure chance
      (some pause, b, chance))
    (none, b, chance)

theorem recordFailures_succ (b : Backoff) (chance : Chance) (times : Nat) :
    b.recordFailures chance (times + 1) =
      let (_, b, chance) := b.recordFailures chance times
      let (pause, b, chance) := b.recordFailure chance
      (some pause, b, chance) := rfl

/-- A raw connection was taken: the row of failures is over. -/
def reset (b : Backoff) : Backoff := { b with failures := 0 }

end Backoff

/-- What an addition that does not fit is reported as. -/
def overflowMessage : String := "attempt to add with overflow"

end Gatehouse
