/-!
# Bytes

Everything that is sent, hashed or sealed is a list of bytes.  A string whose length is fixed by
its meaning (a key, a digest, an act) is an `Octets n`: the length travels with it, so that cutting
it into fields never has to ask whether there is enough of it.
-/

namespace Gatehouse

/-- A string of bytes. -/
abbrev Bytes := List UInt8

namespace Bytes

/-- Bytewise exclusive or, as long as the shorter operand. -/
def xor (a b : Bytes) : Bytes := List.zipWith (· ^^^ ·) a b

/-- The first `count` base-256 digits of `value`, least significant first. -/
def ofNatLE : (count value : Nat) → Bytes
  | 0, _ => []
  | count + 1, value => UInt8.ofNat (value % 256) :: ofNatLE count (value / 256)

/-- The number whose base-256 digits these are, least significant first. -/
def toNatLE : Bytes → Nat
  | [] => 0
  | b :: rest => b.toNat + 256 * toNatLE rest

/-- The first `count` base-256 digits of `value`, most significant first. -/
def ofNatBE (count value : Nat) : Bytes := (ofNatLE count value).reverse

/-- The number whose base-256 digits these are, most significant first. -/
def toNatBE (b : Bytes) : Nat := toNatLE b.reverse

/-- Cut into pieces of `size` bytes; the last piece holds what is left over. -/
def chunks (size : Nat) (b : Bytes) : List Bytes :=
  if _h : size = 0 ∨ b = [] then []
  else b.take size :: chunks size (b.drop size)
termination_by b.length
decreasing_by
  have hpos : 0 < b.length := List.length_pos_iff.2 (fun e => _h (.inr e))
  simp only [List.length_drop]; omega

@[simp] theorem length_ofNatLE (count value : Nat) : (ofNatLE count value).length = count := by
  induction count generalizing value with
  | zero => rfl
  | succ k ih => simp [ofNatLE, ih]

@[simp] theorem length_ofNatBE (count value : Nat) : (ofNatBE count value).length = count := by
  simp [ofNatBE]

@[simp] theorem length_xor (a b : Bytes) : (xor a b).length = min a.length b.length := by
  simp [xor]

/-- Digits read back: writing keeps the value below the range of `count` digits. -/
theorem toNatLE_ofNatLE (count value : Nat) :
    toNatLE (ofNatLE count value) = value % Nat.pow 256 count := by
  induction count generalizing value with
  | zero => exact (Nat.mod_one value).symm
  | succ k ih =>
    have hb : (UInt8.ofNat (value % 256)).toNat = value % 256 := by
      simp [UInt8.toNat_ofNat']
    have hpow : Nat.pow 256 (k + 1) = 256 * Nat.pow 256 k := Nat.mul_comm (Nat.pow 256 k) 256
    rw [ofNatLE, toNatLE, ih, hb, hpow, Nat.mod_mul]

/-- Masking twice with the same bytes gives the text back, as long as the mask covers it. -/
theorem xor_xor_cancel (a k : Bytes) (h : a.length ≤ k.length) : xor (xor a k) k = a := by
  induction a generalizing k with
  | nil => simp [xor]
  | cons x xs ih =>
    cases k with
    | nil => simp at h
    | cons y ys =>
      have hxs : xor (xor xs ys) ys = xs := ih ys (by simpa using h)
      simp only [xor, List.zipWith_cons_cons] at hxs ⊢
      rw [hxs, UInt8.xor_assoc, UInt8.xor_self, UInt8.xor_zero]

end Bytes

/-- A string of exactly `n` bytes. -/
@[ext] structure Octets (n : Nat) where
  /-- The bytes themselves. -/
  bytes : Bytes
  /-- There are `n` of them. -/
  length_eq : bytes.length = n
deriving DecidableEq

namespace Octets

/-- A string of bytes as one of exactly `n`, if it has that length. -/
def ofBytes? (n : Nat) (b : Bytes) : Option (Octets n) :=
  if h : b.length = n then some ⟨b, h⟩ else none

/-- `n` times the byte `b`. -/
def replicate (n : Nat) (b : UInt8) : Octets n := ⟨List.replicate n b, List.length_replicate⟩

/-- `n` zero bytes. -/
def zero (n : Nat) : Octets n := replicate n 0

/-- The `count` bytes from `start` on. -/
def slice {n : Nat} (a : Octets n) (start count : Nat) (h : start + count ≤ n) : Octets count :=
  ⟨(a.bytes.drop start).take count, by
    have := a.length_eq
    simp only [List.length_take, List.length_drop]; omega⟩

/-- The first `n` bytes of `b`, filled up with zero bytes where it is shorter. -/
def ofPrefix (n : Nat) (b : Bytes) : Octets n :=
  ⟨b.take n ++ List.replicate (n - b.length) 0, by
    simp only [List.length_append, List.length_take, List.length_replicate]; omega⟩

theorem ofBytes?_eq_some_iff {n : Nat} {b : Bytes} {o : Octets n} :
    ofBytes? n b = some o ↔ b = o.bytes := by
  unfold ofBytes?
  constructor
  · intro h
    split at h
    · cases h; rfl
    · cases h
  · rintro rfl
    simp [o.length_eq]

theorem ofBytes?_eq_none_iff {n : Nat} {b : Bytes} : ofBytes? n b = none ↔ b.length ≠ n := by
  unfold ofBytes?; split <;> simp_all

@[simp] theorem ofBytes?_bytes {n : Nat} (o : Octets n) : ofBytes? n o.bytes = some o :=
  ofBytes?_eq_some_iff.2 rfl

end Octets

/-- Thirty-two bytes: a Diffie–Hellman secret or public value, or a cipher key. -/
abbrev Key := Octets 32

/-- Thirty-two bytes: the value of the hash function. -/
abbrev Digest := Octets 32

end Gatehouse
