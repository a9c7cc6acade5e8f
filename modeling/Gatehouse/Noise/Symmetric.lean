import Gatehouse.Noise.Suite

/-!
# The symmetric state

The state that both sides of a Noise handshake keep in step: a hash of all that was sent so far and
a chaining key that collects the shared secrets.  A sealed field is sealed with the running hash as
the data known to both sides, and then goes into the hash in its sealed form.
-/

namespace Gatehouse

/-- The running hash and the chaining key of a handshake. -/
@[ext] structure Symmetric where
  /-- The hash of the transcript. -/
  hash : Digest
  /-- The chaining key. -/
  chain : Key
deriving DecidableEq

namespace Symmetric

variable (S : Suite)

/-- The state that a protocol name starts with. -/
def ofProtocol (name : Bytes) : Symmetric := ⟨S.hash name, S.hash name⟩

/-- Take bytes into the transcript. -/
def mixHash (s : Symmetric) (data : Bytes) : Symmetric :=
  { s with hash := S.hash (s.hash.bytes ++ data) }

/-- Take a shared secret into the chaining key, which gives a fresh cipher key. -/
def mixKey (s : Symmetric) (input : Bytes) : Symmetric × Key :=
  let (chain, key) := S.derive s.chain input
  ({ s with chain }, key)

/-- Seal a text under the transcript, and take the sealed text into it. -/
def encryptAndHash (s : Symmetric) (key : Key) (counter : UInt64) (text : Bytes) :
    Option (Bytes × Symmetric) :=
  (S.sealText key counter s.hash.bytes text).map fun c => (c, s.mixHash S c)

/-- Open a sealed text under the transcript, and take the sealed text into it. -/
def decryptAndHash (s : Symmetric) (key : Key) (counter : UInt64) (sealedText : Bytes) :
    Option (Bytes × Symmetric) :=
  (S.openText key counter s.hash.bytes sealedText).map fun p => (p, s.mixHash S sealedText)

/-- The keys of the two directions: from initiator to responder, and back. -/
def split (s : Symmetric) : Key × Key := S.derive s.chain []

/-- Seal a field of fixed length. -/
def sealField {n : Nat} (s : Symmetric) (key : Key) (counter : UInt64) (field : Octets n) :
    Option (Octets (n + 16) × Symmetric) :=
  (s.encryptAndHash S key counter field.bytes).pmap (fun r h => (⟨r.1, h⟩, r.2)) (by
    intro r hr
    obtain ⟨c, hc, rfl⟩ := Option.map_eq_some_iff.1 hr
    rw [S.length_sealText hc, field.length_eq])

/-- Open a sealed field of fixed length. -/
def openField {n : Nat} (s : Symmetric) (key : Key) (counter : UInt64) (field : Octets (n + 16)) :
    Option (Octets n × Symmetric) :=
  (s.decryptAndHash S key counter field.bytes).pmap (fun r h => (⟨r.1, h⟩, r.2)) (by
    intro r hr
    obtain ⟨p, hp, rfl⟩ := Option.map_eq_some_iff.1 hr
    have := S.length_openText hp
    have := field.length_eq
    simp only; omega)

/-- Sealing a field is sealing its bytes. -/
theorem sealField_eq_some_iff {n : Nat} {s t : Symmetric} {key : Key} {counter : UInt64}
    {field : Octets n} {c : Octets (n + 16)} :
    s.sealField S key counter field = some (c, t)
      ↔ s.encryptAndHash S key counter field.bytes = some (c.bytes, t) := by
  unfold sealField
  rw [Option.pmap_eq_some_iff]
  constructor
  · rintro ⟨r, h, hr, he⟩
    cases he; exact hr
  · intro h
    exact ⟨(c.bytes, t), c.length_eq, h, rfl⟩

/-- Opening a field is opening its bytes. -/
theorem openField_eq_some_iff {n : Nat} {s t : Symmetric} {key : Key} {counter : UInt64}
    {field : Octets (n + 16)} {p : Octets n} :
    s.openField S key counter field = some (p, t)
      ↔ s.decryptAndHash S key counter field.bytes = some (p.bytes, t) := by
  unfold openField
  rw [Option.pmap_eq_some_iff]
  constructor
  · rintro ⟨r, h, hr, he⟩
    cases he; exact hr
  · intro h
    exact ⟨(p.bytes, t), p.length_eq, h, rfl⟩

/-- What it means that a field was sealed. -/
theorem sealText_of_sealField {n : Nat} {s t : Symmetric} {key : Key} {counter : UInt64}
    {field : Octets n} {c : Octets (n + 16)} (h : s.sealField S key counter field = some (c, t)) :
    S.sealText key counter s.hash.bytes field.bytes = some c.bytes ∧ t = s.mixHash S c.bytes := by
  rw [sealField_eq_some_iff, encryptAndHash] at h
  obtain ⟨b, hb, he⟩ := Option.map_eq_some_iff.1 h
  obtain ⟨rfl, rfl⟩ := Prod.mk.inj he
  exact ⟨hb, rfl⟩

/-- What it means that a field was opened. -/
theorem openText_of_openField {n : Nat} {s t : Symmetric} {key : Key} {counter : UInt64}
    {field : Octets (n + 16)} {p : Octets n} (h : s.openField S key counter field = some (p, t)) :
    S.openText key counter s.hash.bytes field.bytes = some p.bytes
      ∧ t = s.mixHash S field.bytes := by
  rw [openField_eq_some_iff, decryptAndHash] at h
  obtain ⟨b, hb, he⟩ := Option.map_eq_some_iff.1 h
  obtain ⟨rfl, rfl⟩ := Prod.mk.inj he
  exact ⟨hb, rfl⟩

/-- A field cannot be sealed exactly if its bytes cannot. -/
theorem sealField_eq_none_iff {n : Nat} {s : Symmetric} {key : Key} {counter : UInt64}
    {field : Octets n} :
    s.sealField S key counter field = none
      ↔ S.sealText key counter s.hash.bytes field.bytes = none := by
  rw [sealField, Option.pmap_eq_none_iff, encryptAndHash, Option.map_eq_none_iff]

/-- A field does not open exactly if its bytes do not. -/
theorem openField_eq_none_iff {n : Nat} {s : Symmetric} {key : Key} {counter : UInt64}
    {field : Octets (n + 16)} :
    s.openField S key counter field = none
      ↔ S.openText key counter s.hash.bytes field.bytes = none := by
  rw [openField, Option.pmap_eq_none_iff, decryptAndHash, Option.map_eq_none_iff]

end Symmetric

end Gatehouse
