import Gatehouse.Noise.Symmetric
import Gatehouse.Proofs.Crypto.ChaChaPoly

/-!
# What is relied on of a suite

The theorems about handshakes hold of any `Suite`; what one of them needs of the suite's functions
is a hypothesis that is named here.  `CipherLaws` is proved of the standard suite.  The laws of the
Diffie–Hellman function are the documented behaviour of X25519: they are checked for the suite
`sample`, which computes X25519 on a few secrets.
-/

namespace Gatehouse

namespace Suite

/-! ## The Diffie–Hellman function -/

/-- What the two sides of an honest agreement rely on. -/
structure AgreementLaws (S : Suite) : Prop where
  /-- Each side computes the same from its own secret and the other's public key. -/
  agree_comm : ∀ a b, S.agree a (S.publicKey b) = S.agree b (S.publicKey a)
  /-- A public key that was derived from a secret contributes. -/
  agree_publicKey : ∀ a b, (S.agree a (S.publicKey b)).isSome

/-- Whether a public key contributes depends on the key alone. -/
def UniformAgreement (S : Suite) : Prop := ∀ a b key, (S.agree a key).isSome = (S.agree b key).isSome

/-- The key that two secrets agree on, as both sides compute it. -/
theorem AgreementLaws.exists_shared {S : Suite} (laws : S.AgreementLaws) (a b : Secret) :
    ∃ shared, S.agree a (S.publicKey b) = some shared ∧
      S.agree b (S.publicKey a) = some shared := by
  obtain ⟨shared, h⟩ := Option.isSome_iff_exists.1 (laws.agree_publicKey a b)
  exact ⟨shared, h, laws.agree_comm a b ▸ h⟩

/-! ## The cipher -/

/-- What sender and receiver rely on in a cipher. -/
structure CipherLaws (S : Suite) : Prop where
  /-- A text that is no longer than a key can be sealed. -/
  sealText_isSome : ∀ key counter known text,
    text.length ≤ 32 → (S.sealText key counter known text).isSome
  /-- Opening undoes sealing. -/
  openText_of_sealText : ∀ {key counter known text c},
    S.sealText key counter known text = some c → S.openText key counter known c = some text

theorem standard_cipherLaws : standard.CipherLaws where
  sealText_isSome key counter known text hlen := by
    have hfits : ChaChaPoly.fits text.length = true := by
      simp only [ChaChaPoly.fits, UInt32.size, decide_eq_true_eq]
      omega
    simp only [standard, ChaChaPoly.sealText, if_pos hfits, Option.isSome_some]
  openText_of_sealText h := ChaChaPoly.openText_eq_some_iff.2 h

end Suite

namespace Symmetric

variable {S : Suite}

/-- A field that is no longer than a key can be sealed. -/
theorem exists_sealField (laws : S.CipherLaws) {n : Nat} (hn : n ≤ 32) (s : Symmetric) (key : Key)
    (counter : UInt64) (field : Octets n) :
    ∃ c t, s.sealField S key counter field = some (c, t) := by
  have hlen : field.bytes.length ≤ 32 := by rw [field.length_eq]; exact hn
  obtain ⟨c, hc⟩ := Option.isSome_iff_exists.1
    (laws.sealText_isSome key counter s.hash.bytes field.bytes hlen)
  have hsize : c.length = n + 16 := by rw [S.length_sealText hc, field.length_eq]
  refine ⟨⟨c, hsize⟩, s.mixHash S c, (sealField_eq_some_iff S).2 ?_⟩
  rw [encryptAndHash, hc, Option.map_some]

/-- A sealed field opens in the state in which it was sealed, and leads to the same next state. -/
theorem openField_of_sealField (laws : S.CipherLaws) {n : Nat} {s t : Symmetric} {key : Key}
    {counter : UInt64} {field : Octets n} {c : Octets (n + 16)}
    (h : s.sealField S key counter field = some (c, t)) :
    s.openField S key counter c = some (field, t) := by
  obtain ⟨hc, rfl⟩ := sealText_of_sealField S h
  rw [openField_eq_some_iff, decryptAndHash, laws.openText_of_sealText hc, Option.map_some]

end Symmetric

/-! ## Another Diffie–Hellman function -/

namespace Suite

/-- A suite with another Diffie–Hellman function. -/
def withAgreement (S : Suite) (publicKey : Secret → PublicKey)
    (agree : Secret → PublicKey → Option Key) : Suite :=
  { S with publicKey, agree }

theorem withAgreement_cipherLaws {S : Suite} (laws : S.CipherLaws) (publicKey : Secret → PublicKey)
    (agree : Secret → PublicKey → Option Key) : (S.withAgreement publicKey agree).CipherLaws where
  sealText_isSome := laws.sealText_isSome
  openText_of_sealText := laws.openText_of_sealText

theorem withAgreement_uniformAgreement {S : Suite} (publicKey : Secret → PublicKey)
    {agree : Secret → PublicKey → Option Key}
    (uniform : ∀ a b key, (agree a key).isSome = (agree b key).isSome) :
    (S.withAgreement publicKey agree).UniformAgreement := uniform

/-! ## A suite that computes X25519 on a few secrets -/

/-- A suite that takes some other secret in the place of a secret. -/
def withSecrets (S : Suite) (taken : Secret → Secret) : Suite :=
  { S with
    publicKey := fun s => S.publicKey (taken s)
    agree := fun s key => S.agree (taken s) key }

/-- It is enough that the laws hold of the secrets that are taken. -/
theorem withSecrets_agreementLaws {S : Suite} {taken : Secret → Secret} {secrets : List Secret}
    (htaken : ∀ s, taken s ∈ secrets)
    (hlaws : ∀ a ∈ secrets, ∀ b ∈ secrets,
      S.agree a (S.publicKey b) = S.agree b (S.publicKey a) ∧ (S.agree a (S.publicKey b)).isSome) :
    (S.withSecrets taken).AgreementLaws where
  agree_comm a b := (hlaws _ (htaken a) _ (htaken b)).1
  agree_publicKey a b := (hlaws _ (htaken a) _ (htaken b)).2

theorem withSecrets_cipherLaws {S : Suite} (laws : S.CipherLaws) (taken : Secret → Secret) :
    (S.withSecrets taken).CipherLaws where
  sealText_isSome := laws.sealText_isSome
  openText_of_sealText := laws.openText_of_sealText

/-- Four secrets: in each of them all bytes are equal. -/
def sampleSecrets : List Secret := [1, 2, 3, 4].map (Octets.replicate 32)

/-- A secret of the sample is taken as it is, any other one for the first of the sample. -/
def sampleSecret (s : Secret) : Secret :=
  if s ∈ sampleSecrets then s else Octets.replicate 32 1

/-- The standard suite on the secrets of the sample. -/
def sample : Suite := standard.withSecrets sampleSecret

theorem sampleSecret_mem (s : Secret) : sampleSecret s ∈ sampleSecrets := by
  unfold sampleSecret
  split
  · assumption
  · decide

/-- X25519 keeps its laws on the sample. -/
theorem agree_sampleSecrets : ∀ a ∈ sampleSecrets, ∀ b ∈ sampleSecrets,
    standard.agree a (standard.publicKey b) = standard.agree b (standard.publicKey a)
      ∧ (standard.agree a (standard.publicKey b)).isSome := by
  decide +kernel

theorem sample_agreementLaws : sample.AgreementLaws :=
  withSecrets_agreementLaws sampleSecret_mem agree_sampleSecrets

theorem sample_cipherLaws : sample.CipherLaws := withSecrets_cipherLaws standard_cipherLaws _

/-- X25519 and ChaCha20-Poly1305 with functions that are computed at once in the place of the hash
    functions: whole handshakes can be evaluated with it. -/
def unhashed : Suite :=
  { standard with
    hash := fun bytes => Octets.ofPrefix 32 bytes.reverse
    derive := fun chain input => (Octets.ofPrefix 32 input, chain) }

/-- A suite with other hash functions. -/
def withHash (S : Suite) (hash : Bytes → Digest) (derive : Key → Bytes → Key × Key) : Suite :=
  { S with hash, derive }

theorem withHash_agreementLaws {S : Suite} (laws : S.AgreementLaws) (hash : Bytes → Digest)
    (derive : Key → Bytes → Key × Key) : (S.withHash hash derive).AgreementLaws where
  agree_comm := laws.agree_comm
  agree_publicKey := laws.agree_publicKey

theorem withHash_cipherLaws {S : Suite} (laws : S.CipherLaws) (hash : Bytes → Digest)
    (derive : Key → Bytes → Key × Key) : (S.withHash hash derive).CipherLaws where
  sealText_isSome := laws.sealText_isSome
  openText_of_sealText := laws.openText_of_sealText

/-- The same on the secrets of the sample. -/
def unhashedSample : Suite := sample.withHash unhashed.hash unhashed.derive

theorem unhashedSample_agreementLaws : unhashedSample.AgreementLaws :=
  withHash_agreementLaws sample_agreementLaws _ _

theorem unhashedSample_cipherLaws : unhashedSample.CipherLaws :=
  withHash_cipherLaws sample_cipherLaws _ _

end Suite

end Gatehouse
