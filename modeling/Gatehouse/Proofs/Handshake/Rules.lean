import Gatehouse.Handshake.Machine
import Gatehouse.Proofs.Noise.Pattern

/-!
# Acts under the rules

What the rules of a pattern make of the acts of the handshake machine.  A field that is sealed or
opened with the running counter is one of `Symmetric`'s; a message of an ephemeral key and an
agreement is a key act (`write_keyAct`, `read_keyAct`); a sealed static key is read off the front
of a static act (`readToken_static`).
-/

namespace Gatehouse

open Noise

variable {S : Suite}

namespace Noise.Party

/-! ## Fields under the rules -/

/-- The hash and the chaining key of a party. -/
def symmetric (p : Party) : Symmetric := ⟨p.h, p.ck⟩

/-- The party with another symmetric state, a cipher key and the number of texts sealed with it. -/
def moved (p : Party) (s : Symmetric) (key : Key) (count : UInt64) : Party :=
  { p with h := s.hash, ck := s.chain, cipher := some (key, count) }

section Fields

variable {n : Nat} {p : Party} {key : Key} {count : UInt64}

/-- A field that is sealed with the running counter. -/
theorem encryptAndHash_of_sealField (field : Octets n) {c : Octets (n + 16)} {t : Symmetric}
    (hkey : p.cipher = some (key, count))
    (h : p.symmetric.sealField S key count field = some (c, t)) :
    p.encryptAndHash S field.bytes = .ok (c.bytes, p.moved t key (count + 1)) := by
  obtain ⟨htext, rfl⟩ := Symmetric.sealText_of_sealField S h
  replace htext : S.sealText key count p.h.bytes field.bytes = some c.bytes := htext
  simp only [encryptAndHash, hkey, htext]
  rfl

/-- A field that cannot be sealed. -/
theorem encryptAndHash_of_sealField_none (field : Octets n) (hkey : p.cipher = some (key, count))
    (h : p.symmetric.sealField S key count field = none) :
    p.encryptAndHash S field.bytes = .error .unsealed := by
  have htext : S.sealText key count p.h.bytes field.bytes = none :=
    (Symmetric.sealField_eq_none_iff S).1 h
  simp only [encryptAndHash, hkey, htext]

/-- A field that is opened with the running counter. -/
theorem decryptAndHash_of_openField (field : Octets (n + 16)) {b : Octets n} {t : Symmetric}
    (hkey : p.cipher = some (key, count))
    (h : p.symmetric.openField S key count field = some (b, t)) :
    p.decryptAndHash S field.bytes = .ok (b.bytes, p.moved t key (count + 1)) := by
  obtain ⟨htext, rfl⟩ := Symmetric.openText_of_openField S h
  replace htext : S.openText key count p.h.bytes field.bytes = some b.bytes := htext
  simp only [decryptAndHash, hkey, htext]
  rfl

/-- A field that does not open. -/
theorem decryptAndHash_of_openField_none (field : Octets (n + 16))
    (hkey : p.cipher = some (key, count))
    (h : p.symmetric.openField S key count field = none) :
    p.decryptAndHash S field.bytes = .error .forged := by
  have htext : S.openText key count p.h.bytes field.bytes = none :=
    (Symmetric.openField_eq_none_iff S).1 h
  simp only [decryptAndHash, hkey, htext]

/-- The empty payload under a fresh key. -/
theorem encryptAndHash_nil {c : Octets 16} {t : Symmetric} (hkey : p.cipher = some (key, 0))
    (h : p.symmetric.sealField S key 0 (Octets.zero 0) = some (c, t)) :
    p.encryptAndHash S [] = .ok (c.bytes, p.moved t key 1) := by
  have hpayload := encryptAndHash_of_sealField (Octets.zero 0) hkey h
  exact hpayload

/-- A tag under a fresh key opens to the empty payload. -/
theorem decryptAndHash_tag {tag : Octets 16} {b : Octets 0} {t : Symmetric}
    (hkey : p.cipher = some (key, 0))
    (h : p.symmetric.openField S (n := 0) key 0 tag = some (b, t)) :
    p.decryptAndHash S tag.bytes = .ok ([], p.moved t key 1) := by
  have hpayload := decryptAndHash_of_openField (n := 0) tag hkey h
  rw [List.length_eq_zero_iff.1 b.length_eq] at hpayload
  exact hpayload

end Fields

/-- Agreeing, when both keys are there. -/
theorem mixAgreement_eq {p : Party} {i r own other : Half} {secret : Secret} {key : PublicKey}
    (hsides : p.sides i r = (own, other)) (hmine : p.mine own = some secret)
    (htheirs : p.theirs other = some key) :
    p.mixAgreement S i r =
      match S.agree secret key with
      | none => .error .lowOrder
      | some shared => .ok (p.mixKey S shared.bytes) := by
  cases hshared : S.agree secret key with
  | none => simp only [mixAgreement, hsides, hmine, htheirs, hshared]
  | some shared => simp only [mixAgreement, hsides, hmine, htheirs, hshared]

/-! ## A message that is sent or received -/

section Message

variable {p : Party} {sender : Role} {tokens : List Token}

/-- A message of this side's is written. -/
theorem step_eq_write (hsender : sender = p.role) (incoming : List Bytes) :
    p.step S ⟨sender, tokens⟩ incoming =
      (p.write S tokens).map fun r => (.wrote r.1, r.2, incoming) := by
  unfold step
  rw [if_pos hsender]
  cases p.write S tokens with
  | error fault => rfl
  | ok r => rfl

/-- A message of the other side's is read. -/
theorem step_eq_read (hsender : sender ≠ p.role) (b : Bytes) (rest : List Bytes) :
    p.step S ⟨sender, tokens⟩ (b :: rest) =
      (p.read S tokens b).map fun p' => (.took, p', rest) := by
  unfold step
  rw [if_neg hsender]
  simp only
  cases p.read S tokens b with
  | error fault => rfl
  | ok p' => rfl

end Message

/-! ## A key and an agreement

Each message of the pattern is a key and then an agreement. -/

section Pair

variable {p p₁ : Party} {half i r own other : Half} {b : Bytes} {secret : Secret}
  {remote : PublicKey}

/-- Once its key is written, a message goes on with the agreement, and ends with a tag under the
    fresh key. -/
theorem write_pair (hkey : p.writeToken S (.key half) = .ok (b, p₁))
    (hsides : p₁.sides i r = (own, other)) (hmine : p₁.mine own = some secret)
    (htheirs : p₁.theirs other = some remote) :
    p.write S [.key half, .agreement i r] =
      match S.agree secret remote with
      | none => .error .lowOrder
      | some shared =>
        let (s, key) := p₁.symmetric.mixKey S shared.bytes
        match s.sealField S key 0 (Octets.zero 0) with
        | none => .error .unsealed
        | some (tag, t) => .ok (handshakeVersion :: (b ++ tag.bytes), p₁.moved t key 1) := by
  have hagree := mixAgreement_eq (S := S) hsides hmine htheirs
  rw [write, writeTokens, hkey]
  simp only [writeTokens, writeToken, hagree, bind, Except.bind, pure, Except.pure]
  cases S.agree secret remote with
  | none => rfl
  | some shared =>
    -- the payload is the empty field
    let s := p₁.symmetric.mixKey S shared.bytes
    simp only [Except.map, List.append_nil]
    cases htag : s.1.sealField S s.2 0 (Octets.zero 0) with
    | none =>
      have hpayload : (p₁.mixKey S shared.bytes).encryptAndHash S [] = .error .unsealed :=
        encryptAndHash_of_sealField_none (Octets.zero 0) rfl htag
      rw [hpayload]
    | some sent =>
      obtain ⟨tag, t⟩ := sent
      have hpayload : (p₁.mixKey S shared.bytes).encryptAndHash S [] =
          .ok (tag.bytes, p₁.moved t s.2 1) :=
        encryptAndHash_nil rfl htag
      rw [hpayload]

theorem write_pair_error {fault : Fault} (hkey : p.writeToken S (.key half) = .error fault) :
    p.write S [.key half, .agreement i r] = .error fault := by
  rw [write, writeTokens, hkey]
  rfl

/-- Once its key is read, a message goes on with the agreement, and what is left is a tag under the
    fresh key. -/
theorem read_pair {tag : Octets 16} (hkey : p.readToken S b (.key half) = .ok (tag.bytes, p₁))
    (hsides : p₁.sides i r = (own, other)) (hmine : p₁.mine own = some secret)
    (htheirs : p₁.theirs other = some remote) :
    p.read S [.key half, .agreement i r] (handshakeVersion :: b) =
      match S.agree secret remote with
      | none => .error .lowOrder
      | some shared =>
        let (s, key) := p₁.symmetric.mixKey S shared.bytes
        match s.openField S (n := 0) key 0 tag with
        | none => .error .forged
        | some (_, t) => .ok (p₁.moved t key 1) := by
  have hagree := mixAgreement_eq (S := S) hsides hmine htheirs
  rw [read, if_neg (by simp), readTokens, hkey]
  simp only [readTokens, readToken, hagree, bind, Except.bind, pure, Except.pure]
  cases S.agree secret remote with
  | none => rfl
  | some shared =>
    let s := p₁.symmetric.mixKey S shared.bytes
    simp only [Except.map]
    cases htag : s.1.openField S (n := 0) s.2 0 tag with
    | none =>
      have hpayload : (p₁.mixKey S shared.bytes).decryptAndHash S tag.bytes = .error .forged :=
        decryptAndHash_of_openField_none (n := 0) tag rfl htag
      rw [hpayload]
    | some opened =>
      obtain ⟨payload, t⟩ := opened
      have hpayload : (p₁.mixKey S shared.bytes).decryptAndHash S tag.bytes =
          .ok ([], p₁.moved t s.2 1) :=
        decryptAndHash_tag rfl htag
      rw [hpayload]
      rfl

theorem read_pair_error {fault : Fault} (hkey : p.readToken S b (.key half) = .error fault) :
    p.read S [.key half, .agreement i r] (handshakeVersion :: b) = .error fault := by
  rw [read, if_neg (by simp), readTokens, hkey]
  rfl

theorem read_version {tokens : List Token} {v : UInt8} (hv : v ≠ handshakeVersion) :
    p.read S tokens (v :: b) = .error (.version v) := by
  rw [read, if_pos hv]

end Pair

/-! ## Key acts under the rules -/

/-- The party that has drawn its ephemeral key. -/
def drawn (p : Party) : Party := { p with e := some p.draw }

/-- The party that has got the other side's ephemeral key. -/
def told (p : Party) (key : PublicKey) : Party := { p with re := some key }

/-- A message of an ephemeral key and an agreement with it is a key act. -/
theorem write_keyAct {p : Party} {i r other : Half} {remote : PublicKey}
    (hsides : p.sides i r = (.ephemeral, other)) (htheirs : p.theirs other = some remote) :
    p.write S [.e, .agreement i r] =
      match Machine.sendKeyAct S p.symmetric p.draw remote with
      | .lowOrder _ => .error .lowOrder
      | .unsealed _ _ => .error .unsealed
      | .sent act s temp => .ok (act.bytes, p.drawn.moved s temp 1) := by
  let p₁ := p.drawn.mixHash S (S.publicKey p.draw).bytes
  have hkey : p.writeToken S .e = .ok ((S.publicKey p.draw).bytes, p₁) := rfl
  have htheirs₁ : p₁.theirs other = some remote := by cases other <;> exact htheirs
  rw [Token.e, write_pair hkey hsides rfl htheirs₁]
  have hsymmetric : p₁.symmetric = p.symmetric.mixHash S (S.publicKey p.draw).bytes := rfl
  simp only [Machine.sendKeyAct, hsymmetric]
  cases S.agree p.draw remote with
  | none => rfl
  | some shared =>
    let s := (p.symmetric.mixHash S (S.publicKey p.draw).bytes).mixKey S shared.bytes
    simp only
    cases s.1.sealField S s.2 0 (Octets.zero 0) <;> rfl

/-- Reading such a message is taking in a key act. -/
theorem read_keyAct {p : Party} {i r own : Half} {secret : Secret} (act : Octets keyActSize)
    (hsides : p.sides i r = (own, .ephemeral)) (hmine : p.mine own = some secret) :
    p.read S [.e, .agreement i r] act.bytes =
      match Machine.receiveKeyAct S p.symmetric (some secret) (KeyAct.ofOctets act) with
      | .unknownVersion v => .error (.version v)
      | .noSecret _ => .error .misfit
      | .lowOrder _ => .error .lowOrder
      | .badTag _ _ => .error .forged
      | .received key s temp => .ok ((p.told key).moved s temp 1) := by
  obtain ⟨fields, rfl⟩ : ∃ fields : KeyAct, act = fields.toOctets :=
    ⟨KeyAct.ofOctets act, (KeyAct.toOctets_ofOctets act).symm⟩
  rw [KeyAct.ofOctets_toOctets]
  by_cases hv : fields.version ≠ handshakeVersion
  · rw [Machine.receiveKeyAct, if_pos hv]
    exact read_version hv
  have hbytes : fields.toOctets.bytes =
      handshakeVersion :: (fields.key.bytes ++ fields.tag.bytes) := by
    rw [← Decidable.not_not.1 hv]
    rfl
  let p₁ := (p.told fields.key).mixHash S fields.key.bytes
  have hkey : p.readToken S (fields.key.bytes ++ fields.tag.bytes) .e =
      .ok (fields.tag.bytes, p₁) := by
    have hcut : (fields.key.bytes ++ fields.tag.bytes).take 32 = fields.key.bytes :=
      List.take_left' fields.key.length_eq
    have hrest : (fields.key.bytes ++ fields.tag.bytes).drop 32 = fields.tag.bytes :=
      List.drop_left' fields.key.length_eq
    rw [Token.e, readToken, hcut, Octets.ofBytes?_bytes, hrest]
    rfl
  have hmine₁ : p₁.mine own = some secret := by cases own <;> exact hmine
  have hsymmetric : p₁.symmetric = p.symmetric.mixHash S fields.key.bytes := rfl
  rw [hbytes, Token.e, read_pair hkey hsides hmine₁ rfl, Machine.receiveKeyAct, if_neg hv]
  simp only [hsymmetric]
  cases S.agree secret fields.key with
  | none => rfl
  | some shared =>
    let s := (p.symmetric.mixHash S fields.key.bytes).mixKey S shared.bytes
    simp only
    cases s.1.openField S (n := 0) s.2 0 fields.tag <;> rfl

/-! ## The static key under the rules -/

/-- The party that has got the other side's static key. -/
def introduced (p : Party) (key : PublicKey) : Party := { p with rs := some key }

section Static

variable {p : Party} {key : Key} {count : UInt64} {c : Octets 48} {tail : Bytes}

/-- Reading a sealed static key and what follows it. -/
theorem readToken_static {remote : PublicKey} {t : Symmetric} (hkey : p.cipher = some (key, count))
    (h : p.symmetric.openField S (n := 32) key count c = some (remote, t)) :
    p.readToken S (c.bytes ++ tail) (.key .static) =
      .ok (tail, (p.introduced remote).moved t key (count + 1)) := by
  have hcut : (c.bytes ++ tail).take (32 + 16) = c.bytes := List.take_left' c.length_eq
  have hrest : (c.bytes ++ tail).drop (32 + 16) = tail := List.drop_left' c.length_eq
  have hopen := decryptAndHash_of_openField (n := 32) c hkey h
  simp only [readToken, hkey, Option.isSome_some, if_true, hcut, hopen, hrest, bind, Except.bind,
    Octets.ofBytes?_bytes]
  rfl

theorem readToken_static_none (hkey : p.cipher = some (key, count))
    (h : p.symmetric.openField S (n := 32) key count c = none) :
    p.readToken S (c.bytes ++ tail) (.key .static) = .error .forged := by
  have hcut : (c.bytes ++ tail).take (32 + 16) = c.bytes := List.take_left' c.length_eq
  have hopen := decryptAndHash_of_openField_none (n := 32) c hkey h
  simp only [readToken, hkey, Option.isSome_some, if_true, hcut, hopen, bind, Except.bind]

end Static

/-! ## The keys of the two directions -/

theorem split_initiator {p : Party} (hrole : p.role = .initiator) :
    p.split S = p.symmetric.split S := by
  rw [split, hrole]
  rfl

theorem split_responder {p : Party} (hrole : p.role = .responder) :
    p.split S = ((p.symmetric.split S).2, (p.symmetric.split S).1) := by
  rw [split, hrole]
  rfl

end Noise.Party

end Gatehouse
