import Gatehouse.Proofs.Handshake.Operations
import Gatehouse.Proofs.Noise.Laws

/-!
# The two sides of an honest handshake agree

An initiator that was given the responder's public key and that responder go through the three acts
in lockstep: at every stage their symmetric states are equal, and each side knows what the other
has told it (`Lockstep`).  Each act takes both sides to the next stage (`Lockstep.actOne`,
`Lockstep.actTwo`, `Lockstep.actThree`); the last one leaves them with the same two keys for the two
directions.  Calls that are not due change nothing on either side, so any number of them may come
in between (`honest_handshake`).
-/

namespace Gatehouse.Machine

variable {S : Suite}

/-! ## One act, sent and taken in -/

/-- A key act that is put together for a secret's public key is accepted by the holder of the
    secret, and both come to the same state and the same key. -/
theorem receiveKeyAct_of_sendKeyAct (agreement : S.AgreementLaws) (cipher : S.CipherLaws)
    (s : Symmetric) (ephemeral own : Secret) :
    ∃ act t temp, sendKeyAct S s ephemeral (S.publicKey own) = .sent act t temp ∧
      receiveKeyAct S s (some own) (KeyAct.ofOctets act) =
        .received (S.publicKey ephemeral) t temp := by
  obtain ⟨shared, hsend, hreceive⟩ := agreement.exists_shared ephemeral own
  let s₂ := (s.mixHash S (S.publicKey ephemeral).bytes).mixKey S shared.bytes
  obtain ⟨tag, t, htag⟩ :=
    Symmetric.exists_sealField cipher (Nat.zero_le 32) s₂.1 s₂.2 0 (Octets.zero 0)
  have hopen := Symmetric.openField_of_sealField cipher htag
  refine ⟨(KeyAct.mk handshakeVersion (S.publicKey ephemeral) tag).toOctets, t, s₂.2, ?_, ?_⟩
  · simp only [sendKeyAct, hsend]
    rw [htag]
  · rw [KeyAct.ofOctets_toOctets]
    simp only [receiveKeyAct, hreceive, ne_eq, not_true_eq_false, if_false]
    rw [hopen]

/-! ## Lockstep -/

/-- What the two sides know of each other when both have come to a stage. -/
def Exchanged (S : Suite) (i : Identity) (eᵢ eᵣ : Secret) : Stage → Machine → Machine → Prop
  | .actOne, _, _ => True
  | .actTwo, a, b => a.localEphemeral = some eᵢ ∧ b.remoteEphemeral = some (S.publicKey eᵢ)
  | .actThree, a, b =>
    a.remoteEphemeral = some (S.publicKey eᵣ) ∧ b.localEphemeral = some eᵣ ∧ a.tempKey = b.tempKey
  | .complete, a, b =>
    b.remoteStatic = some (i.publicKey S) ∧
      ∃ keys, a.sessionKeys = some keys ∧ b.sessionKeys = some ⟨keys.recv, keys.send⟩

/-- An initiator `a` and a responder `b` at the same stage of an honest handshake. -/
structure Lockstep (S : Suite) (i r : Identity) (eᵢ eᵣ : Secret) (stage : Stage)
    (a b : Machine) : Prop where
  /-- The roles never change. -/
  roles : a.role = .initiator ∧ b.role = .responder
  /-- Both are at the same stage. -/
  stages : a.stage = stage ∧ b.stage = stage
  /-- Each side holds its own secret. -/
  statics : a.localStatic = i ∧ b.localStatic = r
  /-- The initiator knows whom it talks to. -/
  remote : a.remoteStatic = some (r.publicKey S)
  /-- Both have taken the same into the transcript and the chaining key. -/
  symmetric : a.symmetric = b.symmetric
  /-- What has been exchanged so far. -/
  exchanged : Exchanged S i eᵢ eᵣ stage a b

variable {i r : Identity} {eᵢ eᵣ : Secret} {a b : Machine}

/-- Fresh machines are in lockstep. -/
theorem lockstep_fresh :
    Lockstep S i r eᵢ eᵣ .actOne (initiator S i (r.publicKey S)) (responder S r) :=
  ⟨⟨rfl, rfl⟩, ⟨rfl, rfl⟩, ⟨rfl, rfl⟩, rfl, rfl, trivial⟩

/-- The initiator's turn. -/
theorem Lockstep.initiator_owes {stage : Stage} (h : Lockstep S i r eᵢ eᵣ stage a b) :
    a.owes .initiator stage = true := by
  rw [owes_iff, h.roles.1, h.stages.1]

/-- The responder's turn. -/
theorem Lockstep.responder_owes {stage : Stage} (h : Lockstep S i r eᵢ eᵣ stage a b) :
    b.owes .responder stage = true := by
  rw [owes_iff, h.roles.2, h.stages.2]

/-- Act one passes. -/
theorem Lockstep.actOne (agreement : S.AgreementLaws) (cipher : S.CipherLaws)
    (h : Lockstep S i r eᵢ eᵣ .actOne a b) :
    ∃ one a' b', a.perform S (.sendOne eᵢ) = (.ok (.act one.bytes), a') ∧
      b.perform S (.receiveOne one) = (.ok .accepted, b') ∧ Lockstep S i r eᵢ eᵣ .actTwo a' b' := by
  obtain ⟨one, t, temp, hsend, hreceive⟩ :=
    receiveKeyAct_of_sendKeyAct agreement cipher a.symmetric eᵢ r.secret
  have hremote : a.remoteStatic = some (S.publicKey r.secret) := h.remote
  refine ⟨one, { a with symmetric := t, localEphemeral := some eᵢ, stage := .actTwo },
    { b with symmetric := t, remoteEphemeral := some (S.publicKey eᵢ), stage := .actTwo },
    ?_, ?_, ?_⟩
  · simp only [perform, sendActOne, h.initiator_owes, if_true, hremote, hsend]
    rfl
  · rw [h.symmetric] at hreceive
    simp only [perform, receiveActOne, h.responder_owes, if_true, h.statics.2, hreceive]
    rfl
  · exact ⟨h.roles, ⟨rfl, rfl⟩, h.statics, h.remote, rfl, rfl, rfl⟩

/-- Act two passes. -/
theorem Lockstep.actTwo (agreement : S.AgreementLaws) (cipher : S.CipherLaws)
    (h : Lockstep S i r eᵢ eᵣ .actTwo a b) :
    ∃ two a' b', b.perform S (.sendTwo eᵣ) = (.ok (.act two.bytes), b') ∧
      a.perform S (.receiveTwo two) = (.ok .accepted, a') ∧
      Lockstep S i r eᵢ eᵣ .actThree a' b' := by
  obtain ⟨two, t, temp, hsend, hreceive⟩ :=
    receiveKeyAct_of_sendKeyAct agreement cipher b.symmetric eᵣ eᵢ
  obtain ⟨hlocal, hremote⟩ := h.exchanged
  refine ⟨two,
    { a with symmetric := t, tempKey := temp, remoteEphemeral := some (S.publicKey eᵣ),
             stage := .actThree },
    { b with symmetric := t, tempKey := temp, localEphemeral := some eᵣ, stage := .actThree },
    ?_, ?_, ?_⟩
  · simp only [perform, sendActTwo, h.responder_owes, if_true, hremote, hsend]
    rfl
  · rw [← h.symmetric] at hreceive
    simp only [perform, receiveActTwo, h.initiator_owes, if_true, hlocal, hreceive]
    rfl
  · exact ⟨h.roles, ⟨rfl, rfl⟩, h.statics, h.remote, rfl, rfl, rfl, rfl⟩

/-- Act three passes, and both sides are done. -/
theorem Lockstep.actThree (agreement : S.AgreementLaws) (cipher : S.CipherLaws)
    (h : Lockstep S i r eᵢ eᵣ .actThree a b) :
    ∃ three a' b', a.perform S .sendThree = (.ok (.act three.bytes), a') ∧
      b.perform S (.receiveThree three) = (.ok .accepted, b') ∧
      Lockstep S i r eᵢ eᵣ .complete a' b' := by
  obtain ⟨hremote, hlocal, htemp⟩ := h.exchanged
  obtain ⟨hi, hr⟩ := h.statics
  -- the static key travels under the key of act two
  obtain ⟨sealedKey, s₁, hkey⟩ := Symmetric.exists_sealField cipher (Nat.le_refl 32) a.symmetric
    a.tempKey 1 (i.publicKey S)
  have hkey' := Symmetric.openField_of_sealField cipher hkey
  rw [h.symmetric, htemp] at hkey'
  -- the responder agrees with the static key that it has just opened
  obtain ⟨shared, hsend, hreceive⟩ := agreement.exists_shared i.secret eᵣ
  let s₂ := s₁.mixKey S shared.bytes
  obtain ⟨tag, s₃, htag⟩ :=
    Symmetric.exists_sealField cipher (Nat.zero_le 32) s₂.1 s₂.2 0 (Octets.zero 0)
  have htag' := Symmetric.openField_of_sealField cipher htag
  let keys : SessionKeys := ⟨(s₃.split S).1, (s₃.split S).2⟩
  refine ⟨(StaticAct.mk handshakeVersion sealedKey tag).toOctets, a.finish s₃ keys,
    { b with remoteStatic := some (i.publicKey S) }.finish s₃ ⟨keys.recv, keys.send⟩, ?_, ?_, ?_⟩
  · simp only [perform, sendActThree, h.initiator_owes, if_true, hremote, hi, hkey, hsend]
    rw [htag]
    rfl
  · simp only [perform, receiveActThree, h.responder_owes, if_true,
      StaticAct.ofOctets_toOctets, ne_eq, not_true_eq_false, if_false, hkey', hlocal]
    rw [show S.agree eᵣ (i.publicKey S) = some shared from hreceive]
    simp only
    rw [htag']
    rfl
  · exact ⟨h.roles, ⟨rfl, rfl⟩, h.statics, h.remote, rfl, rfl, keys, rfl, rfl⟩

/-! ## A whole handshake -/

/-- **An honest handshake.**  An initiator that was given the responder's public key and that
    responder complete the handshake whatever secrets are drawn: each act is accepted as it was
    sent, the responder learns the initiator's public key, and the keys of the two directions are
    mirrored.  At every stage either side may be given any number of operations that it does not
    owe (`strays`), each of which is refused as out of order. -/
theorem honest_handshake (S : Suite) (agreement : S.AgreementLaws) (cipher : S.CipherLaws)
    (i r : Identity) (eᵢ eᵣ : Secret) (straysᵢ straysᵣ : Stage → List Operation)
    (hᵢ : ∀ stage, ∀ op ∈ straysᵢ stage, op.owner ≠ (.initiator, stage))
    (hᵣ : ∀ stage, ∀ op ∈ straysᵣ stage, op.owner ≠ (.responder, stage)) :
    ∃ (one two : Octets keyActSize) (three : Octets staticActSize) (a b : Machine)
        (keys : SessionKeys),
      (initiator S i (r.publicKey S)).performAll S
          (straysᵢ .actOne ++ .sendOne eᵢ ::
            (straysᵢ .actTwo ++ .receiveTwo two ::
              (straysᵢ .actThree ++ .sendThree :: straysᵢ .complete))) =
        (refusals .initiator (straysᵢ .actOne) ++ .ok (.act one.bytes) ::
            (refusals .initiator (straysᵢ .actTwo) ++ .ok .accepted ::
              (refusals .initiator (straysᵢ .actThree) ++ .ok (.act three.bytes) ::
                refusals .initiator (straysᵢ .complete))), a) ∧
      (responder S r).performAll S
          (straysᵣ .actOne ++ .receiveOne one ::
            (straysᵣ .actTwo ++ .sendTwo eᵣ ::
              (straysᵣ .actThree ++ .receiveThree three :: straysᵣ .complete))) =
        (refusals .responder (straysᵣ .actOne) ++ .ok .accepted ::
            (refusals .responder (straysᵣ .actTwo) ++ .ok (.act two.bytes) ::
              (refusals .responder (straysᵣ .actThree) ++ .ok .accepted ::
                refusals .responder (straysᵣ .complete))), b) ∧
      a.isComplete = true ∧ b.isComplete = true ∧
      b.remoteStatic = some (i.publicKey S) ∧
      a.sessionKeys = some keys ∧ b.sessionKeys = some ⟨keys.recv, keys.send⟩ := by
  have h₀ : Lockstep S i r eᵢ eᵣ .actOne (initiator S i (r.publicKey S)) (responder S r) :=
    lockstep_fresh
  obtain ⟨one, a₁, b₁, hsend₁, hreceive₁, h₁⟩ := h₀.actOne agreement cipher
  obtain ⟨two, a₂, b₂, hsend₂, hreceive₂, h₂⟩ := h₁.actTwo agreement cipher
  obtain ⟨three, a₃, b₃, hsend₃, hreceive₃, h₃⟩ := h₂.actThree agreement cipher
  obtain ⟨hremote, keys, hkeys, hkeys'⟩ := h₃.exchanged
  refine ⟨one, two, three, a₃, b₃, keys, ?_, ?_, ?_, ?_, hremote, hkeys, hkeys'⟩
  · -- the initiator's side
    rw [performAll_strays_append S h₀.roles.1 h₀.stages.1 (hᵢ .actOne) hsend₁,
      performAll_strays_append S h₁.roles.1 h₁.stages.1 (hᵢ .actTwo) hreceive₂,
      performAll_strays_append S h₂.roles.1 h₂.stages.1 (hᵢ .actThree) hsend₃,
      performAll_strays S h₃.roles.1 h₃.stages.1 (hᵢ .complete)]
  · -- the responder's side
    rw [performAll_strays_append S h₀.roles.2 h₀.stages.2 (hᵣ .actOne) hreceive₁,
      performAll_strays_append S h₁.roles.2 h₁.stages.2 (hᵣ .actTwo) hsend₂,
      performAll_strays_append S h₂.roles.2 h₂.stages.2 (hᵣ .actThree) hreceive₃,
      performAll_strays S h₃.roles.2 h₃.stages.2 (hᵣ .complete)]
  · rw [isComplete, h₃.stages.1]; rfl
  · rw [isComplete, h₃.stages.2]; rfl

/-- X25519 on sample secrets, where each side is also asked at every stage for what the other side
    does: the initiator for act two, the responder to take in a blank act two and to send act
    three. -/
theorem honest_handshake_sample :
    ∃ (one two : Octets keyActSize) (three : Octets staticActSize) (a b : Machine)
        (keys : SessionKeys),
      let i : Identity := ⟨Octets.replicate 32 1⟩
      let r : Identity := ⟨Octets.replicate 32 2⟩
      let blank : Operation := .receiveTwo (Octets.zero keyActSize)
      let again : Operation := .sendTwo (Octets.replicate 32 1)
      (initiator .sample i (r.publicKey .sample)).performAll .sample
          [again, .sendOne (Octets.replicate 32 3), again, .receiveTwo two, again, .sendThree,
            again] =
        ([.error (.outOfOrder .two .initiator), .ok (.act one.bytes),
          .error (.outOfOrder .two .initiator), .ok .accepted,
          .error (.outOfOrder .two .initiator), .ok (.act three.bytes),
          .error (.outOfOrder .two .initiator)], a) ∧
      (responder .sample r).performAll .sample
          [blank, .sendThree, .receiveOne one, blank, .sendThree, .sendTwo (Octets.replicate 32 4),
            blank, .sendThree, .receiveThree three, blank, .sendThree] =
        ([.error (.outOfOrder .two .responder), .error (.outOfOrder .three .responder),
          .ok .accepted,
          .error (.outOfOrder .two .responder), .error (.outOfOrder .three .responder),
          .ok (.act two.bytes),
          .error (.outOfOrder .two .responder), .error (.outOfOrder .three .responder),
          .ok .accepted,
          .error (.outOfOrder .two .responder), .error (.outOfOrder .three .responder)], b) ∧
      a.isComplete = true ∧ b.isComplete = true ∧
      b.remoteStatic = some (i.publicKey .sample) ∧
      a.sessionKeys = some keys ∧ b.sessionKeys = some ⟨keys.recv, keys.send⟩ :=
  honest_handshake .sample Suite.sample_agreementLaws Suite.sample_cipherLaws
    ⟨Octets.replicate 32 1⟩ ⟨Octets.replicate 32 2⟩ (Octets.replicate 32 3) (Octets.replicate 32 4)
    (fun _ => [.sendTwo (Octets.replicate 32 1)])
    (fun _ => [.receiveTwo (Octets.zero keyActSize), .sendThree])
    (by simp [Operation.owner]) (by simp [Operation.owner])

end Gatehouse.Machine
