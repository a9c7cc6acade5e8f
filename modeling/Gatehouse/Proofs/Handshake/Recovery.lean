import Gatehouse.Proofs.Handshake.Agreement
import Gatehouse.Proofs.Handshake.Invariant

/-!
# What a refused act leaves behind

An act that is refused leaves a machine at the stage where it was.  At most the symmetric state and
the temporary key have taken in what was read (`Performed.failed`), and an act of another version
leaves no trace at all (`unchanged_of_unknownVersion`).  A machine at a stage where it expects an
act can always be completed, whatever its symmetric state is: by a peer that is in step with just
this state (`completable_of_receipt`).  A refusal is therefore never the end of a machine
(`refused_act_recoverable`).
-/

namespace Gatehouse

/-- Is this an error that the bytes of an act cause? -/
def HandshakeError.isRefusal : HandshakeError → Bool
  | .unknownVersion _ _ | .invalidKey _ | .badTag _ => true
  | .outOfOrder _ _ | .cipher _ => false

namespace Machine

/-- Does this operation take in an act? -/
def Operation.isReceipt : Operation → Bool
  | .receiveOne _ | .receiveTwo _ | .receiveThree _ => true
  | .sendOne _ | .sendTwo _ | .sendThree => false

variable {S : Suite}

/-! ## Machines that can be completed -/

/-- There are operations that complete the machine, each of which succeeds. -/
def Completable (S : Suite) (m : Machine) : Prop :=
  ∃ more, (∀ answer ∈ (m.performAll S more).1, answer.isOk = true) ∧
    (m.performAll S more).2.isComplete = true ∧
    (m.performAll S more).2.sessionKeys.isSome = true

section Completable

variable {m m' : Machine} {i r : Identity} {eᵢ eᵣ : Secret} {a b : Machine} {stage : Stage}

theorem Completable.of_perform {op : Operation} {reply : Reply}
    (hop : m.perform S op = (.ok reply, m')) (rest : Completable S m') : Completable S m := by
  obtain ⟨more, hok, hcomplete, hkeys⟩ := rest
  refine ⟨op :: more, ?_, ?_, ?_⟩
  all_goals rw [performAll_cons, hop]
  · exact List.forall_mem_cons.2 ⟨rfl, hok⟩
  · exact hcomplete
  · exact hkeys

/-- The responder of a lockstep is completed by the initiator's acts. -/
theorem Lockstep.completable_responder (agreement : S.AgreementLaws) (cipher : S.CipherLaws)
    (h : Lockstep S i r eᵢ eᵣ stage a b) : Completable S b := by
  have complete : ∀ {a b}, Lockstep S i r eᵢ eᵣ .complete a b → Completable S b := by
    intro a b h
    obtain ⟨-, keys, -, hkeys⟩ := h.exchanged
    refine ⟨[], List.forall_mem_nil _, ?_, ?_⟩
    · exact beq_iff_eq.2 h.stages.2
    · exact Option.isSome_iff_exists.2 ⟨_, hkeys⟩
  have actThree : ∀ {a b}, Lockstep S i r eᵢ eᵣ .actThree a b → Completable S b := by
    intro a b h
    obtain ⟨three, a', b', -, hreceive, h'⟩ := h.actThree agreement cipher
    exact .of_perform hreceive (complete h')
  have actTwo : ∀ {a b}, Lockstep S i r eᵢ eᵣ .actTwo a b → Completable S b := by
    intro a b h
    obtain ⟨two, a', b', hsend, -, h'⟩ := h.actTwo agreement cipher
    exact .of_perform hsend (actThree h')
  cases stage with
  | actOne =>
    obtain ⟨one, a', b', -, hreceive, h'⟩ := h.actOne agreement cipher
    exact .of_perform hreceive (actTwo h')
  | actTwo => exact actTwo h
  | actThree => exact actThree h
  | complete => exact complete h

/-- A responder that expects act one is in step with an initiator that has its symmetric state. -/
theorem completable_actOne (agreement : S.AgreementLaws) (cipher : S.CipherLaws)
    (hrole : m.role = .responder) (hstage : m.stage = .actOne) : Completable S m := by
  let peer : Machine :=
    { initiator S m.localStatic (m.localStatic.publicKey S) with symmetric := m.symmetric }
  have inStep : Lockstep S m.localStatic m.localStatic m.localStatic.secret m.localStatic.secret
      .actOne peer m :=
    ⟨⟨rfl, hrole⟩, ⟨rfl, hstage⟩, ⟨rfl, rfl⟩, rfl, rfl, trivial⟩
  exact inStep.completable_responder agreement cipher

/-- A responder that expects act three is in step with an initiator that has its symmetric state and
    temporary key. -/
theorem completable_actThree (agreement : S.AgreementLaws) (cipher : S.CipherLaws)
    (hrole : m.role = .responder) (hstage : m.stage = .actThree) {own : Secret}
    (hown : m.localEphemeral = some own) : Completable S m := by
  let peer : Machine :=
    { initiator S m.localStatic (m.localStatic.publicKey S) with
      stage := .actThree, symmetric := m.symmetric, tempKey := m.tempKey,
      remoteEphemeral := some (S.publicKey own) }
  have inStep : Lockstep S m.localStatic m.localStatic own own .actThree peer m :=
    ⟨⟨rfl, hrole⟩, ⟨rfl, hstage⟩, ⟨rfl, rfl⟩, rfl, rfl, rfl, hown, rfl⟩
  exact inStep.completable_responder agreement cipher

/-- An initiator whose other side has drawn a key that contributes can send act three. -/
theorem completable_of_sendThree (agreement : S.AgreementLaws) (cipher : S.CipherLaws)
    (hrole : m.role = .initiator) (hstage : m.stage = .actThree) {drawn : Secret}
    (hdrawn : m.remoteEphemeral = some (S.publicKey drawn)) : Completable S m := by
  have howes : m.owes .initiator .actThree = true := by rw [owes_iff, hrole, hstage]
  obtain ⟨sealedKey, s₁, hkey⟩ := Symmetric.exists_sealField cipher (Nat.le_refl 32) m.symmetric
    m.tempKey 1 (m.localStatic.publicKey S)
  obtain ⟨shared, hshared, -⟩ := agreement.exists_shared m.localStatic.secret drawn
  let s₂ := s₁.mixKey S shared.bytes
  obtain ⟨tag, s₃, htag⟩ :=
    Symmetric.exists_sealField cipher (Nat.zero_le 32) s₂.1 s₂.2 0 (Octets.zero 0)
  have hsend : m.perform S .sendThree =
      (.ok (.act (StaticAct.mk handshakeVersion sealedKey tag).toOctets.bytes),
        m.finish s₃ ⟨(s₃.split S).1, (s₃.split S).2⟩) := by
    simp only [perform, sendActThree, howes, if_true, hdrawn, hkey, hshared]
    rw [htag]
    rfl
  exact .of_perform hsend ⟨[], List.forall_mem_nil _, rfl, rfl⟩

/-- An initiator that expects act two accepts one that was sealed for its symmetric state, whoever
    it means to reach. -/
theorem completable_actTwo (agreement : S.AgreementLaws) (cipher : S.CipherLaws)
    (hrole : m.role = .initiator) (hstage : m.stage = .actTwo) {own : Secret}
    (hown : m.localEphemeral = some own) : Completable S m := by
  have howes : m.owes .initiator .actTwo = true := by rw [owes_iff, hrole, hstage]
  obtain ⟨two, t, temp, -, htwo⟩ :=
    receiveKeyAct_of_sendKeyAct agreement cipher m.symmetric own own
  have hreceive : m.perform S (.receiveTwo two) =
      (.ok .accepted, { m with symmetric := t, tempKey := temp,
                               remoteEphemeral := some (S.publicKey own), stage := .actThree }) := by
    simp only [perform, receiveActTwo, howes, if_true, hown, htwo]
    rfl
  exact .of_perform hreceive (completable_of_sendThree agreement cipher hrole rfl rfl)

/-- A machine that expects an act can be completed, whatever its symmetric state is. -/
theorem completable_of_receipt (agreement : S.AgreementLaws) (cipher : S.CipherLaws) {role : Role}
    {own : Identity} {remote : PublicKey} (coherent : Coherent role own remote m) {op : Operation}
    (receipt : op.isReceipt = true) (due : op.owner = (m.role, m.stage)) : Completable S m := by
  have hdraw := coherent.localEphemeral_eq
  cases op with
  | receiveOne act =>
    obtain ⟨hrole, hstage⟩ := Prod.mk.inj due
    exact completable_actOne agreement cipher hrole.symm hstage.symm
  | receiveTwo act =>
    obtain ⟨hrole, hstage⟩ := Prod.mk.inj due
    rw [← hrole, ← hstage] at hdraw
    obtain ⟨drawn, hdrawn⟩ := Option.isSome_iff_exists.1 hdraw
    exact completable_actTwo agreement cipher hrole.symm hstage.symm hdrawn
  | receiveThree act =>
    obtain ⟨hrole, hstage⟩ := Prod.mk.inj due
    rw [← hrole, ← hstage] at hdraw
    obtain ⟨drawn, hdrawn⟩ := Option.isSome_iff_exists.1 hdraw
    exact completable_actThree agreement cipher hrole.symm hstage.symm hdrawn
  | sendOne ephemeral => cases receipt
  | sendTwo ephemeral => cases receipt
  | sendThree => cases receipt

end Completable

/-! ## Refusals -/

section Refusals

variable {m m' : Machine} {op : Operation} {act : Act} {version : UInt8}

theorem unchanged_receiveActOne {a : Octets keyActSize}
    (refused : m.receiveActOne S a = (.error (.unknownVersion act version), m')) : m' = m := by
  unfold receiveActOne at refused
  split at refused
  · split at refused <;> cases refused
    rfl
  · cases refused

theorem unchanged_receiveActTwo {a : Octets keyActSize}
    (refused : m.receiveActTwo S a = (.error (.unknownVersion act version), m')) : m' = m := by
  unfold receiveActTwo at refused
  split at refused
  · split at refused <;> cases refused
    rfl
  · cases refused

theorem unchanged_receiveActThree {a : Octets staticActSize}
    (refused : m.receiveActThree S a = (.error (.unknownVersion act version), m')) : m' = m := by
  unfold receiveActThree at refused
  simp only at refused
  split at refused
  · split at refused
    · cases refused
      rfl
    -- whatever goes wrong after the version has another error
    split at refused
    · cases refused
    split at refused
    · cases refused
    split at refused
    · cases refused
    split at refused <;> cases refused
  · cases refused

/-- The version is looked at before anything is taken in. -/
theorem unchanged_of_unknownVersion (receipt : op.isReceipt = true)
    (refused : m.perform S op = (.error (.unknownVersion act version), m')) : m' = m := by
  cases op with
  | receiveOne a => exact unchanged_receiveActOne (answer_of_error refused)
  | receiveTwo a => exact unchanged_receiveActTwo (answer_of_error refused)
  | receiveThree a => exact unchanged_receiveActThree (answer_of_error refused)
  | sendOne ephemeral => cases receipt
  | sendTwo ephemeral => cases receipt
  | sendThree => cases receipt

/-- **Refused acts.**  An act whose bytes a machine refuses, after any operations before, leaves the
    machine where it stood: no more than the symmetric state and the temporary key have taken
    something in, and nothing at all if the act was of another version.  The machine is not complete
    and holds no session keys then, but there are always operations that complete it, each of which
    succeeds. -/
theorem refused_act_recoverable (S : Suite) (agreement : S.AgreementLaws) (cipher : S.CipherLaws)
    (role : Role) (own : Identity) (remote : PublicKey) (ops : List Operation) (op : Operation)
    (receipt : op.isReceipt = true) (error : HandshakeError) (refusal : error.isRefusal = true)
    (m m' : Machine) (reached : m = ((opening S own remote role).performAll S ops).2)
    (refused : m.perform S op = (.error error, m')) :
    (∃ s temp, m' = { m with symmetric := s, tempKey := temp }) ∧
      ((∃ act version, error = .unknownVersion act version) → m' = m) ∧
      m'.isComplete = false ∧ m'.sessionKeys = none ∧ Completable S m' := by
  have performed : Performed S m op (.error error) m' := by
    have hspec := perform_spec (S := S) m op
    rw [refused] at hspec
    exact hspec
  have coherent : Coherent role own remote m' := by
    have hm : Coherent role own remote m := by
      rw [reached]
      exact (coherent_opening role own remote).performAll ops
    exact hm.performed performed
  refine ⟨?_, ?_, ?_⟩
  · cases performed with
    | stray notDue => cases refusal
    | failed due error s temp => exact ⟨s, temp, rfl⟩
  · rintro ⟨act, version, rfl⟩
    exact unchanged_of_unknownVersion receipt refused
  · have due : op.owner = (m'.role, m'.stage) := by
      cases performed with
      | stray notDue => cases refusal
      | failed due error s temp => exact due
    have hcomplete : m'.isComplete = false := by
      rw [isComplete, beq_eq_false_iff_ne]
      intro hstage
      exact owner_ne_complete op m'.role (hstage ▸ due)
    refine ⟨hcomplete, ?_, completable_of_receipt agreement cipher coherent receipt due⟩
    have hkeys := coherent.sessionKeys_eq
    rw [hcomplete] at hkeys
    exact Option.isNone_iff_eq_none.1 (Option.isSome_eq_false_iff.1 hkeys)

/-- Act one with a key of low order: the responder has taken the key in, and can still be
    completed. -/
theorem refused_act_recoverable_sample :
    let m := responder .sample ⟨Octets.replicate 32 2⟩
    let op : Operation := .receiveOne (Octets.zero keyActSize)
    m.perform .sample op = (.error (.invalidKey .one), (m.perform .sample op).2) ∧
      (m.perform .sample op).2 ≠ m ∧ Completable .sample (m.perform .sample op).2 := by
  intro m op
  have refused : m.perform .sample op = (.error (.invalidKey .one), (m.perform .sample op).2) := by
    decide +kernel
  refine ⟨refused, by decide +kernel, ?_⟩
  exact (refused_act_recoverable .sample Suite.sample_agreementLaws Suite.sample_cipherLaws
    .responder ⟨Octets.replicate 32 2⟩ (Octets.zero 32) [] op rfl (.invalidKey .one) rfl m _ rfl
    refused).2.2.2.2

/-- A responder refuses an act one of version 1, and then accepts the same act in version 0. -/
theorem act_accepted_after_refusal :
    let one : KeyAct :=
      { version := 0
        key := ⟨[93, 254, 221, 59, 107, 212, 127, 111, 162, 142, 225, 93, 150, 157, 91, 176, 234,
          83, 119, 77, 72, 139, 218, 249, 223, 28, 110, 1, 36, 179, 239, 34], rfl⟩
        tag := ⟨[147, 23, 8, 184, 214, 47, 201, 214, 209, 221, 84, 83, 85, 30, 239, 32], rfl⟩ }
    let m := responder .standard ⟨Octets.replicate 32 2⟩
    (m.performAll .standard
        [.receiveOne { one with version := 1 }.toOctets, .receiveOne one.toOctets]).1 =
      [.error (.unknownVersion .one 1), .ok .accepted] := by
  decide +kernel

end Refusals

end Machine

end Gatehouse
