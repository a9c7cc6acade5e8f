import Gatehouse.Proofs.Handshake.Buffers
import Gatehouse.Proofs.Handshake.Failures
import Gatehouse.Proofs.Handshake.Nonces

/-!
# Errors that never come up

An operation has an answer for a field that its machine does not hold and for a field that cannot
be sealed.  On a machine that somebody has brought to where it is by operations, neither comes up:
what belongs to the stage is there, and a text of the lengths that there are can be sealed.  A
stored key has been agreed on before, so that it contributes with any other secret, too
(`Introduces`).  What is left is said once for all six operations, as one constructor for each way
that an operation which is due can go (`Due`).
-/

namespace Gatehouse

namespace Suite

/-- A key that contributes, with whatever secret. -/
def Contributory (S : Suite) (key : PublicKey) : Prop := ∀ own, (S.agree own key).isSome = true

/-- A key that does not contribute, with whatever secret. -/
def LowOrder (S : Suite) (key : PublicKey) : Prop := ∀ own, S.agree own key = none

variable {S : Suite} {own : Secret} {key : PublicKey}

theorem UniformAgreement.contributory (uniform : S.UniformAgreement) {shared : Key}
    (agreed : S.agree own key = some shared) : S.Contributory key := by
  intro other
  rw [uniform other own, agreed]
  rfl

theorem UniformAgreement.lowOrder (uniform : S.UniformAgreement) (void : S.agree own key = none) :
    S.LowOrder key := by
  intro other
  have same := uniform other own key
  rw [void] at same
  exact Option.isNone_iff_eq_none.1 (Option.isSome_eq_false_iff.1 same)

end Suite

namespace Machine

variable {S : Suite} {m m' : Machine} {op : Operation}

/-! ## The key that the other side drew -/

/-- The key that the other side has drawn contributes. -/
def Introduces (S : Suite) (m : Machine) : Prop :=
  ∀ key, m.remoteEphemeral = some key → S.Contributory key

/-- Only a key act carries a drawn key. -/
theorem Performed.remoteEphemeral {answer : Except HandshakeError Reply}
    (performed : Performed S m op answer m') (other : op.keyAct = none) :
    m'.remoteEphemeral = m.remoteEphemeral := by
  cases performed with
  | receivedOne | receivedTwo => cases other
  | _ => rfl

/-- A machine has the drawn key that it had, or one that it has just agreed on. -/
theorem remoteEphemeral_perform (m : Machine) (op : Operation) :
    (m.perform S op).2.remoteEphemeral = m.remoteEphemeral ∨
      ∃ key own shared, (m.perform S op).2.remoteEphemeral = some key ∧
        S.agree own key = some shared := by
  by_cases due : op.owner = (m.role, m.stage)
  · cases op with
    | receiveOne a =>
      simp only [perform, receiveActOne, if_pos (owes_iff.2 due)]
      have taken := receiveKeyAct_spec (S := S) m.symmetric m.localStatic.secret (KeyAct.ofOctets a)
      generalize receiveKeyAct S m.symmetric (some m.localStatic.secret) (KeyAct.ofOctets a) =
        received at taken
      cases taken with
      | unknownVersion => exact .inl rfl
      | lowOrder void => exact .inl rfl
      | badTag shared agreed => exact .inl rfl
      | received s temp shared agreed => exact .inr ⟨_, _, shared, rfl, agreed⟩
    | receiveTwo a =>
      simp only [perform, receiveActTwo, if_pos (owes_iff.2 due)]
      cases m.localEphemeral with
      | none =>
        refine .inl ?_
        by_cases other : (KeyAct.ofOctets a).version ≠ handshakeVersion
        · simp only [receiveKeyAct, if_pos other]
        · simp only [receiveKeyAct, if_neg other]
      | some own =>
        have taken := receiveKeyAct_spec (S := S) m.symmetric own (KeyAct.ofOctets a)
        generalize receiveKeyAct S m.symmetric (some own) (KeyAct.ofOctets a) = received at taken
        cases taken with
        | unknownVersion => exact .inl rfl
        | lowOrder void => exact .inl rfl
        | badTag shared agreed => exact .inl rfl
        | received s temp shared agreed => exact .inr ⟨_, _, shared, rfl, agreed⟩
    | sendOne e | sendTwo e | sendThree | receiveThree a =>
      exact .inl ((perform_spec m _).remoteEphemeral rfl)
  · rw [perform_of_not_owed S due]
    exact .inl rfl

theorem Introduces.perform (uniform : S.UniformAgreement) (introduces : Introduces S m)
    (op : Operation) : Introduces S (m.perform S op).2 := by
  intro key held
  rcases remoteEphemeral_perform (S := S) m op with kept | ⟨key', own, shared, held', agreed⟩
  · exact introduces key (kept.symm.trans held)
  · obtain rfl : key' = key := Option.some.inj (held'.symm.trans held)
    exact uniform.contributory agreed

theorem Introduces.performAll (uniform : S.UniformAgreement) (introduces : Introduces S m)
    (ops : List Operation) : Introduces S (m.performAll S ops).2 := by
  induction ops generalizing m with
  | nil => exact introduces
  | cons op ops ih =>
    rw [performAll_cons]
    exact ih (introduces.perform uniform op)

/-! ## What an operation needs -/

/-- The fields of a machine that an operation makes use of, where they may be missing, are there. -/
def Operation.Supplied (m : Machine) : Operation → Prop
  | .sendOne _ => m.remoteStatic.isSome = true
  | .receiveOne _ => True
  | .sendTwo _ | .sendThree => m.remoteEphemeral.isSome = true
  | .receiveTwo _ | .receiveThree _ => m.localEphemeral.isSome = true

/-- The secret and the key that an operation agrees on something with, as far as they are there. -/
def Operation.partners (S : Suite) (m : Machine) : Operation → Option (Secret × PublicKey)
  | .sendOne e => m.remoteStatic.map (e, ·)
  | .receiveOne a => some (m.localStatic.secret, (KeyAct.ofOctets a).key)
  | .sendTwo e => m.remoteEphemeral.map (e, ·)
  | .receiveTwo a => m.localEphemeral.map (·, (KeyAct.ofOctets a).key)
  | .sendThree => m.remoteEphemeral.map (m.localStatic.secret, ·)
  | .receiveThree a =>
    (m.symmetric.openField S (n := 32) m.tempKey 1 (StaticAct.ofOctets a).sealedKey).bind
      fun (key, _) => m.localEphemeral.map (·, key)

/-- A machine that holds what belongs to its stage holds what an operation needs that is due. -/
theorem Coherent.supplied {role : Role} {own : Identity} {remote : PublicKey}
    (coherent : Coherent role own remote m) (due : op.owner = (m.role, m.stage)) :
    op.Supplied m := by
  obtain ⟨hrole, hstage⟩ := Prod.mk.inj due
  have known := coherent.remoteStatic_eq
  have drawn := coherent.localEphemeral_eq
  have told := coherent.remoteEphemeral_eq
  rw [← hrole] at known drawn told
  rw [← hstage] at drawn told
  cases op with
  | sendOne e => exact Option.isSome_iff_exists.2 ⟨remote, known⟩
  | receiveOne a => trivial
  | sendTwo e | sendThree => exact told
  | receiveTwo a | receiveThree a => exact drawn

/-! ## Operations that are due -/

/-- The ways that an operation which is due can go. -/
inductive Due (S : Suite) (m : Machine) : Operation → Except HandshakeError Reply → Prop
  /-- An act is sent. -/
  | sent {op : Operation} (sends : op.isReceipt = false) {n : Nat} (act : Octets n)
      (size : n = op.act.size) :
    Due S m op (.ok (.act act.bytes))
  /-- An act is taken in. -/
  | accepted {op : Operation} (receipt : op.isReceipt = true) : Due S m op (.ok .accepted)
  /-- An act carries another version. -/
  | unknownVersion {op : Operation} (receipt : op.isReceipt = true) (version : UInt8) :
    Due S m op (.error (.unknownVersion op.act version))
  /-- An act carries a field that does not open. -/
  | badTag {op : Operation} (receipt : op.isReceipt = true) : Due S m op (.error (.badTag op.act))
  /-- An act carries a key with which the machine's secret does not contribute. -/
  | lowOrder {op : Operation} (receipt : op.isReceipt = true) {own : Secret} {key : PublicKey}
      (partners : op.partners S m = some (own, key)) (void : S.agree own key = none) :
    Due S m op (.error (.invalidKey op.act))
  /-- The draw does not contribute with the key of the other side that the machine was made for. -/
  | unreachable {e : Secret} {key : PublicKey} (known : m.remoteStatic = some key)
      (void : S.agree e key = none) :
    Due S m (.sendOne e) (.error (.invalidKey .one))

/-- What cannot be sealed is none of the fields of a key act. -/
theorem sendKeyAct_spec (cipher : S.CipherLaws) (s : Symmetric) (e : Secret) (remote : PublicKey) :
    match S.agree e remote with
    | none => ∃ t, sendKeyAct S s e remote = .lowOrder t
    | some _ => ∃ act t temp, sendKeyAct S s e remote = .sent act t temp := by
  unfold sendKeyAct
  cases S.agree e remote with
  | none => exact ⟨_, rfl⟩
  | some shared =>
    obtain ⟨tag, t, stamped⟩ := Symmetric.exists_sealField cipher (Nat.zero_le 32)
      ((s.mixHash S (S.publicKey e).bytes).mixKey S shared.bytes).1
      ((s.mixHash S (S.publicKey e).bytes).mixKey S shared.bytes).2 0 (Octets.zero 0)
    simp only [stamped]
    exact ⟨_, _, _, rfl⟩

/-- Act one can be made unless the draw does not contribute. -/
theorem sendOne_spec (cipher : S.CipherLaws) {e : Secret} {remote : PublicKey}
    (due : (Operation.sendOne e).owner = (m.role, m.stage)) (known : m.remoteStatic = some remote) :
    match S.agree e remote with
    | none => (m.perform S (.sendOne e)).1 = .error (.invalidKey .one)
    | some _ => ∃ act : Octets keyActSize, (m.perform S (.sendOne e)).1 = .ok (.act act.bytes) := by
  have made := sendKeyAct_spec cipher m.symmetric e remote
  simp only [perform, sendActOne, if_pos (owes_iff.2 due), known]
  cases agreed : S.agree e remote with
  | none =>
    simp only [agreed] at made
    obtain ⟨t, made⟩ := made
    rw [made]
    rfl
  | some shared =>
    simp only [agreed] at made
    obtain ⟨act, t, temp, made⟩ := made
    rw [made]
    exact ⟨act, rfl⟩

theorem due_sendOne (cipher : S.CipherLaws) {e : Secret}
    (due : (Operation.sendOne e).owner = (m.role, m.stage)) (supplied : m.remoteStatic.isSome) :
    Due S m (.sendOne e) (m.perform S (.sendOne e)).1 := by
  obtain ⟨remote, known⟩ := Option.isSome_iff_exists.1 supplied
  have spec := sendOne_spec cipher due known
  cases agreed : S.agree e remote with
  | none =>
    simp only [agreed] at spec
    rw [spec]
    exact .unreachable known agreed
  | some shared =>
    simp only [agreed] at spec
    obtain ⟨act, spec⟩ := spec
    rw [spec]
    exact .sent rfl act rfl

theorem due_receiveOne {a : Octets keyActSize}
    (due : (Operation.receiveOne a).owner = (m.role, m.stage)) :
    Due S m (.receiveOne a) (m.perform S (.receiveOne a)).1 := by
  simp only [perform, receiveActOne, if_pos (owes_iff.2 due)]
  have taken := receiveKeyAct_spec (S := S) m.symmetric m.localStatic.secret (KeyAct.ofOctets a)
  generalize receiveKeyAct S m.symmetric (some m.localStatic.secret) (KeyAct.ofOctets a) =
    received at taken
  cases taken with
  | unknownVersion => exact .unknownVersion rfl _
  | lowOrder void => exact .lowOrder rfl rfl void
  | badTag shared agreed => exact .badTag rfl
  | received s temp shared agreed => exact .accepted rfl

theorem due_sendTwo (cipher : S.CipherLaws) (introduces : Introduces S m) {e : Secret}
    (due : (Operation.sendTwo e).owner = (m.role, m.stage)) (supplied : m.remoteEphemeral.isSome) :
    Due S m (.sendTwo e) (m.perform S (.sendTwo e)).1 := by
  obtain ⟨remote, told⟩ := Option.isSome_iff_exists.1 supplied
  obtain ⟨shared, agreed⟩ := Option.isSome_iff_exists.1 (introduces remote told e)
  have made := sendKeyAct_spec cipher m.symmetric e remote
  simp only [agreed] at made
  obtain ⟨act, t, temp, made⟩ := made
  simp only [perform, sendActTwo, if_pos (owes_iff.2 due), told, made]
  exact .sent rfl act rfl

theorem due_receiveTwo {a : Octets keyActSize}
    (due : (Operation.receiveTwo a).owner = (m.role, m.stage)) (supplied : m.localEphemeral.isSome) :
    Due S m (.receiveTwo a) (m.perform S (.receiveTwo a)).1 := by
  obtain ⟨own, drawn⟩ := Option.isSome_iff_exists.1 supplied
  simp only [perform, receiveActTwo, if_pos (owes_iff.2 due), drawn]
  have taken := receiveKeyAct_spec (S := S) m.symmetric own (KeyAct.ofOctets a)
  generalize receiveKeyAct S m.symmetric (some own) (KeyAct.ofOctets a) = received at taken
  cases taken with
  | unknownVersion => exact .unknownVersion rfl _
  | lowOrder void => exact .lowOrder rfl (by rw [Operation.partners, drawn]; rfl) void
  | badTag shared agreed => exact .badTag rfl
  | received s temp shared agreed => exact .accepted rfl

theorem due_sendThree (cipher : S.CipherLaws) (introduces : Introduces S m)
    (due : Operation.sendThree.owner = (m.role, m.stage)) (supplied : m.remoteEphemeral.isSome) :
    Due S m .sendThree (m.perform S .sendThree).1 := by
  obtain ⟨remote, told⟩ := Option.isSome_iff_exists.1 supplied
  obtain ⟨shared, agreed⟩ :=
    Option.isSome_iff_exists.1 (introduces remote told m.localStatic.secret)
  obtain ⟨sealedKey, s₁, first⟩ := Symmetric.exists_sealField cipher (Nat.le_refl 32) m.symmetric
    m.tempKey 1 (m.localStatic.publicKey S)
  obtain ⟨tag, s₃, second⟩ := Symmetric.exists_sealField cipher (Nat.zero_le 32)
    (s₁.mixKey S shared.bytes).1 (s₁.mixKey S shared.bytes).2 0 (Octets.zero 0)
  simp only [perform, sendActThree, if_pos (owes_iff.2 due), told, first, agreed, second]
  exact .sent rfl (StaticAct.mk handshakeVersion sealedKey tag).toOctets rfl

theorem due_receiveThree {a : Octets staticActSize}
    (due : (Operation.receiveThree a).owner = (m.role, m.stage))
    (supplied : m.localEphemeral.isSome) :
    Due S m (.receiveThree a) (m.perform S (.receiveThree a)).1 := by
  obtain ⟨own, drawn⟩ := Option.isSome_iff_exists.1 supplied
  simp only [perform, receiveActThree, if_pos (owes_iff.2 due), drawn]
  split
  · exact .unknownVersion rfl _
  split
  · exact .badTag rfl
  rename_i key s₁ opened
  split
  · rename_i void
    exact .lowOrder rfl (by simp only [Operation.partners, opened, drawn]; rfl) void
  split
  · exact .badTag rfl
  · exact .accepted rfl

theorem due_spec (cipher : S.CipherLaws) (introduces : Introduces S m)
    (due : op.owner = (m.role, m.stage)) (supplied : op.Supplied m) :
    Due S m op (m.perform S op).1 := by
  cases op with
  | sendOne e => exact due_sendOne cipher due supplied
  | receiveOne a => exact due_receiveOne due
  | sendTwo e => exact due_sendTwo cipher introduces due supplied
  | receiveTwo a => exact due_receiveTwo due supplied
  | sendThree => exact due_sendThree cipher introduces due supplied
  | receiveThree a => exact due_receiveThree due supplied

/-! ## Every reachable machine -/

/-- What an operation on a machine answers that was made for the holder of `remote`, if an
    initiator. -/
structure Faultless (S : Suite) (remote : PublicKey) (m : Machine) (op : Operation) : Prop where
  /-- Whatever an operation that is due needs is there. -/
  supplied : op.owner = (m.role, m.stage) → op.Supplied m
  /-- Whatever is to be sealed can be. -/
  cipher : ∀ act, (m.perform S op).1 ≠ .error (.cipher act)
  /-- Just the operations of another role or stage are out of order. -/
  outOfOrder : ∀ act role, (m.perform S op).1 = .error (.outOfOrder act role) ↔
    op.owner ≠ (m.role, m.stage) ∧ act = op.act ∧ role = m.role
  /-- No key is an invalid one but one that an operation which is due agrees with and that does not
      contribute. -/
  invalidKey : ∀ act, (m.perform S op).1 = .error (.invalidKey act) →
    op.owner = (m.role, m.stage) ∧ act = op.act ∧
      ∃ own key, op.partners S m = some (own, key) ∧ S.LowOrder key
  /-- Act one is there when it is due, or the other side's key does not contribute. -/
  sendOne : ∀ e, op = .sendOne e → op.owner = (m.role, m.stage) →
    (S.Contributory remote ∧
      ∃ act : Octets keyActSize, (m.perform S op).1 = .ok (.act act.bytes)) ∨
    S.LowOrder remote ∧ (m.perform S op).1 = .error (.invalidKey .one)
  /-- The later acts are there when they are due. -/
  sendLater : op.isReceipt = false → op.act ≠ .one → op.owner = (m.role, m.stage) →
    ∃ act : Octets op.act.size, (m.perform S op).1 = .ok (.act act.bytes)

/-- Whatever holds what belongs to its stage answers like this. -/
theorem Coherent.faultless (cipher : S.CipherLaws) (uniform : S.UniformAgreement) {role : Role}
    {own : Identity} {remote : PublicKey} (coherent : Coherent role own remote m)
    (introduces : Introduces S m) (op : Operation) : Faultless S remote m op := by
  have refused : op.owner ≠ (m.role, m.stage) →
      (m.perform S op).1 = .error (.outOfOrder op.act m.role) := by
    intro stray
    rw [perform_of_not_owed S stray]
  have answered : ∀ {answer}, (m.perform S op).1 = answer → op.owner = (m.role, m.stage) →
      Due S m op answer := by
    rintro answer rfl due
    exact due_spec cipher introduces due (coherent.supplied due)
  refine ⟨fun due => coherent.supplied due, fun act h => ?_, fun act role => ⟨fun h => ?_, ?_⟩,
    fun act h => ?_, ?_, fun sends later due => ?_⟩
  · by_cases due : op.owner = (m.role, m.stage)
    · cases answered h due
    · cases (refused due).symm.trans h
  · by_cases due : op.owner = (m.role, m.stage)
    · cases answered h due
    · cases (refused due).symm.trans h
      exact ⟨due, rfl, rfl⟩
  · rintro ⟨stray, rfl, rfl⟩
    exact refused stray
  · by_cases due : op.owner = (m.role, m.stage)
    · refine ⟨due, ?_⟩
      cases answered h due with
      | lowOrder receipt partners void => exact ⟨rfl, _, _, partners, uniform.lowOrder void⟩
      | unreachable known void =>
        exact ⟨rfl, _, _, congrArg (Option.map _) known, uniform.lowOrder void⟩
    · cases (refused due).symm.trans h
  · rintro e rfl due
    have known := coherent.remoteStatic_eq
    rw [← (Prod.mk.inj due).1] at known
    have spec := sendOne_spec cipher due known
    cases agreed : S.agree e remote with
    | none =>
      simp only [agreed] at spec
      exact .inr ⟨uniform.lowOrder agreed, spec⟩
    | some shared =>
      simp only [agreed] at spec
      exact .inl ⟨uniform.contributory agreed, spec⟩
  · generalize hanswer : (m.perform S op).1 = answer
    cases answered hanswer due with
    | sent _ act size =>
      subst size
      exact ⟨act, rfl⟩
    | accepted receipt | unknownVersion receipt | badTag receipt | lowOrder receipt =>
      cases sends.symm.trans receipt
    | unreachable => exact absurd rfl later

/-- **Errors that never come up.**  Let it depend on the key alone whether a key contributes.
    Whatever its role, its secret and the key it was made for, after any operations before: a
    machine never lacks what an operation needs and never fails to seal.  It refuses as out of order
    just what is not its turn, and refuses a key only if that does not contribute; its own acts are
    there when they are due, but for an act one to a key that does not contribute.  And whatever
    the machine and the bytes, every copy of bytes that an operation makes fits. -/
theorem no_internal_fault (publicKey : Secret → PublicKey) (agree : Secret → PublicKey → Option Key)
    (uniform : ∀ a b key, (agree a key).isSome = (agree b key).isSome) :
    let S := Suite.standard.withAgreement publicKey agree
    (∀ role own remote ops op,
      Faultless S remote ((opening S own remote role).performAll S ops).2 op) ∧
    ∀ m op, Buffered.perform S m op = some (m.perform S op) := by
  intro S
  have cipher : S.CipherLaws :=
    Suite.withAgreement_cipherLaws Suite.standard_cipherLaws publicKey agree
  have uniform : S.UniformAgreement := uniform
  refine ⟨fun role own remote ops op => ?_, Buffered.perform_eq⟩
  have fresh : Introduces S (opening S own remote role) := by
    cases role <;> exact nofun
  exact ((coherent_opening role own remote).performAll ops).faultless cipher uniform
    (fresh.performAll uniform ops) op

/-- An initiator that was made for a key of zeros has refused act three, since that is not its turn,
    and has failed at act one.  It fails at act one again, and would with every draw. -/
theorem no_internal_fault_sample :
    let S := Suite.standard.withAgreement Curve25519.publicKey uniformAgree
    let draw : Secret := Octets.replicate 32 3
    let m := ((opening S ⟨Octets.replicate 32 1⟩ (Octets.zero 32) .initiator).performAll S
      [.sendThree, .sendOne draw]).2
    (Operation.sendOne draw).owner = (m.role, m.stage) ∧
      (m.perform S (.sendOne draw)).1 = .error (.invalidKey .one) ∧ S.LowOrder (Octets.zero 32) ∧
      Buffered.perform S m (.sendOne draw) = some (m.perform S (.sendOne draw)) := by
  intro S draw m
  have due : (Operation.sendOne draw).owner = (m.role, m.stage) := by decide +kernel
  have void : (S.agree draw (Octets.zero 32)).isSome = false := by decide +kernel
  obtain ⟨faultless, copies⟩ :=
    no_internal_fault Curve25519.publicKey uniformAgree isSome_uniformAgree
  have spec : Faultless S (Octets.zero 32) m (.sendOne draw) :=
    faultless .initiator ⟨Octets.replicate 32 1⟩ (Octets.zero 32) [.sendThree, .sendOne draw]
      (.sendOne draw)
  rcases spec.sendOne draw rfl due with ⟨contributory, _⟩ | ⟨lowOrder, refused⟩
  · cases void.symm.trans (contributory draw)
  · exact ⟨due, refused, lowOrder, copies m (.sendOne draw)⟩

end Machine

end Gatehouse
