import Gatehouse.Proofs.Handshake.Pinning

/-!
# What a failure leaves of a machine

A machine takes an act in step by step, and what it had taken in when a step failed stays.  How far
that can be is a matter of the operation and of the error (`Leaves`): nothing at all where the
operation was not due or the version is not spoken here, nothing where the first field of act three
does not open, the key alone where it contributes nothing, the shared secret too where the tag is
not the right one.  It is never more than the symmetric state and the temporary key, so that what a
machine shows of the other side is what it showed before.
-/

namespace Gatehouse.Machine

variable {S : Suite}

/-! ## Key acts -/

/-- How far the receiver of a key act comes that has the secret `own`. -/
inductive KeyActTaken (S : Suite) (s : Symmetric) (own : Secret) (a : KeyAct) :
    KeyActReceived → Prop
  | unknownVersion : KeyActTaken S s own a (.unknownVersion a.version)
  | lowOrder (void : S.agree own a.key = none) :
    KeyActTaken S s own a (.lowOrder (s.mixHash S a.key.bytes))
  | badTag (shared : Key) (agreed : S.agree own a.key = some shared) :
    KeyActTaken S s own a (.badTag ((s.mixHash S a.key.bytes).mixKey S shared.bytes).1
      ((s.mixHash S a.key.bytes).mixKey S shared.bytes).2)
  | received (t : Symmetric) (temp shared : Key) (agreed : S.agree own a.key = some shared) :
    KeyActTaken S s own a (.received a.key t temp)

theorem receiveKeyAct_spec (s : Symmetric) (own : Secret) (a : KeyAct) :
    KeyActTaken S s own a (receiveKeyAct S s (some own) a) := by
  unfold receiveKeyAct
  split
  · exact .unknownVersion
  simp only
  split
  · rename_i void
    exact .lowOrder void
  rename_i shared agreed
  split
  · exact .badTag shared agreed
  · exact .received _ _ shared agreed

/-- The key act that an operation takes in. -/
def Operation.keyAct : Operation → Option KeyAct
  | .receiveOne a | .receiveTwo a => some (KeyAct.ofOctets a)
  | .sendOne _ | .sendTwo _ | .sendThree | .receiveThree _ => none

/-! ## What is left -/

/-- What an operation that fails with an error leaves of a machine. -/
structure Leaves (S : Suite) (m : Machine) (op : Operation) (error : HandshakeError)
    (m' : Machine) : Prop where
  /-- Only the symmetric state and the temporary key can have taken something in. -/
  frame : ∃ s temp, m' = { m with symmetric := s, tempKey := temp }
  /-- What is not due leaves no trace. -/
  outOfOrder : ∀ act role, error = .outOfOrder act role → m' = m
  /-- Neither does an act of another version. -/
  unknownVersion : ∀ act version, error = .unknownVersion act version → m' = m
  /-- Neither does an act three whose first field does not open. -/
  unopened : ∀ a, op = .receiveThree a →
    S.openText m.tempKey 1 m.symmetric.hash.bytes (StaticAct.ofOctets a).sealedKey.bytes = none →
    m' = m
  /-- The key of a key act with which the machine's secret contributes nothing goes into the hash,
      and no more than that. -/
  invalidKey : ∀ a, op.keyAct = some a → error = .invalidKey op.act →
    m' = { m with symmetric :=
      { hash := S.hash (m.symmetric.hash.bytes ++ a.key.bytes), chain := m.symmetric.chain } }
  /-- Where the tag of a key act is a wrong one, the shared secret has gone into the chaining key as
      well, and after act two the key of the tag is kept. -/
  badTag : ∀ a, op.keyAct = some a → error = .badTag op.act →
    ∃ own shared, m.answeringSecret op.act = some own ∧ S.agree own a.key = some shared ∧
      m' = { m with
        symmetric :=
          { hash := S.hash (m.symmetric.hash.bytes ++ a.key.bytes)
            chain := (S.derive m.symmetric.chain shared.bytes).1 }
        tempKey := if op.act = .two then (S.derive m.symmetric.chain shared.bytes).2
          else m.tempKey }

section Failures

variable {m m' : Machine} {error : HandshakeError} {op : Operation} {role : Role} {own : Identity}
  {remote : PublicKey}

/-- Where nothing was taken in, and the error is none of those that tell of a key. -/
theorem Leaves.of_unchanged (hinvalid : op.keyAct ≠ none → error ≠ .invalidKey op.act)
    (htag : op.keyAct ≠ none → error ≠ .badTag op.act) : Leaves S m op error m where
  frame := ⟨m.symmetric, m.tempKey, rfl⟩
  outOfOrder _ _ _ := rfl
  unknownVersion _ _ _ := rfl
  unopened _ _ _ := rfl
  invalidKey _ hkey herror := absurd herror (hinvalid (Option.ne_none_iff_exists'.2 ⟨_, hkey⟩))
  badTag _ hkey herror := absurd herror (htag (Option.ne_none_iff_exists'.2 ⟨_, hkey⟩))

/-- Where no key act was taken in, and the machine had come beyond the first checks. -/
theorem Leaves.of_frame (s : Symmetric) (temp : Key) (hkey : op.keyAct = none)
    (herror : error = .invalidKey op.act ∨ error = .badTag op.act ∨ error = .cipher op.act)
    (opened : ∀ a, op = .receiveThree a →
      S.openText m.tempKey 1 m.symmetric.hash.bytes (StaticAct.ofOctets a).sealedKey.bytes ≠
        none) :
    Leaves S m op error { m with symmetric := s, tempKey := temp } where
  frame := ⟨s, temp, rfl⟩
  outOfOrder := by
    rintro act role rfl
    rcases herror with h | h | h <;> cases h
  unknownVersion := by
    rintro act version rfl
    rcases herror with h | h | h <;> cases h
  unopened a ha hnone := absurd hnone (opened a ha)
  invalidKey a ha := absurd (hkey.symm.trans ha) (Option.some_ne_none a).symm
  badTag a ha := absurd (hkey.symm.trans ha) (Option.some_ne_none a).symm

/-- Where the key of a key act contributes nothing. -/
theorem Leaves.of_lowOrder {a : KeyAct} (hkey : op.keyAct = some a) :
    Leaves S m op (.invalidKey op.act)
      { m with symmetric := m.symmetric.mixHash S a.key.bytes } where
  frame := ⟨_, m.tempKey, rfl⟩
  outOfOrder act role h := by cases h
  unknownVersion act version h := by cases h
  unopened a ha := by
    subst ha
    cases hkey
  invalidKey a' ha _ := by
    cases Option.some.inj (hkey.symm.trans ha)
    rfl
  badTag a' _ h := by cases h

/-- Where the tag of a key act is a wrong one. -/
theorem Leaves.of_badTag {a : KeyAct} (hkey : op.keyAct = some a) {own : Secret} {shared : Key}
    (answering : m.answeringSecret op.act = some own) (agreed : S.agree own a.key = some shared) :
    Leaves S m op (.badTag op.act)
      { m with
        symmetric := ((m.symmetric.mixHash S a.key.bytes).mixKey S shared.bytes).1
        tempKey := if op.act = .two then
          ((m.symmetric.mixHash S a.key.bytes).mixKey S shared.bytes).2 else m.tempKey } where
  frame := ⟨_, _, rfl⟩
  outOfOrder act role h := by cases h
  unknownVersion act version h := by cases h
  unopened a ha := by
    subst ha
    cases hkey
  invalidKey a' _ h := by cases h
  badTag a' ha _ := by
    cases Option.some.inj (hkey.symm.trans ha)
    exact ⟨own, shared, answering, agreed, rfl⟩

/-! ## Each operation -/

theorem leaves_sendActOne {ephemeral : Secret} (howes : m.owes .initiator .actOne = true)
    (failed : m.sendActOne S ephemeral = (.error error, m')) :
    Leaves S m (.sendOne ephemeral) error m' := by
  rw [sendActOne, if_pos howes] at failed
  have noAct : ∀ a, Operation.sendOne ephemeral ≠ .receiveThree a := fun a h => by cases h
  split at failed
  · cases failed
    exact .of_frame m.symmetric m.tempKey rfl (.inl rfl) fun a h => absurd h (noAct a)
  split at failed <;> cases failed
  · exact .of_frame _ m.tempKey rfl (.inl rfl) fun a h => absurd h (noAct a)
  · exact .of_frame _ m.tempKey rfl (.inr (.inr rfl)) fun a h => absurd h (noAct a)

theorem leaves_receiveActOne {a : Octets keyActSize} (howes : m.owes .responder .actOne = true)
    (failed : m.receiveActOne S a = (.error error, m')) : Leaves S m (.receiveOne a) error m' := by
  rw [receiveActOne, if_pos howes] at failed
  have taken := receiveKeyAct_spec (S := S) m.symmetric m.localStatic.secret (KeyAct.ofOctets a)
  generalize receiveKeyAct S m.symmetric (some m.localStatic.secret) (KeyAct.ofOctets a) =
    received at taken failed
  cases taken with
  | unknownVersion =>
    cases failed
    exact .of_unchanged (fun _ h => by cases h) (fun _ h => by cases h)
  | lowOrder void =>
    cases failed
    exact .of_lowOrder rfl
  | badTag shared agreed =>
    cases failed
    exact .of_badTag rfl rfl agreed
  | received t temp => cases failed

theorem leaves_sendActTwo {ephemeral : Secret} (howes : m.owes .responder .actTwo = true)
    (failed : m.sendActTwo S ephemeral = (.error error, m')) :
    Leaves S m (.sendTwo ephemeral) error m' := by
  rw [sendActTwo, if_pos howes] at failed
  have noAct : ∀ a, Operation.sendTwo ephemeral ≠ .receiveThree a := fun a h => by cases h
  split at failed
  · cases failed
    exact .of_frame m.symmetric m.tempKey rfl (.inl rfl) fun a h => absurd h (noAct a)
  split at failed <;> cases failed
  · exact .of_frame _ m.tempKey rfl (.inl rfl) fun a h => absurd h (noAct a)
  · exact .of_frame _ _ rfl (.inr (.inr rfl)) fun a h => absurd h (noAct a)

theorem leaves_receiveActTwo {a : Octets keyActSize} (howes : m.owes .initiator .actTwo = true)
    {own : Secret} (hown : m.localEphemeral = some own)
    (failed : m.receiveActTwo S a = (.error error, m')) : Leaves S m (.receiveTwo a) error m' := by
  rw [receiveActTwo, if_pos howes] at failed
  have taken : KeyActTaken S m.symmetric own (KeyAct.ofOctets a)
      (receiveKeyAct S m.symmetric m.localEphemeral (KeyAct.ofOctets a)) := by
    rw [hown]
    exact receiveKeyAct_spec m.symmetric own (KeyAct.ofOctets a)
  generalize receiveKeyAct S m.symmetric m.localEphemeral (KeyAct.ofOctets a) = received
    at taken failed
  cases taken with
  | unknownVersion =>
    cases failed
    exact .of_unchanged (fun _ h => by cases h) (fun _ h => by cases h)
  | lowOrder void =>
    cases failed
    exact .of_lowOrder rfl
  | badTag shared agreed =>
    cases failed
    exact .of_badTag rfl hown agreed
  | received t temp => cases failed

theorem leaves_sendActThree (howes : m.owes .initiator .actThree = true)
    (failed : m.sendActThree S = (.error error, m')) : Leaves S m .sendThree error m' := by
  simp only [sendActThree, if_pos howes] at failed
  have noAct : ∀ a, Operation.sendThree ≠ .receiveThree a := fun a h => by cases h
  split at failed
  · cases failed
    exact .of_frame m.symmetric m.tempKey rfl (.inl rfl) fun a h => absurd h (noAct a)
  split at failed
  · cases failed
    exact .of_frame m.symmetric m.tempKey rfl (.inr (.inr rfl)) fun a h => absurd h (noAct a)
  split at failed
  · cases failed
    exact .of_frame _ m.tempKey rfl (.inl rfl) fun a h => absurd h (noAct a)
  split at failed <;> cases failed
  exact .of_frame _ m.tempKey rfl (.inr (.inr rfl)) fun a h => absurd h (noAct a)

theorem leaves_receiveActThree {a : Octets staticActSize}
    (howes : m.owes .responder .actThree = true) {own : Secret}
    (hown : m.localEphemeral = some own)
    (failed : m.receiveActThree S a = (.error error, m')) :
    Leaves S m (.receiveThree a) error m' := by
  simp only [receiveActThree, if_pos howes] at failed
  split at failed
  · cases failed
    exact .of_unchanged (fun h => absurd rfl h) (fun h => absurd rfl h)
  split at failed
  · cases failed
    exact .of_unchanged (fun h => absurd rfl h) (fun h => absurd rfl h)
  -- from here on the first field has opened
  rename_i key s₁ hfirst
  have opened : ∀ a', Operation.receiveThree a = .receiveThree a' →
      S.openText m.tempKey 1 m.symmetric.hash.bytes (StaticAct.ofOctets a').sealedKey.bytes ≠
        none := by
    rintro _ ⟨rfl⟩
    rw [(Symmetric.openText_of_openField S hfirst).1]
    exact Option.some_ne_none _
  split at failed
  · rename_i hnone
    cases hown.symm.trans hnone
  split at failed
  · cases failed
    exact .of_frame _ m.tempKey rfl (.inl rfl) opened
  split at failed <;> cases failed
  exact .of_frame _ m.tempKey rfl (.inr (.inl rfl)) opened

/-- Whatever the operation: a machine that holds what belongs to its stage is left like this. -/
theorem Coherent.leaves (coherent : Coherent role own remote m)
    (failed : m.perform S op = (.error error, m')) : Leaves S m op error m' := by
  by_cases due : op.owner = (m.role, m.stage)
  · cases op with
    | sendOne ephemeral => exact leaves_sendActOne (owes_iff.2 due) (answer_of_error failed)
    | receiveOne a => exact leaves_receiveActOne (owes_iff.2 due) (answer_of_error failed)
    | sendTwo ephemeral => exact leaves_sendActTwo (owes_iff.2 due) (answer_of_error failed)
    | receiveTwo a =>
      obtain ⟨secret, hsecret⟩ := coherent.exists_answeringSecret (.receiveTwo a) rfl due
      exact leaves_receiveActTwo (owes_iff.2 due) hsecret (answer_of_error failed)
    | sendThree => exact leaves_sendActThree (owes_iff.2 due) (answer_of_error failed)
    | receiveThree a =>
      obtain ⟨secret, hsecret⟩ := coherent.exists_answeringSecret (.receiveThree a) rfl due
      exact leaves_receiveActThree (owes_iff.2 due) hsecret (answer_of_error failed)
  · rw [perform_of_not_owed S due] at failed
    cases failed
    exact .of_unchanged (fun _ h => by cases h) (fun _ h => by cases h)

end Failures

/-- **What a failure may change.**  Whatever its role, its secret and the key it was made for, after
    any operations before: an operation that fails leaves a machine as it was but for what the
    operation had mixed into the symmetric state and the temporary key when it failed, which the
    error tells.  What the machine shows does not change, and a responder that is not done shows no
    key of an initiator. -/
theorem failure_frame (S : Suite) (role : Role) (own : Identity) (remote : PublicKey)
    (ops : List Operation) (op : Operation) (error : HandshakeError) (m m' : Machine)
    (reached : m = ((opening S own remote role).performAll S ops).2)
    (failed : m.perform S op = (.error error, m')) :
    Leaves S m op error m' ∧ m'.describe = m.describe ∧
      (m'.role = .responder → m'.isComplete = false → m'.remoteStatic = none) := by
  have coherent : Coherent role own remote m := by
    rw [reached]
    exact (coherent_opening role own remote).performAll ops
  have leaves := coherent.leaves failed
  obtain ⟨s, temp, rfl⟩ := leaves.frame
  refine ⟨leaves, rfl, fun hrole hcomplete => ?_⟩
  have hremote := coherent.remoteStatic_eq
  rw [show m.role = .responder from hrole] at hremote
  rw [show m.isComplete = false from hcomplete] at hremote
  exact Option.isNone_iff_eq_none.1 (Option.isSome_eq_false_iff.1 hremote)

/-- Act one with a key of low order, which the responder has taken into the hash. -/
theorem failure_frame_sample :
    let m := responder .standard ⟨Octets.replicate 32 2⟩
    let act := KeyAct.ofOctets (Octets.zero keyActSize)
    ∃ m', m.perform .standard (.receiveOne (Octets.zero keyActSize)) =
        (.error (.invalidKey .one), m') ∧
      m' = { m with symmetric :=
        { hash := Suite.standard.hash (m.symmetric.hash.bytes ++ act.key.bytes)
          chain := m.symmetric.chain } } := by
  intro m act
  have refused : (m.perform .standard (.receiveOne (Octets.zero keyActSize))).1 =
      .error (.invalidKey .one) := by
    decide +kernel
  have reached : m = ((opening .standard ⟨Octets.replicate 32 2⟩ (Octets.zero 32)
      .responder).performAll .standard []).2 := rfl
  clear_value m
  obtain ⟨answer, m', failed⟩ :
      ∃ answer m', m.perform .standard (.receiveOne (Octets.zero keyActSize)) = (answer, m') :=
    ⟨_, _, rfl⟩
  rw [failed] at refused ⊢
  obtain rfl : answer = .error (.invalidKey .one) := refused
  have leaves := (failure_frame .standard .responder ⟨Octets.replicate 32 2⟩ (Octets.zero 32) []
    (.receiveOne (Octets.zero keyActSize)) (.invalidKey .one) m m' reached failed).1
  exact ⟨m', rfl, leaves.invalidKey act rfl rfl⟩

end Gatehouse.Machine
