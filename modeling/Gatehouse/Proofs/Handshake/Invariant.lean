import Gatehouse.Proofs.Handshake.Operations
import Mathlib.Data.List.Induction

/-!
# What a machine holds at every stage

What one operation can do to a machine is said once, as one constructor for each way that it can go
(`Performed`): only what the symmetric state and the temporary key have taken in survives a failure,
and a success fills the fields of its stage.  From that follows what a machine holds at any time,
after operations in any order with any bytes (`Coherent`), where it stands (`position_performAll`)
and where the other side's key comes from (`Introduced`).
-/

namespace Gatehouse

/-- How many acts lie behind a stage. -/
def Stage.position : Stage → Nat
  | .actOne => 0
  | .actTwo => 1
  | .actThree => 2
  | .complete => 3

namespace Machine

variable {S : Suite}

/-! ## What an operation can do -/

/-- The ways that an operation can go. -/
inductive Performed (S : Suite) (m : Machine) :
    Operation → Except HandshakeError Reply → Machine → Prop
  /-- It is not due. -/
  | stray {op : Operation} (notDue : op.owner ≠ (m.role, m.stage)) :
    Performed S m op (.error (.outOfOrder op.act m.role)) m
  /-- It is due and fails; what was taken in before the failure stays. -/
  | failed {op : Operation} (due : op.owner = (m.role, m.stage)) (error : HandshakeError)
      (s : Symmetric) (temp : Key) :
    Performed S m op (.error error) { m with symmetric := s, tempKey := temp }
  /-- The initiator has drawn its secret and sends act one. -/
  | sentOne (ephemeral : Secret) (due : (Operation.sendOne ephemeral).owner = (m.role, m.stage))
      (act : Octets keyActSize) (s : Symmetric) :
    Performed S m (.sendOne ephemeral) (.ok (.act act.bytes))
      { m with symmetric := s, localEphemeral := some ephemeral, stage := .actTwo }
  /-- The responder has been told the initiator's drawn key. -/
  | receivedOne (act : Octets keyActSize)
      (due : (Operation.receiveOne act).owner = (m.role, m.stage)) (key : PublicKey)
      (s : Symmetric) :
    Performed S m (.receiveOne act) (.ok .accepted)
      { m with symmetric := s, remoteEphemeral := some key, stage := .actTwo }
  /-- The responder has drawn its secret and sends act two. -/
  | sentTwo (ephemeral : Secret) (due : (Operation.sendTwo ephemeral).owner = (m.role, m.stage))
      (act : Octets keyActSize) (s : Symmetric) (temp : Key) :
    Performed S m (.sendTwo ephemeral) (.ok (.act act.bytes))
      { m with symmetric := s, tempKey := temp, localEphemeral := some ephemeral,
               stage := .actThree }
  /-- The initiator has been told the responder's drawn key. -/
  | receivedTwo (act : Octets keyActSize)
      (due : (Operation.receiveTwo act).owner = (m.role, m.stage)) (key : PublicKey)
      (s : Symmetric) (temp : Key) :
    Performed S m (.receiveTwo act) (.ok .accepted)
      { m with symmetric := s, tempKey := temp, remoteEphemeral := some key, stage := .actThree }
  /-- The initiator sends act three and is done. -/
  | sentThree (due : Operation.sendThree.owner = (m.role, m.stage)) (act : Octets staticActSize)
      (s : Symmetric) (keys : SessionKeys) :
    Performed S m .sendThree (.ok (.act act.bytes)) (m.finish s keys)
  /-- The responder has opened the initiator's static key and is done. -/
  | receivedThree (act : Octets staticActSize)
      (due : (Operation.receiveThree act).owner = (m.role, m.stage)) (key : PublicKey)
      (s₁ s : Symmetric) (keys : SessionKeys)
      (opened : m.symmetric.openField S (n := 32) m.tempKey 1 (StaticAct.ofOctets act).sealedKey =
        some (key, s₁)) :
    Performed S m (.receiveThree act) (.ok .accepted)
      ({ m with remoteStatic := some key }.finish s keys)

section Operations

variable {m : Machine}

/-- An operation that fails where it stands. -/
theorem Performed.failedHere {op : Operation} (due : op.owner = (m.role, m.stage))
    (error : HandshakeError) : Performed S m op (.error error) m :=
  .failed due error m.symmetric m.tempKey

theorem performed_sendOne (ephemeral : Secret)
    (due : (Operation.sendOne ephemeral).owner = (m.role, m.stage)) :
    Performed S m (.sendOne ephemeral) (m.perform S (.sendOne ephemeral)).1
      (m.perform S (.sendOne ephemeral)).2 := by
  have howes : m.owes .initiator .actOne = true := owes_iff.2 due
  simp only [perform, sendActOne, if_pos howes]
  split
  · exact .failedHere due _
  split
  · exact .failed due _ _ m.tempKey
  · exact .failed due _ _ m.tempKey
  · exact .sentOne ephemeral due _ _

theorem performed_receiveOne (act : Octets keyActSize)
    (due : (Operation.receiveOne act).owner = (m.role, m.stage)) :
    Performed S m (.receiveOne act) (m.perform S (.receiveOne act)).1
      (m.perform S (.receiveOne act)).2 := by
  have howes : m.owes .responder .actOne = true := owes_iff.2 due
  simp only [perform, receiveActOne, if_pos howes]
  split
  · exact .failedHere due _
  · exact .failed due _ _ m.tempKey
  · exact .failed due _ _ m.tempKey
  · exact .failed due _ _ m.tempKey
  · exact .receivedOne act due _ _

theorem performed_sendTwo (ephemeral : Secret)
    (due : (Operation.sendTwo ephemeral).owner = (m.role, m.stage)) :
    Performed S m (.sendTwo ephemeral) (m.perform S (.sendTwo ephemeral)).1
      (m.perform S (.sendTwo ephemeral)).2 := by
  have howes : m.owes .responder .actTwo = true := owes_iff.2 due
  simp only [perform, sendActTwo, if_pos howes]
  split
  · exact .failedHere due _
  split
  · exact .failed due _ _ m.tempKey
  · exact .failed due _ _ _
  · exact .sentTwo ephemeral due _ _ _

theorem performed_receiveTwo (act : Octets keyActSize)
    (due : (Operation.receiveTwo act).owner = (m.role, m.stage)) :
    Performed S m (.receiveTwo act) (m.perform S (.receiveTwo act)).1
      (m.perform S (.receiveTwo act)).2 := by
  have howes : m.owes .initiator .actTwo = true := owes_iff.2 due
  simp only [perform, receiveActTwo, if_pos howes]
  split
  · exact .failedHere due _
  · exact .failed due _ _ m.tempKey
  · exact .failed due _ _ m.tempKey
  · exact .failed due _ _ _
  · exact .receivedTwo act due _ _ _

theorem performed_sendThree (due : Operation.sendThree.owner = (m.role, m.stage)) :
    Performed S m .sendThree (m.perform S .sendThree).1 (m.perform S .sendThree).2 := by
  have howes : m.owes .initiator .actThree = true := owes_iff.2 due
  simp only [perform, sendActThree, if_pos howes]
  split
  · exact .failedHere due _
  split
  · exact .failedHere due _
  split
  · exact .failed due _ _ m.tempKey
  split
  · exact .failed due _ _ m.tempKey
  · exact .sentThree due _ _ _

theorem performed_receiveThree (act : Octets staticActSize)
    (due : (Operation.receiveThree act).owner = (m.role, m.stage)) :
    Performed S m (.receiveThree act) (m.perform S (.receiveThree act)).1
      (m.perform S (.receiveThree act)).2 := by
  have howes : m.owes .responder .actThree = true := owes_iff.2 due
  simp only [perform, receiveActThree, if_pos howes]
  split
  · exact .failedHere due _
  split
  · exact .failedHere due _
  rename_i key s₁ opened
  split
  · exact .failed due _ _ m.tempKey
  split
  · exact .failed due _ _ m.tempKey
  split
  · exact .failed due _ _ m.tempKey
  · exact .receivedThree act due key s₁ _ _ opened

/-- Every operation goes one of the ways. -/
theorem perform_spec (m : Machine) (op : Operation) :
    Performed S m op (m.perform S op).1 (m.perform S op).2 := by
  by_cases due : op.owner = (m.role, m.stage)
  · cases op with
    | sendOne e => exact performed_sendOne e due
    | receiveOne a => exact performed_receiveOne a due
    | sendTwo e => exact performed_sendTwo e due
    | receiveTwo a => exact performed_receiveTwo a due
    | sendThree => exact performed_sendThree due
    | receiveThree a => exact performed_receiveThree a due
  · rw [perform_of_not_owed S due]
    exact .stray due

end Operations

/-! ## Where a machine stands -/

section Stages

variable {m m' : Machine} {op : Operation} {answer : Except HandshakeError Reply}

/-- A success takes the machine to the next stage, a failure leaves it where it was. -/
theorem Performed.position (performed : Performed S m op answer m') :
    m'.stage.position = m.stage.position + if answer.isOk then 1 else 0 := by
  cases performed with
  | stray notDue => rfl
  | failed due error s temp => rfl
  | sentOne ephemeral due act s => rw [← (Prod.mk.inj due).2]; rfl
  | receivedOne act due key s => rw [← (Prod.mk.inj due).2]; rfl
  | sentTwo ephemeral due act s temp => rw [← (Prod.mk.inj due).2]; rfl
  | receivedTwo act due key s temp => rw [← (Prod.mk.inj due).2]; rfl
  | sentThree due act s keys => rw [← (Prod.mk.inj due).2]; rfl
  | receivedThree act due key s₁ s keys opened => rw [← (Prod.mk.inj due).2]; rfl

/-- Only an operation that is due succeeds. -/
theorem Performed.due {reply : Reply} (performed : Performed S m op (.ok reply) m') :
    op.owner = (m.role, m.stage) := by
  cases performed <;> assumption

/-- A failure does not move the machine at all. -/
theorem Performed.stays {error : HandshakeError} (performed : Performed S m op (.error error) m') :
    m'.stage = m.stage := by
  cases performed <;> rfl

/-- Act three ends the initiator's part. -/
theorem complete_of_sendActThree {act : Octets staticActSize}
    (sent : m.sendActThree S = (.ok act, m')) : m'.isComplete = true := by
  obtain ⟨bytes, hbytes⟩ : ∃ bytes, act.bytes = bytes := ⟨_, rfl⟩
  have performed := perform_spec (S := S) m .sendThree
  have hperform : m.perform S .sendThree = (.ok (.act bytes), m') := by
    simp only [perform, sent, ← hbytes]
    rfl
  rw [hperform] at performed
  cases performed with
  | sentThree due act s keys => rfl

/-- Act three ends the responder's part, which learns the initiator's key from it. -/
theorem concluded_of_receiveActThree {act : Octets staticActSize}
    (accepted : m.receiveActThree S act = (.ok (), m')) :
    m'.isComplete = true ∧ ∃ key, m'.remoteStatic = some key ∧
      S.openText m.tempKey 1 m.symmetric.hash.bytes (StaticAct.ofOctets act).sealedKey.bytes =
        some key.bytes := by
  have performed := perform_spec (S := S) m (.receiveThree act)
  have hperform : m.perform S (.receiveThree act) = (.ok .accepted, m') := by
    simp only [perform, accepted]
    rfl
  rw [hperform] at performed
  cases performed with
  | receivedThree _ _ key _ _ _ opened =>
    exact ⟨rfl, key, rfl, (Symmetric.openText_of_openField S opened).1⟩

/-- Nothing is due from a machine that is done. -/
theorem owner_ne_complete (op : Operation) (role : Role) : op.owner ≠ (role, .complete) := by
  intro h
  cases op <;> cases h

/-- As many acts lie behind a machine as operations have succeeded. -/
theorem position_performAll (m : Machine) (ops : List Operation) :
    (m.performAll S ops).2.stage.position =
      m.stage.position + (m.performAll S ops).1.countP Except.isOk := by
  induction ops generalizing m with
  | nil => rfl
  | cons op ops ih =>
    rw [performAll_cons, List.countP_cons, ih, (perform_spec m op).position]
    omega

end Stages

/-! ## What a machine holds -/

/-- Does a machine hold the secret that it drew? -/
def holdsDraw : Role → Stage → Bool
  | .initiator, .actTwo => true
  | .initiator, .actThree => true
  | .responder, .actThree => true
  | _, _ => false

/-- Has a machine been told the key that the other side drew? -/
def holdsRemoteDraw : Role → Stage → Bool
  | .initiator, .actThree => true
  | .initiator, .complete => true
  | .responder, .actTwo => true
  | .responder, .actThree => true
  | .responder, .complete => true
  | _, _ => false

/-- A machine that was made for a role with a secret, and as an initiator for the holder of the
    key `remote`. -/
structure Coherent (role : Role) (own : Identity) (remote : PublicKey) (m : Machine) : Prop where
  role_eq : m.role = role
  localStatic_eq : m.localStatic = own
  /-- The keys for what follows are there at the end, and not before. -/
  sessionKeys_eq : m.sessionKeys.isSome = m.isComplete
  /-- The initiator knows whom it talks to, the responder learns it at the end. -/
  remoteStatic_eq : match m.role with
    | .initiator => m.remoteStatic = some remote
    | .responder => m.remoteStatic.isSome = m.isComplete
  localEphemeral_eq : m.localEphemeral.isSome = holdsDraw m.role m.stage
  remoteEphemeral_eq : m.remoteEphemeral.isSome = holdsRemoteDraw m.role m.stage
  /-- The key of act two is wiped at the end. -/
  tempKey_eq : m.isComplete = true → m.tempKey = Octets.zero 32

/-- A fresh machine of a role. -/
def opening (S : Suite) (own : Identity) (remote : PublicKey) : Role → Machine
  | .initiator => initiator S own remote
  | .responder => responder S own

section Coherence

variable {role : Role} {own : Identity} {remote : PublicKey} {m m' : Machine} {op : Operation}
  {answer : Except HandshakeError Reply}

theorem coherent_opening (role : Role) (own : Identity) (remote : PublicKey) :
    Coherent role own remote (opening S own remote role) := by
  have unfinished : ∀ temp : Key, false = true → temp = Octets.zero 32 := nofun
  cases role with
  | initiator => exact ⟨rfl, rfl, rfl, rfl, rfl, rfl, unfinished _⟩
  | responder => exact ⟨rfl, rfl, rfl, rfl, rfl, rfl, unfinished _⟩

/-- Whatever an operation does, a machine goes on to hold what belongs to its stage. -/
theorem Coherent.performed (coherent : Coherent role own remote m)
    (performed : Performed S m op answer m') : Coherent role own remote m' := by
  obtain ⟨role', stage, own', remoteStatic, localEphemeral, remoteEphemeral, symmetric, temp,
    keys⟩ := m
  -- the stage is known where something is due, and with it what is held
  cases performed with
  | stray notDue => exact coherent
  | failed due error s temp' =>
    have unfinished : (stage == .complete) ≠ true := by
      intro h
      rw [beq_iff_eq] at h
      exact owner_ne_complete op role' (h ▸ due)
    exact { coherent with tempKey_eq := fun h => absurd h unfinished }
  | sentOne ephemeral due act s =>
    cases due
    exact { coherent with localEphemeral_eq := rfl, tempKey_eq := nofun }
  | receivedOne act due key s =>
    cases due
    exact { coherent with remoteEphemeral_eq := rfl, tempKey_eq := nofun }
  | sentTwo ephemeral due act s temp' =>
    cases due
    exact { coherent with localEphemeral_eq := rfl, tempKey_eq := nofun }
  | receivedTwo act due key s temp' =>
    cases due
    exact { coherent with remoteEphemeral_eq := rfl, tempKey_eq := nofun }
  | sentThree due act s keys' =>
    cases due
    exact { coherent with
      sessionKeys_eq := rfl, localEphemeral_eq := rfl, tempKey_eq := fun _ => rfl }
  | receivedThree act due key s₁ s keys' opened =>
    cases due
    exact { coherent with
      sessionKeys_eq := rfl, remoteStatic_eq := rfl, localEphemeral_eq := rfl,
      tempKey_eq := fun _ => rfl }

/-- A machine holds what belongs to its stage along every run. -/
theorem Coherent.performAll (coherent : Coherent role own remote m) (ops : List Operation) :
    Coherent role own remote (m.performAll S ops).2 := by
  induction ops generalizing m with
  | nil => exact coherent
  | cons op ops ih =>
    rw [performAll_cons]
    exact ih (coherent.performed (perform_spec m op))

end Coherence

/-! ## Where the other side's key comes from -/

/-- The static key that was opened by the acceptance of act three in a run. -/
def Introduced (S : Suite) (m₀ : Machine) (ops : List Operation) (key : PublicKey) : Prop :=
  ∃ before act later, ops = before ++ .receiveThree act :: later ∧
    ((m₀.performAll S before).2.perform S (.receiveThree act)).1 = .ok .accepted ∧
    S.openText (m₀.performAll S before).2.tempKey 1 (m₀.performAll S before).2.symmetric.hash.bytes
      (StaticAct.ofOctets act).sealedKey.bytes = some key.bytes

section Introduction

variable {m₀ : Machine}

theorem Introduced.concat {ops : List Operation} {key : PublicKey}
    (introduced : Introduced S m₀ ops key) (op : Operation) : Introduced S m₀ (ops ++ [op]) key := by
  obtain ⟨before, act, later, rfl, hrest⟩ := introduced
  refine ⟨before, act, later ++ [op], ?_, hrest⟩
  rw [List.append_assoc, List.cons_append]

/-- The last operation leaves the other side's key as it was, or has just opened it. -/
theorem Performed.remoteStatic {m m' : Machine} {op : Operation}
    {answer : Except HandshakeError Reply} (performed : Performed S m op answer m') :
    m'.remoteStatic = m.remoteStatic ∨
      ∃ act key s, op = .receiveThree act ∧ answer = .ok .accepted ∧ m'.remoteStatic = some key ∧
        m.symmetric.openField S (n := 32) m.tempKey 1 (StaticAct.ofOctets act).sealedKey =
          some (key, s) := by
  cases performed with
  | receivedThree act due key s₁ s keys opened =>
    exact Or.inr ⟨act, key, s₁, rfl, rfl, rfl, opened⟩
  | _ => exact Or.inl rfl

/-- A machine that did not know the other side's key has opened the one that it holds. -/
theorem introduced_performAll (hnone : m₀.remoteStatic = none) (ops : List Operation)
    {key : PublicKey} (hkey : (m₀.performAll S ops).2.remoteStatic = some key) :
    Introduced S m₀ ops key := by
  induction ops using List.reverseRecOn with
  | nil =>
    rw [show (m₀.performAll S []).2 = m₀ from rfl, hnone] at hkey
    cases hkey
  | append_singleton ops op ih =>
    let m := (m₀.performAll S ops).2
    have hlast : (m₀.performAll S (ops ++ [op])).2 = (m.perform S op).2 := by
      rw [performAll_append]
      rfl
    rw [hlast] at hkey
    rcases (perform_spec m op).remoteStatic with hsame | ⟨act, key', s, rfl, hok, hnew, hopened⟩
    · exact (ih (hsame ▸ hkey)).concat op
    · obtain rfl : key' = key := Option.some.inj (hnew.symm.trans hkey)
      exact ⟨ops, act, [], rfl, hok, (Symmetric.openText_of_openField S hopened).1⟩

end Introduction

/-! ## Every reachable machine -/

/-- What an operation does to where a machine stands. -/
structure Moves (S : Suite) (m : Machine) (op : Operation) : Prop where
  /-- A failure leaves the machine at its stage. -/
  failed : ∀ error, (m.perform S op).1 = .error error → (m.perform S op).2.stage = m.stage
  /-- Only what is due succeeds, and that takes the machine one stage on. -/
  succeeded : ∀ reply, (m.perform S op).1 = .ok reply →
    op.owner = (m.role, m.stage) ∧
      (m.perform S op).2.stage.position = m.stage.position + 1
  /-- A machine that is done refuses everything and stays as it is. -/
  done : m.isComplete = true → m.perform S op = (.error (.outOfOrder op.act m.role), m)

theorem moves (m : Machine) (op : Operation) : Moves S m op where
  failed := by
    intro error herror
    have performed := perform_spec (S := S) m op
    rw [herror] at performed
    exact performed.stays
  succeeded := by
    intro reply hreply
    have performed := perform_spec (S := S) m op
    rw [hreply] at performed
    exact ⟨performed.due, performed.position⟩
  done := by
    intro hdone
    have hstage : m.stage = .complete := beq_iff_eq.1 hdone
    exact perform_of_not_owed S (hstage ▸ owner_ne_complete op m.role)

/-- **What a machine holds at any time.**  Whatever its role, its secret and the key that it was made
    for: after any operations in any order, with any bytes and draws, whether they succeeded or not,
    a machine holds what belongs to its role and stage; it has come as many stages as operations
    have succeeded; a responder knows no other key than the one that it opened in the act three it
    accepted; and the next operation moves it by one stage or not at all. -/
theorem machine_coherent (S : Suite) (role : Role) (own : Identity) (remote : PublicKey)
    (ops : List Operation) :
    let run := (opening S own remote role).performAll S ops
    Coherent role own remote run.2 ∧
      run.2.stage.position = run.1.countP Except.isOk ∧
      (∀ key, role = .responder → run.2.remoteStatic = some key →
        Introduced S (opening S own remote role) ops key) ∧
      ∀ op, Moves S run.2 op := by
  refine ⟨(coherent_opening role own remote).performAll ops, ?_, ?_, fun op => moves _ op⟩
  · have hstart : (opening S own remote role).stage.position = 0 := by cases role <;> rfl
    rw [position_performAll, hstart, Nat.zero_add]
  · rintro key rfl hkey
    exact introduced_performAll rfl ops hkey

end Machine

end Gatehouse
