import Gatehouse.Handshake.Act
import Gatehouse.Identity
import Gatehouse.Noise.Symmetric

/-!
# The handshake machine

One side of one handshake:

    act one     initiator → responder    version, e, tag          (e, es)
    act two     initiator ← responder    version, e, tag          (e, ee)
    act three   initiator → responder    version, sealed s, tag   (s, se)

Every operation answers with an error or a result, together with the machine afterwards: what a
failed operation had already taken into the symmetric state stays there, while the stage moves only
when the operation succeeds.
-/

namespace Gatehouse

/-- The next act that a machine sends or expects. -/
inductive Stage
  | actOne
  | actTwo
  | actThree
  | complete
deriving DecidableEq, Repr

/-- The name of a stage. -/
def Stage.name : Stage → String
  | .actOne => "ActOne"
  | .actTwo => "ActTwo"
  | .actThree => "ActThree"
  | .complete => "Complete"

/-- The keys for what follows the handshake. -/
structure SessionKeys where
  /-- For what this side sends. -/
  send : Key
  /-- For what this side receives. -/
  recv : Key
deriving DecidableEq

/-- One side of one handshake. -/
structure Machine where
  role : Role
  stage : Stage
  /-- This side's long-term secret. -/
  localStatic : Identity
  /-- The other side's long-term public key, once it is known. -/
  remoteStatic : Option PublicKey
  /-- The secret drawn for this handshake. -/
  localEphemeral : Option Secret
  /-- The public key that the other side drew for this handshake. -/
  remoteEphemeral : Option PublicKey
  symmetric : Symmetric
  /-- The key from act two, which seals the initiator's static key in act three. -/
  tempKey : Key
  sessionKeys : Option SessionKeys
deriving DecidableEq

/-- The name of the protocol. -/
def protocolName : Bytes := Utf8.encode "Noise_XK_25519_ChaChaPoly_SHA256"

/-- What both sides take into the transcript before anything else. -/
def prologue : Bytes := Utf8.encode "handshake-gate"

namespace Machine

variable (S : Suite)

/-! ## A fresh machine -/

/-- The symmetric state before act one, when the responder's key is `responder`. -/
def openingState (responder : PublicKey) : Symmetric :=
  ((Symmetric.ofProtocol S protocolName).mixHash S prologue).mixHash S responder.bytes

/-- A machine before act one. -/
def fresh (role : Role) (localStatic : Identity) (remoteStatic : Option PublicKey)
    (responder : PublicKey) : Machine where
  role
  stage := .actOne
  localStatic
  remoteStatic
  localEphemeral := none
  remoteEphemeral := none
  symmetric := openingState S responder
  tempKey := Octets.zero 32
  sessionKeys := none

/-- The side that answers at the public key of `localStatic`. -/
def responder (localStatic : Identity) : Machine :=
  fresh S .responder localStatic none (localStatic.publicKey S)

/-- The side that means to reach `remote`. -/
def initiator (localStatic : Identity) (remote : PublicKey) : Machine :=
  fresh S .initiator localStatic (some remote) remote

/-- Is the handshake over on this side? -/
def isComplete (m : Machine) : Bool := m.stage == .complete

/-- Is it this role's turn at this stage? -/
def owes (m : Machine) (role : Role) (stage : Stage) : Bool := m.role == role && m.stage == stage

/-! ## Key acts -/

/-- How far the sender of a key act came. -/
inductive KeyActSent
  /-- The agreement came to nothing: the state holds the ephemeral key. -/
  | lowOrder (s : Symmetric)
  /-- The tag could not be sealed: the state holds the shared secret too. -/
  | unsealed (s : Symmetric) (temp : Key)
  /-- The act, the state with all of it, and the key of its tag. -/
  | sent (act : Octets keyActSize) (s : Symmetric) (temp : Key)

/-- Put together a key act for `remote` with a freshly drawn secret. -/
def sendKeyAct (s : Symmetric) (ephemeral : Secret) (remote : PublicKey) : KeyActSent :=
  let key := S.publicKey ephemeral
  let s₁ := s.mixHash S key.bytes
  match S.agree ephemeral remote with
  | none => .lowOrder s₁
  | some shared =>
    let (s₂, temp) := s₁.mixKey S shared.bytes
    match s₂.sealField S temp 0 (Octets.zero 0) with
    | none => .unsealed s₂ temp
    | some (tag, s₃) => .sent (KeyAct.mk handshakeVersion key tag).toOctets s₃ temp

/-- How far the receiver of a key act came. -/
inductive KeyActReceived
  /-- A version that is not spoken here: nothing was taken in. -/
  | unknownVersion (version : UInt8)
  /-- There is no secret to agree with: the state holds the ephemeral key. -/
  | noSecret (s : Symmetric)
  /-- The agreement came to nothing: the state holds the ephemeral key. -/
  | lowOrder (s : Symmetric)
  /-- The tag does not open: the state holds the shared secret too. -/
  | badTag (s : Symmetric) (temp : Key)
  /-- The ephemeral key, the state with all of the act, and the key of its tag. -/
  | received (key : PublicKey) (s : Symmetric) (temp : Key)

/-- Take in a key act, agreeing with `secret`. -/
def receiveKeyAct (s : Symmetric) (secret : Option Secret) (act : KeyAct) : KeyActReceived :=
  if act.version ≠ handshakeVersion then .unknownVersion act.version
  else
    let s₁ := s.mixHash S act.key.bytes
    match secret with
    | none => .noSecret s₁
    | some own =>
      match S.agree own act.key with
      | none => .lowOrder s₁
      | some shared =>
        let (s₂, temp) := s₁.mixKey S shared.bytes
        match s₂.openField S (n := 0) temp 0 act.tag with
        | none => .badTag s₂ temp
        | some (_, s₃) => .received act.key s₃ temp

/-! ## The six operations -/

/-- The initiator sends act one. -/
def sendActOne (m : Machine) (ephemeral : Secret) :
    Except HandshakeError (Octets keyActSize) × Machine :=
  if m.owes .initiator .actOne then
    match m.remoteStatic with
    | none => (.error (.invalidKey .one), m)
    | some remote =>
      match sendKeyAct S m.symmetric ephemeral remote with
      | .lowOrder s => (.error (.invalidKey .one), { m with symmetric := s })
      | .unsealed s _ => (.error (.cipher .one), { m with symmetric := s })
      | .sent act s _ =>
        (.ok act, { m with symmetric := s, localEphemeral := some ephemeral, stage := .actTwo })
  else (.error (.outOfOrder .one m.role), m)

/-- The responder takes in act one.  It fails if the sender does not know the responder's key. -/
def receiveActOne (m : Machine) (act : Octets keyActSize) : Except HandshakeError Unit × Machine :=
  if m.owes .responder .actOne then
    match receiveKeyAct S m.symmetric (some m.localStatic.secret) (KeyAct.ofOctets act) with
    | .unknownVersion version => (.error (.unknownVersion .one version), m)
    | .noSecret s => (.error (.outOfOrder .one m.role), { m with symmetric := s })
    | .lowOrder s => (.error (.invalidKey .one), { m with symmetric := s })
    | .badTag s _ => (.error (.badTag .one), { m with symmetric := s })
    | .received key s _ =>
      (.ok (), { m with symmetric := s, remoteEphemeral := some key, stage := .actTwo })
  else (.error (.outOfOrder .one m.role), m)

/-- The responder sends act two. -/
def sendActTwo (m : Machine) (ephemeral : Secret) :
    Except HandshakeError (Octets keyActSize) × Machine :=
  if m.owes .responder .actTwo then
    match m.remoteEphemeral with
    | none => (.error (.invalidKey .two), m)
    | some remote =>
      match sendKeyAct S m.symmetric ephemeral remote with
      | .lowOrder s => (.error (.invalidKey .two), { m with symmetric := s })
      | .unsealed s temp => (.error (.cipher .two), { m with symmetric := s, tempKey := temp })
      | .sent act s temp =>
        (.ok act, { m with symmetric := s, tempKey := temp, localEphemeral := some ephemeral,
                           stage := .actThree })
  else (.error (.outOfOrder .two m.role), m)

/-- The initiator takes in act two. -/
def receiveActTwo (m : Machine) (act : Octets keyActSize) : Except HandshakeError Unit × Machine :=
  if m.owes .initiator .actTwo then
    match receiveKeyAct S m.symmetric m.localEphemeral (KeyAct.ofOctets act) with
    | .unknownVersion version => (.error (.unknownVersion .two version), m)
    | .noSecret s => (.error (.outOfOrder .two m.role), { m with symmetric := s })
    | .lowOrder s => (.error (.invalidKey .two), { m with symmetric := s })
    | .badTag s temp => (.error (.badTag .two), { m with symmetric := s, tempKey := temp })
    | .received key s temp =>
      (.ok (), { m with symmetric := s, tempKey := temp, remoteEphemeral := some key,
                        stage := .actThree })
  else (.error (.outOfOrder .two m.role), m)

/-- The machine at the end of the handshake. -/
def finish (m : Machine) (s : Symmetric) (keys : SessionKeys) : Machine :=
  { m with symmetric := s, sessionKeys := some keys, localEphemeral := none,
           tempKey := Octets.zero 32, stage := .complete }

/-- The initiator sends act three, which completes its side. -/
def sendActThree (m : Machine) : Except HandshakeError (Octets staticActSize) × Machine :=
  if m.owes .initiator .actThree then
    match m.remoteEphemeral with
    | none => (.error (.invalidKey .three), m)
    | some remote =>
      match m.symmetric.sealField S m.tempKey 1 (m.localStatic.publicKey S) with
      | none => (.error (.cipher .three), m)
      | some (sealedKey, s₁) =>
        match S.agree m.localStatic.secret remote with
        | none => (.error (.invalidKey .three), { m with symmetric := s₁ })
        | some shared =>
          let (s₂, temp) := s₁.mixKey S shared.bytes
          match s₂.sealField S temp 0 (Octets.zero 0) with
          | none => (.error (.cipher .three), { m with symmetric := s₂ })
          | some (tag, s₃) =>
            -- the first key is always that of the initiator's direction
            let (out, back) := s₃.split S
            (.ok (StaticAct.mk handshakeVersion sealedKey tag).toOctets,
              m.finish s₃ ⟨out, back⟩)
  else (.error (.outOfOrder .three m.role), m)

/-- The responder takes in act three.  Success means that both sides hold their static secrets. -/
def receiveActThree (m : Machine) (act : Octets staticActSize) :
    Except HandshakeError Unit × Machine :=
  if m.owes .responder .actThree then
    let fields := StaticAct.ofOctets act
    if fields.version ≠ handshakeVersion then (.error (.unknownVersion .three fields.version), m)
    else
      -- counter zero of this key went into the tag of act two
      match m.symmetric.openField S (n := 32) m.tempKey 1 fields.sealedKey with
      | none => (.error (.badTag .three), m)
      | some (remote, s₁) =>
        match m.localEphemeral with
        | none => (.error (.outOfOrder .three m.role), { m with symmetric := s₁ })
        | some own =>
          match S.agree own remote with
          | none => (.error (.invalidKey .three), { m with symmetric := s₁ })
          | some shared =>
            let (s₂, temp) := s₁.mixKey S shared.bytes
            match s₂.openField S (n := 0) temp 0 fields.tag with
            | none => (.error (.badTag .three), { m with symmetric := s₂ })
            | some (_, s₃) =>
              let (back, out) := s₃.split S
              (.ok (), { m with remoteStatic := some remote }.finish s₃ ⟨out, back⟩)
  else (.error (.outOfOrder .three m.role), m)

/-! ## Operations as data -/

/-- An operation on a machine. -/
inductive Operation
  | sendOne (ephemeral : Secret)
  | receiveOne (act : Octets keyActSize)
  | sendTwo (ephemeral : Secret)
  | receiveTwo (act : Octets keyActSize)
  | sendThree
  | receiveThree (act : Octets staticActSize)
deriving DecidableEq

/-- What an operation that succeeds gives. -/
inductive Reply
  /-- An act to be sent. -/
  | act (bytes : Bytes)
  /-- An act was taken in. -/
  | accepted
deriving DecidableEq

/-- The answer to an operation, and the machine afterwards. -/
def perform (m : Machine) : Operation → Except HandshakeError Reply × Machine
  | .sendOne e => let (r, m') := m.sendActOne S e; (r.map fun a => .act a.bytes, m')
  | .receiveOne a => let (r, m') := m.receiveActOne S a; (r.map fun _ => .accepted, m')
  | .sendTwo e => let (r, m') := m.sendActTwo S e; (r.map fun a => .act a.bytes, m')
  | .receiveTwo a => let (r, m') := m.receiveActTwo S a; (r.map fun _ => .accepted, m')
  | .sendThree => let (r, m') := m.sendActThree S; (r.map fun a => .act a.bytes, m')
  | .receiveThree a => let (r, m') := m.receiveActThree S a; (r.map fun _ => .accepted, m')

/-- The answers to a list of operations one after another, and the machine after the last. -/
def performAll (m : Machine) : List Operation → List (Except HandshakeError Reply) × Machine
  | [] => ([], m)
  | op :: ops =>
    let (answer, m₁) := m.perform S op
    let (answers, m₂) := m₁.performAll ops
    (answer :: answers, m₂)

/-- The machine as it is shown in descriptions: no secret is in sight. -/
def describe (m : Machine) : String :=
  let remote := match m.remoteStatic with
    | none => "None"
    | some key => "Some(" ++ PublicKey.describe key ++ ")"
  "HandshakeMachine \x7b role: " ++ m.role.name ++ ", stage: " ++ m.stage.name
    ++ ", remote_static: " ++ remote ++ ", .. \x7d"

end Machine

end Gatehouse
