import Gatehouse.Handshake.Act
import Gatehouse.Noise.Suite

/-!
# Message patterns

The rules by which a Noise handshake is read off its message pattern, for any pattern: a message is
a list of tokens, and each token says what its sender appends, what its receiver reads off, and what
both take into the handshake state.  The rules know nothing of acts, stages and offsets.
`Pattern.xk` is the pattern that the handshake machine is made for.

Payloads are empty, and one version byte goes in front of each message; it is checked, but not taken
into the hash.
-/

namespace Gatehouse.Noise

/-! ## Patterns -/

/-- One of the two key pairs of a side. -/
inductive Half
  /-- The long-term key pair. -/
  | static
  /-- The key pair that is drawn for the handshake. -/
  | ephemeral
deriving DecidableEq

/-- What a message does, piece by piece. -/
inductive Token
  /-- The sender's public key of this half goes along: in the clear if it is the ephemeral one. -/
  | key (half : Half)
  /-- Both sides agree on a secret: with these halves of the initiator and of the responder. -/
  | agreement (initiators responders : Half)
deriving DecidableEq

namespace Token

/-- The sender's ephemeral key. -/
def e : Token := .key .ephemeral

/-- The sender's static key. -/
def s : Token := .key .static

/-- Both ephemeral keys. -/
def ee : Token := .agreement .ephemeral .ephemeral

/-- The initiator's ephemeral key and the responder's static key. -/
def es : Token := .agreement .ephemeral .static

/-- The initiator's static key and the responder's ephemeral key. -/
def se : Token := .agreement .static .ephemeral

end Token

/-- A message of a pattern. -/
structure Message where
  sender : Role
  tokens : List Token

/-- A pattern of messages. -/
structure Pattern where
  /-- Whose static keys the other side knows beforehand. -/
  known : List Role
  messages : List Message

/-- The responder's static key is known beforehand, the initiator's is sent last:

        ← s
        ...
        → e, es
        ← e, ee
        → s, se
-/
def Pattern.xk : Pattern where
  known := [.responder]
  messages := [⟨.initiator, [.e, .es]⟩, ⟨.responder, [.e, .ee]⟩, ⟨.initiator, [.s, .se]⟩]

/-! ## One side of a handshake -/

/-- Why a handshake fails. -/
inductive Fault
  /-- The message has a version in front that is not spoken. -/
  | version (value : UInt8)
  /-- A secret contributes nothing to an agreement. -/
  | lowOrder
  /-- A text does not open. -/
  | forged
  /-- A text cannot be sealed. -/
  | unsealed
  /-- The message is too short or carries a payload, or a token names a key that nobody has sent. -/
  | misfit
deriving DecidableEq

/-- What comes of a message on one side. -/
inductive Answer
  | wrote (message : Bytes)
  | took
deriving DecidableEq

/-- One side of a handshake, with the variables of the rules. -/
structure Party where
  role : Role
  /-- This side's static secret. -/
  s : Secret
  /-- The secret that this side draws when its ephemeral key is due. -/
  draw : Secret
  /-- This side's ephemeral secret. -/
  e : Option Secret
  /-- The other side's static key. -/
  rs : Option PublicKey
  /-- The other side's ephemeral key. -/
  re : Option PublicKey
  /-- The hash of the handshake so far. -/
  h : Digest
  /-- The chaining key. -/
  ck : Key
  /-- The cipher's key and the number of texts sealed with it, once there has been an agreement. -/
  cipher : Option (Key × UInt64)

namespace Party

variable (S : Suite)

/-- Take data into the hash. -/
def mixHash (p : Party) (data : Bytes) : Party := { p with h := S.hash (p.h.bytes ++ data) }

/-- Take a secret into the chaining key.  The cipher gets a fresh key and counts from zero. -/
def mixKey (p : Party) (input : Bytes) : Party :=
  { p with ck := (S.derive p.ck input).1, cipher := some ((S.derive p.ck input).2, 0) }

/-- Seal a text, or leave it as it is before the first agreement, and take it into the hash. -/
def encryptAndHash (p : Party) (text : Bytes) : Except Fault (Bytes × Party) :=
  match p.cipher with
  | none => .ok (text, p.mixHash S text)
  | some (k, n) =>
    match S.sealText k n p.h.bytes text with
    | none => .error .unsealed
    | some c => .ok (c, { p with cipher := some (k, n + 1) }.mixHash S c)

/-- Open a text, or leave it as it is before the first agreement, and take it into the hash as it
    was sent. -/
def decryptAndHash (p : Party) (text : Bytes) : Except Fault (Bytes × Party) :=
  match p.cipher with
  | none => .ok (text, p.mixHash S text)
  | some (k, n) =>
    match S.openText k n p.h.bytes text with
    | none => .error .forged
    | some b => .ok (b, { p with cipher := some (k, n + 1) }.mixHash S text)

/-! ## Tokens -/

/-- This side's secret of a half. -/
def mine (p : Party) : Half → Option Secret
  | .static => some p.s
  | .ephemeral => p.e

/-- The other side's public key of a half. -/
def theirs (p : Party) : Half → Option PublicKey
  | .static => p.rs
  | .ephemeral => p.re

/-- This side's half and the other side's. -/
def sides (p : Party) (initiators responders : Half) : Half × Half :=
  match p.role with
  | .initiator => (initiators, responders)
  | .responder => (responders, initiators)

/-- Agree with these halves of the initiator and of the responder. -/
def mixAgreement (p : Party) (initiators responders : Half) : Except Fault Party :=
  let (own, other) := p.sides initiators responders
  match p.mine own, p.theirs other with
  | some secret, some key =>
    match S.agree secret key with
    | none => .error .lowOrder
    | some shared => .ok (p.mixKey S shared.bytes)
  | _, _ => .error .misfit

/-- What the sender of a message appends for a token. -/
def writeToken (p : Party) : Token → Except Fault (Bytes × Party)
  | .key .ephemeral =>
    let key := (S.publicKey p.draw).bytes
    .ok (key, { p with e := some p.draw }.mixHash S key)
  | .key .static => p.encryptAndHash S (S.publicKey p.s).bytes
  | .agreement i r => (p.mixAgreement S i r).map ([], ·)

/-- What the receiver of a message reads off for a token: the bytes that are left. -/
def readToken (p : Party) (b : Bytes) : Token → Except Fault (Bytes × Party)
  | .key .ephemeral =>
    match Octets.ofBytes? 32 (b.take 32) with
    | none => .error .misfit
    | some key => .ok (b.drop 32, { p with re := some key }.mixHash S key.bytes)
  | .key .static => do
    -- once there has been an agreement a key is sealed, and longer by a tag
    let size := if p.cipher.isSome then 32 + 16 else 32
    let (text, p) ← p.decryptAndHash S (b.take size)
    match Octets.ofBytes? 32 text with
    | none => .error .misfit
    | some key => .ok (b.drop size, { p with rs := some key })
  | .agreement i r => (p.mixAgreement S i r).map (b, ·)

/-! ## Messages -/

def writeTokens (p : Party) : List Token → Except Fault (Bytes × Party)
  | [] => .ok ([], p)
  | t :: ts => do
    let (b, p) ← p.writeToken S t
    let (rest, p) ← p.writeTokens ts
    return (b ++ rest, p)

def readTokens (p : Party) (b : Bytes) : List Token → Except Fault (Bytes × Party)
  | [] => .ok (b, p)
  | t :: ts => do
    let (rest, p) ← p.readToken S b t
    p.readTokens rest ts

/-- Write a message: the tokens, and then an empty payload. -/
def write (p : Party) (tokens : List Token) : Except Fault (Bytes × Party) := do
  let (b, p) ← p.writeTokens S tokens
  let (c, p) ← p.encryptAndHash S []
  return (handshakeVersion :: (b ++ c), p)

/-- Read a message, in which the payload has to be empty. -/
def read (p : Party) (tokens : List Token) : Bytes → Except Fault Party
  | [] => .error .misfit
  | v :: b =>
    if v ≠ handshakeVersion then .error (.version v)
    else do
      let (rest, p) ← p.readTokens S b tokens
      let (payload, p) ← p.decryptAndHash S rest
      if payload = [] then return p else .error .misfit

/-- Write the message, or read it from what comes in: what is left of that goes on. -/
def step (p : Party) (m : Message) (incoming : List Bytes) :
    Except Fault (Answer × Party × List Bytes) :=
  if m.sender = p.role then do
    let (b, p) ← p.write S m.tokens
    return (.wrote b, p, incoming)
  else
    match incoming with
    | [] => .error .misfit
    | b :: rest => do
      let p ← p.read S m.tokens b
      return (.took, p, rest)

/-- Go through the messages up to the first fault.  The party is there at the end if there was
    none. -/
def run (p : Party) : List Message → List Bytes → List (Except Fault Answer) × Option Party
  | [], _ => ([], some p)
  | m :: ms, incoming =>
    match p.step S m incoming with
    | .error fault => ([.error fault], none)
    | .ok (answer, p, rest) =>
      let (answers, last) := p.run ms rest
      (.ok answer :: answers, last)

/-- The two keys of a finished handshake, for what this side sends and for what it receives.  The
    first key is that of the initiator's direction. -/
def split (p : Party) : Key × Key :=
  let (k₁, k₂) := S.derive p.ck []
  match p.role with
  | .initiator => (k₁, k₂)
  | .responder => (k₂, k₁)

end Party

/-! ## Whole handshakes -/

/-- Take the static keys that are known beforehand into the hash. -/
def Party.mixKnown (S : Suite) (p : Party) : List Role → Except Fault Party
  | [] => .ok p
  | role :: roles =>
    match if role = p.role then some (S.publicKey p.s) else p.rs with
    | none => .error .misfit
    | some key => (p.mixHash S key.bytes).mixKnown S roles

/-- The variables before the first message. -/
def Party.start (S : Suite) (name prologue : Bytes) (known : List Role) (role : Role) (s : Secret)
    (rs : Option PublicKey) (draw : Secret) : Except Fault Party :=
  ({ role, s, draw, rs, e := none, re := none, cipher := none,
     h := S.hash name, ck := S.hash name : Party }.mixHash S prologue).mixKnown S known

/-- One side of a handshake by the rules: what came of each message up to the first fault, and the
    variables at the end if there was none. -/
def Pattern.run (pattern : Pattern) (S : Suite) (name prologue : Bytes) (role : Role) (s : Secret)
    (rs : Option PublicKey) (draw : Secret) (incoming : List Bytes) :
    List (Except Fault Answer) × Option Party :=
  match Party.start S name prologue pattern.known role s rs draw with
  | .error fault => ([.error fault], none)
  | .ok p => p.run S pattern.messages incoming

end Gatehouse.Noise
