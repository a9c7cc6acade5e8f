import Gatehouse.Proofs.Handshake.Invariant
import Gatehouse.Proofs.Noise.Pattern

/-!
# The ledger of a machine

A machine with a ledger beside it, in which every derivation of a key and every call for a text to
be sealed is entered, whether the operation succeeds or fails later on.  A key goes with the
derivation that it comes from (`TracedKey`), so that what is entered is the key that is used.

The machine does not look at the ledger: its answers and its state are what they are without one
(`Traced.performAll_machine`).
-/

namespace Gatehouse

open Noise (Token)

/-- A shared secret taken into a chaining key, which gives a cipher key. -/
structure Derivation where
  /-- How many derivations the machine had made before. -/
  number : Nat
  /-- Which halves of the two sides have agreed on the secret. -/
  token : Token
  chain : Key
  input : Bytes
deriving DecidableEq

/-- The cipher key that a derivation gives. -/
def Derivation.key (S : Suite) (d : Derivation) : Key := (S.derive d.chain d.input).2

/-- A key, with the derivation that it comes from; none for a key that was not derived. -/
structure TracedKey where
  key : Key
  origin : Option Derivation
deriving DecidableEq

/-- What a derivation gives. -/
def Derivation.traced (S : Suite) (d : Derivation) : TracedKey := ⟨d.key S, some d⟩

/-- A call for a text to be sealed. -/
structure Sealing where
  key : TracedKey
  counter : UInt64
deriving DecidableEq

namespace Sealing

/-- The number of the derivation that the key comes from, and the counter. -/
def place (x : Sealing) : Option Nat × UInt64 := (x.key.origin.map Derivation.number, x.counter)

/-- The shared secret that the key comes from, and the counter. -/
def slot (x : Sealing) : Option Token × UInt64 := (x.key.origin.map Derivation.token, x.counter)

end Sealing

/-- What a machine has derived and sealed, the latest first. -/
structure Ledger where
  derivations : List Derivation := []
  sealings : List Sealing := []
deriving DecidableEq

/-- A machine with its ledger. -/
structure Traced where
  machine : Machine
  /-- The derivation that the machine's temporary key comes from. -/
  temp : Option Derivation := none
  ledger : Ledger := {}
deriving DecidableEq

variable (S : Suite)

/-! ## Entries -/

namespace Ledger

/-- The derivation that is entered next. -/
def upcoming (g : Ledger) (token : Token) (s : Symmetric) (input : Bytes) : Derivation :=
  ⟨g.derivations.length, token, s.chain, input⟩

/-- Enter a derivation. -/
def enterDerivation (g : Ledger) (d : Derivation) : Ledger := { g with derivations := d :: g.derivations }

/-- Enter a call for a text to be sealed. -/
def enterSealing (g : Ledger) (key : TracedKey) (counter : UInt64) : Ledger :=
  { g with sealings := ⟨key, counter⟩ :: g.sealings }

/-- Take a shared secret into the chaining key. -/
def mixKey (g : Ledger) (token : Token) (s : Symmetric) (input : Bytes) :
    Symmetric × TracedKey × Ledger :=
  let (s', key) := s.mixKey S input
  let d := g.upcoming token s input
  (s', ⟨key, some d⟩, g.enterDerivation d)

/-- Seal a field. -/
def sealField {n : Nat} (g : Ledger) (s : Symmetric) (key : TracedKey) (counter : UInt64)
    (field : Octets n) : Option (Octets (n + 16) × Symmetric) × Ledger :=
  (s.sealField S key.key counter field, g.enterSealing key counter)

/-! ## Key acts -/

/-- Put together a key act.  The derivation is the one that the key of the tag comes from. -/
def sendKeyAct (g : Ledger) (token : Token) (s : Symmetric) (ephemeral : Secret)
    (remote : PublicKey) : Machine.KeyActSent × Option Derivation × Ledger :=
  let key := S.publicKey ephemeral
  let s₁ := s.mixHash S key.bytes
  match S.agree ephemeral remote with
  | none => (.lowOrder s₁, none, g)
  | some shared =>
    let (s₂, temp, g) := g.mixKey S token s₁ shared.bytes
    match g.sealField S s₂ temp 0 (Octets.zero 0) with
    | (none, g) => (.unsealed s₂ temp.key, temp.origin, g)
    | (some (tag, s₃), g) =>
      (.sent (KeyAct.mk handshakeVersion key tag).toOctets s₃ temp.key, temp.origin, g)

/-- Take in a key act. -/
def receiveKeyAct (g : Ledger) (token : Token) (s : Symmetric) (secret : Option Secret)
    (act : KeyAct) : Machine.KeyActReceived × Option Derivation × Ledger :=
  if act.version ≠ handshakeVersion then (.unknownVersion act.version, none, g)
  else
    let s₁ := s.mixHash S act.key.bytes
    match secret with
    | none => (.noSecret s₁, none, g)
    | some own =>
      match S.agree own act.key with
      | none => (.lowOrder s₁, none, g)
      | some shared =>
        let (s₂, temp, g) := g.mixKey S token s₁ shared.bytes
        match s₂.openField S (n := 0) temp.key 0 act.tag with
        | none => (.badTag s₂ temp.key, temp.origin, g)
        | some (_, s₃) => (.received act.key s₃ temp.key, temp.origin, g)

end Ledger

/-! ## The six operations -/

namespace Traced

open Machine (Operation Reply)

/-- The initiator sends act one. -/
def sendActOne (t : Traced) (ephemeral : Secret) :
    Except HandshakeError (Octets keyActSize) × Traced :=
  let m := t.machine
  if m.owes .initiator .actOne then
    match m.remoteStatic with
    | none => (.error (.invalidKey .one), t)
    | some remote =>
      match t.ledger.sendKeyAct S .es m.symmetric ephemeral remote with
      | (.lowOrder s, _, ledger) =>
        (.error (.invalidKey .one), { t with machine := { m with symmetric := s }, ledger })
      | (.unsealed s _, _, ledger) =>
        (.error (.cipher .one), { t with machine := { m with symmetric := s }, ledger })
      | (.sent act s _, _, ledger) =>
        (.ok act,
          { t with
            machine := { m with symmetric := s, localEphemeral := some ephemeral, stage := .actTwo }
            ledger })
  else (.error (.outOfOrder .one m.role), t)

/-- The responder takes in act one. -/
def receiveActOne (t : Traced) (act : Octets keyActSize) : Except HandshakeError Unit × Traced :=
  let m := t.machine
  if m.owes .responder .actOne then
    match t.ledger.receiveKeyAct S .es m.symmetric (some m.localStatic.secret)
        (KeyAct.ofOctets act) with
    | (.unknownVersion version, _, ledger) =>
      (.error (.unknownVersion .one version), { t with ledger })
    | (.noSecret s, _, ledger) =>
      (.error (.outOfOrder .one m.role), { t with machine := { m with symmetric := s }, ledger })
    | (.lowOrder s, _, ledger) =>
      (.error (.invalidKey .one), { t with machine := { m with symmetric := s }, ledger })
    | (.badTag s _, _, ledger) =>
      (.error (.badTag .one), { t with machine := { m with symmetric := s }, ledger })
    | (.received key s _, _, ledger) =>
      (.ok (),
        { t with
          machine := { m with symmetric := s, remoteEphemeral := some key, stage := .actTwo }
          ledger })
  else (.error (.outOfOrder .one m.role), t)

/-- The responder sends act two. -/
def sendActTwo (t : Traced) (ephemeral : Secret) :
    Except HandshakeError (Octets keyActSize) × Traced :=
  let m := t.machine
  if m.owes .responder .actTwo then
    match m.remoteEphemeral with
    | none => (.error (.invalidKey .two), t)
    | some remote =>
      match t.ledger.sendKeyAct S .ee m.symmetric ephemeral remote with
      | (.lowOrder s, _, ledger) =>
        (.error (.invalidKey .two), { t with machine := { m with symmetric := s }, ledger })
      | (.unsealed s tempKey, temp, ledger) =>
        (.error (.cipher .two), { machine := { m with symmetric := s, tempKey }, temp, ledger })
      | (.sent act s tempKey, temp, ledger) =>
        (.ok act,
          { machine := { m with symmetric := s, tempKey, localEphemeral := some ephemeral,
                                stage := .actThree }
            temp
            ledger })
  else (.error (.outOfOrder .two m.role), t)

/-- The initiator takes in act two. -/
def receiveActTwo (t : Traced) (act : Octets keyActSize) : Except HandshakeError Unit × Traced :=
  let m := t.machine
  if m.owes .initiator .actTwo then
    match t.ledger.receiveKeyAct S .ee m.symmetric m.localEphemeral (KeyAct.ofOctets act) with
    | (.unknownVersion version, _, ledger) =>
      (.error (.unknownVersion .two version), { t with ledger })
    | (.noSecret s, _, ledger) =>
      (.error (.outOfOrder .two m.role), { t with machine := { m with symmetric := s }, ledger })
    | (.lowOrder s, _, ledger) =>
      (.error (.invalidKey .two), { t with machine := { m with symmetric := s }, ledger })
    | (.badTag s tempKey, temp, ledger) =>
      (.error (.badTag .two), { machine := { m with symmetric := s, tempKey }, temp, ledger })
    | (.received key s tempKey, temp, ledger) =>
      (.ok (),
        { machine := { m with symmetric := s, tempKey, remoteEphemeral := some key,
                              stage := .actThree }
          temp
          ledger })
  else (.error (.outOfOrder .two m.role), t)

/-- The initiator sends act three, which completes its side. -/
def sendActThree (t : Traced) : Except HandshakeError (Octets staticActSize) × Traced :=
  let m := t.machine
  if m.owes .initiator .actThree then
    match m.remoteEphemeral with
    | none => (.error (.invalidKey .three), t)
    | some remote =>
      match t.ledger.sealField S m.symmetric ⟨m.tempKey, t.temp⟩ 1 (m.localStatic.publicKey S) with
      | (none, ledger) => (.error (.cipher .three), { t with ledger })
      | (some (sealedKey, s₁), ledger) =>
        match S.agree m.localStatic.secret remote with
        | none =>
          (.error (.invalidKey .three), { t with machine := { m with symmetric := s₁ }, ledger })
        | some shared =>
          let (s₂, temp, ledger) := ledger.mixKey S .se s₁ shared.bytes
          match ledger.sealField S s₂ temp 0 (Octets.zero 0) with
          | (none, ledger) =>
            (.error (.cipher .three), { t with machine := { m with symmetric := s₂ }, ledger })
          | (some (tag, s₃), ledger) =>
            let (out, back) := s₃.split S
            (.ok (StaticAct.mk handshakeVersion sealedKey tag).toOctets,
              { machine := m.finish s₃ ⟨out, back⟩, ledger })
  else (.error (.outOfOrder .three m.role), t)

/-- The responder takes in act three. -/
def receiveActThree (t : Traced) (act : Octets staticActSize) :
    Except HandshakeError Unit × Traced :=
  let m := t.machine
  if m.owes .responder .actThree then
    let fields := StaticAct.ofOctets act
    if fields.version ≠ handshakeVersion then (.error (.unknownVersion .three fields.version), t)
    else
      match m.symmetric.openField S (n := 32) m.tempKey 1 fields.sealedKey with
      | none => (.error (.badTag .three), t)
      | some (remote, s₁) =>
        match m.localEphemeral with
        | none =>
          (.error (.outOfOrder .three m.role), { t with machine := { m with symmetric := s₁ } })
        | some own =>
          match S.agree own remote with
          | none => (.error (.invalidKey .three), { t with machine := { m with symmetric := s₁ } })
          | some shared =>
            let (s₂, temp, ledger) := t.ledger.mixKey S .se s₁ shared.bytes
            match s₂.openField S (n := 0) temp.key 0 fields.tag with
            | none =>
              (.error (.badTag .three), { t with machine := { m with symmetric := s₂ }, ledger })
            | some (_, s₃) =>
              let (back, out) := s₃.split S
              (.ok (),
                { machine := { m with remoteStatic := some remote }.finish s₃ ⟨out, back⟩, ledger })
  else (.error (.outOfOrder .three m.role), t)

/-- The answer to an operation, and the machine with its ledger afterwards. -/
def perform (t : Traced) : Operation → Except HandshakeError Reply × Traced
  | .sendOne e => let (r, t') := t.sendActOne S e; (r.map fun a => .act a.bytes, t')
  | .receiveOne a => let (r, t') := t.receiveActOne S a; (r.map fun _ => .accepted, t')
  | .sendTwo e => let (r, t') := t.sendActTwo S e; (r.map fun a => .act a.bytes, t')
  | .receiveTwo a => let (r, t') := t.receiveActTwo S a; (r.map fun _ => .accepted, t')
  | .sendThree => let (r, t') := t.sendActThree S; (r.map fun a => .act a.bytes, t')
  | .receiveThree a => let (r, t') := t.receiveActThree S a; (r.map fun _ => .accepted, t')

/-- The answers to a list of operations one after another, and the machine with its ledger after the
    last. -/
def performAll (t : Traced) : List Operation → List (Except HandshakeError Reply) × Traced
  | [] => ([], t)
  | op :: ops =>
    let (answer, t₁) := t.perform S op
    let (answers, t₂) := t₁.performAll ops
    (answer :: answers, t₂)

/-- A fresh machine of a role: nothing is entered. -/
def opening (own : Identity) (remote : PublicKey) (role : Role) : Traced where
  machine := Machine.opening S own remote role

end Traced

variable {S}

/-! ## Without the ledger -/

/-- Sending a key act does not depend on the ledger. -/
theorem Ledger.fst_sendKeyAct (g : Ledger) (token : Token) (s : Symmetric) (ephemeral : Secret)
    (remote : PublicKey) :
    (g.sendKeyAct S token s ephemeral remote).1 = Machine.sendKeyAct S s ephemeral remote := by
  unfold sendKeyAct Machine.sendKeyAct
  cases S.agree ephemeral remote with
  | none => rfl
  | some shared =>
    simp only [mixKey, sealField]
    cases Symmetric.sealField S _ _ 0 (Octets.zero 0) <;> rfl

theorem Ledger.fst_receiveKeyAct (g : Ledger) (token : Token) (s : Symmetric)
    (secret : Option Secret) (act : KeyAct) :
    (g.receiveKeyAct S token s secret act).1 = Machine.receiveKeyAct S s secret act := by
  unfold receiveKeyAct Machine.receiveKeyAct
  split
  · rfl
  · cases secret with
    | none => rfl
    | some own =>
      simp only
      cases S.agree own act.key with
      | none => rfl
      | some shared =>
        simp only [mixKey]
        cases Symmetric.openField S _ _ 0 act.tag <;> rfl

namespace Traced

open Machine (Operation Reply)

variable {t : Traced}

/-- A result without the ledger. -/
def forget {α : Type} (r : α × Traced) : α × Machine := (r.1, r.2.machine)

theorem forget_sendActOne (t : Traced) (ephemeral : Secret) :
    forget (t.sendActOne S ephemeral) = t.machine.sendActOne S ephemeral := by
  by_cases due : t.machine.owes .initiator .actOne = true
  · simp only [sendActOne, Machine.sendActOne, if_pos due]
    cases t.machine.remoteStatic with
    | none => rfl
    | some remote =>
      simp only [← t.ledger.fst_sendKeyAct .es]
      rcases t.ledger.sendKeyAct S .es t.machine.symmetric ephemeral remote with ⟨sent, temp, ledger⟩
      cases sent <;> rfl
  · simp only [sendActOne, Machine.sendActOne, if_neg due]
    rfl

theorem forget_receiveActOne (t : Traced) (act : Octets keyActSize) :
    forget (t.receiveActOne S act) = t.machine.receiveActOne S act := by
  by_cases due : t.machine.owes .responder .actOne = true
  · simp only [receiveActOne, Machine.receiveActOne, if_pos due, ← t.ledger.fst_receiveKeyAct .es]
    rcases t.ledger.receiveKeyAct S .es t.machine.symmetric (some t.machine.localStatic.secret)
      (KeyAct.ofOctets act) with ⟨received, temp, ledger⟩
    cases received <;> rfl
  · simp only [receiveActOne, Machine.receiveActOne, if_neg due]
    rfl

theorem forget_sendActTwo (t : Traced) (ephemeral : Secret) :
    forget (t.sendActTwo S ephemeral) = t.machine.sendActTwo S ephemeral := by
  by_cases due : t.machine.owes .responder .actTwo = true
  · simp only [sendActTwo, Machine.sendActTwo, if_pos due]
    cases t.machine.remoteEphemeral with
    | none => rfl
    | some remote =>
      simp only [← t.ledger.fst_sendKeyAct .ee]
      rcases t.ledger.sendKeyAct S .ee t.machine.symmetric ephemeral remote with ⟨sent, temp, ledger⟩
      cases sent <;> rfl
  · simp only [sendActTwo, Machine.sendActTwo, if_neg due]
    rfl

theorem forget_receiveActTwo (t : Traced) (act : Octets keyActSize) :
    forget (t.receiveActTwo S act) = t.machine.receiveActTwo S act := by
  by_cases due : t.machine.owes .initiator .actTwo = true
  · simp only [receiveActTwo, Machine.receiveActTwo, if_pos due, ← t.ledger.fst_receiveKeyAct .ee]
    rcases t.ledger.receiveKeyAct S .ee t.machine.symmetric t.machine.localEphemeral
      (KeyAct.ofOctets act) with ⟨received, temp, ledger⟩
    cases received <;> rfl
  · simp only [receiveActTwo, Machine.receiveActTwo, if_neg due]
    rfl

theorem forget_sendActThree (t : Traced) :
    forget (t.sendActThree S) = t.machine.sendActThree S := by
  by_cases due : t.machine.owes .initiator .actThree = true
  · simp only [sendActThree, Machine.sendActThree, if_pos due, Ledger.sealField, Ledger.mixKey]
    cases t.machine.remoteEphemeral with
    | none => rfl
    | some remote =>
      simp only
      cases t.machine.symmetric.sealField S t.machine.tempKey 1
        (t.machine.localStatic.publicKey S) with
      | none => rfl
      | some first =>
        obtain ⟨sealedKey, s₁⟩ := first
        simp only
        cases S.agree t.machine.localStatic.secret remote with
        | none => rfl
        | some shared =>
          simp only
          cases (s₁.mixKey S shared.bytes).1.sealField S (s₁.mixKey S shared.bytes).2 0
            (Octets.zero 0) <;> rfl
  · simp only [sendActThree, Machine.sendActThree, if_neg due]
    rfl

theorem forget_receiveActThree (t : Traced) (act : Octets staticActSize) :
    forget (t.receiveActThree S act) = t.machine.receiveActThree S act := by
  by_cases due : t.machine.owes .responder .actThree = true
  · simp only [receiveActThree, Machine.receiveActThree, if_pos due, Ledger.mixKey]
    split
    · rfl
    · cases t.machine.symmetric.openField S (n := 32) t.machine.tempKey 1
        (StaticAct.ofOctets act).sealedKey with
      | none => rfl
      | some first =>
        obtain ⟨remote, s₁⟩ := first
        simp only
        cases t.machine.localEphemeral with
        | none => rfl
        | some own =>
          simp only
          cases S.agree own remote with
          | none => rfl
          | some shared =>
            simp only
            cases (s₁.mixKey S shared.bytes).1.openField S (n := 0)
              (s₁.mixKey S shared.bytes).2 0 (StaticAct.ofOctets act).tag <;> rfl
  · simp only [receiveActThree, Machine.receiveActThree, if_neg due]
    rfl

theorem forget_perform (t : Traced) (op : Operation) :
    forget (t.perform S op) = t.machine.perform S op := by
  have hmap : ∀ {α : Type} {r : α × Traced} {r' : α × Machine} (f : α → Except HandshakeError Reply),
      forget r = r' → forget (f r.1, r.2) = (f r'.1, r'.2) := by
    rintro α r _ f rfl
    rfl
  cases op with
  | sendOne e => exact hmap _ (t.forget_sendActOne e)
  | receiveOne a => exact hmap _ (t.forget_receiveActOne a)
  | sendTwo e => exact hmap _ (t.forget_sendActTwo e)
  | receiveTwo a => exact hmap _ (t.forget_receiveActTwo a)
  | sendThree => exact hmap _ t.forget_sendActThree
  | receiveThree a => exact hmap _ (t.forget_receiveActThree a)

/-- A machine answers and goes on with a ledger just as it does without one. -/
theorem forget_performAll (t : Traced) (ops : List Operation) :
    forget (t.performAll S ops) = t.machine.performAll S ops := by
  induction ops generalizing t with
  | nil => rfl
  | cons op ops ih =>
    rw [Machine.performAll_cons, ← t.forget_perform op]
    exact congrArg (fun r : _ × Machine => ((t.perform S op).1 :: r.1, r.2)) (ih (t.perform S op).2)

end Traced

end Gatehouse
