import Gatehouse.Handshake.Machine

/-!
# Acts in buffers

An act that is sent is put together in a buffer of zeros, field by field, and an act that is taken
in is cut by offsets.  In both, bytes are copied from one place to another, which goes wrong where
there are too few of them or too many.  `Buffered` spells the operations of a machine out down to
these copies, with nothing for an answer where one of them goes wrong; none ever does
(`Buffered.perform_eq`).
-/

namespace Gatehouse

/-! ## Copying -/

namespace Bytes

/-- The bytes from `start` up to `stop`, if there are so many. -/
def range? (b : Bytes) (start stop : Nat) : Option Bytes :=
  if start ≤ stop ∧ stop ≤ b.length then some ((b.take stop).drop start) else none

/-- Other bytes in the place of those from `start` up to `stop`, if there are so many, and just as
    many others. -/
def overwrite? (b : Bytes) (start stop : Nat) (source : Bytes) : Option Bytes :=
  if start ≤ stop ∧ stop ≤ b.length ∧ source.length = stop - start then
    some (b.take start ++ source ++ b.drop stop)
  else none

/-- A buffer of zeros. -/
def zeros (size : Nat) : Bytes := List.replicate size 0

/-- A buffer is written from its front to its back, as long as there is room. -/
theorem overwrite?_front (done source : Bytes) (room start stop : Nat)
    (starts : done.length = start) (stops : source.length = stop - start)
    (ordered : start ≤ stop) (fits : stop - start ≤ room) :
    (done ++ zeros room).overwrite? start stop source
      = some (done ++ source ++ zeros (room - (stop - start))) := by
  have long : stop ≤ (done ++ zeros room).length := by
    rw [List.length_append, zeros, List.length_replicate]
    omega
  have dropped : (done ++ zeros room).drop stop = zeros (room - (stop - start)) := by
    rw [List.drop_append, List.drop_eq_nil_of_le (starts ▸ ordered), List.nil_append, starts,
      zeros, List.drop_replicate]
    rfl
  rw [overwrite?, if_pos ⟨ordered, long, stops⟩, List.take_left' starts, dropped]

/-- Bytes are there to be read as long as there are enough of them. -/
theorem range?_slice {n : Nat} (a : Octets n) (start stop count : Nat)
    (stops : start + count = stop) (fits : start + count ≤ n) :
    a.bytes.range? start stop = some (a.slice start count fits).bytes := by
  have long : stop ≤ a.bytes.length := by
    rw [a.length_eq]
    omega
  rw [range?, if_pos ⟨by omega, long⟩, List.drop_take, ← stops, Nat.add_sub_cancel_left]
  rfl

end Bytes

namespace Symmetric

variable {S : Suite} {n : Nat}

/-- The sealed text of a field is as long as the field and a tag. -/
theorem encryptAndHash_eq (s : Symmetric) (key : Key) (counter : UInt64) (field : Octets n) :
    s.encryptAndHash S key counter field.bytes
      = (s.sealField S key counter field).map fun r => (r.1.bytes, r.2) := by
  cases made : s.sealField S key counter field with
  | none => rw [encryptAndHash, (sealField_eq_none_iff S).1 made]; rfl
  | some r => exact (sealField_eq_some_iff S).1 made

/-- A field is as long as what it is opened from, less a tag. -/
theorem decryptAndHash_eq (s : Symmetric) (key : Key) (counter : UInt64) (field : Octets (n + 16)) :
    s.decryptAndHash S key counter field.bytes
      = (s.openField S key counter field).map fun r => (r.1.bytes, r.2) := by
  cases made : s.openField S key counter field with
  | none => rw [decryptAndHash, (openField_eq_none_iff S).1 made]; rfl
  | some r => exact (openField_eq_some_iff S).1 made

end Symmetric

namespace Machine.Buffered

variable (S : Suite)

/-! ## Cutting and putting together -/

/-- The key at the front of some bytes. -/
def key? (b : Bytes) : Option PublicKey := (b.range? 0 32).bind (Octets.ofBytes? 32)

/-- A key act, put together in a buffer. -/
def keyAct? (key tag : Bytes) : Option (Octets keyActSize) := do
  let act ← (Bytes.zeros 49).overwrite? 0 1 [handshakeVersion]
  let act ← act.overwrite? 1 33 key
  let act ← act.overwrite? 33 49 tag
  Octets.ofBytes? 49 act

/-- A static act, put together in a buffer. -/
def staticAct? (sealedKey tag : Bytes) : Option (Octets staticActSize) := do
  let act ← (Bytes.zeros 65).overwrite? 0 1 [handshakeVersion]
  let act ← act.overwrite? 1 49 sealedKey
  let act ← act.overwrite? 49 65 tag
  Octets.ofBytes? 65 act

theorem key?_bytes (key : PublicKey) : key? key.bytes = some key := by
  have whole : key.slice 0 32 (Nat.le_refl 32) = key := by
    ext1
    exact List.take_of_length_le (Nat.le_of_eq key.length_eq)
  rw [key?, Bytes.range?_slice key 0 32 32 rfl (Nat.le_refl 32), whole]
  exact Octets.ofBytes?_bytes key

theorem keyAct?_eq (key : PublicKey) (tag : Octets 16) :
    keyAct? key.bytes tag.bytes = some (KeyAct.mk handshakeVersion key tag).toOctets := by
  have first : (Bytes.zeros 49).overwrite? 0 1 [handshakeVersion]
      = some ([handshakeVersion] ++ Bytes.zeros 48) :=
    Bytes.overwrite?_front [] [handshakeVersion] 49 0 1 rfl rfl (by decide) (by decide)
  have second := Bytes.overwrite?_front [handshakeVersion] key.bytes 48 1 33 rfl
    key.length_eq (by decide) (by decide)
  have third := Bytes.overwrite?_front ([handshakeVersion] ++ key.bytes) tag.bytes 16 33 49
    (congrArg (· + 1) key.length_eq) tag.length_eq (by decide) (by decide)
  simp only [keyAct?, first, second, third, Option.bind_eq_bind, Option.bind_some]
  refine Octets.ofBytes?_eq_some_iff.2 ?_
  exact List.append_nil _

theorem staticAct?_eq (sealedKey : Octets 48) (tag : Octets 16) :
    staticAct? sealedKey.bytes tag.bytes
      = some (StaticAct.mk handshakeVersion sealedKey tag).toOctets := by
  have first : (Bytes.zeros 65).overwrite? 0 1 [handshakeVersion]
      = some ([handshakeVersion] ++ Bytes.zeros 64) :=
    Bytes.overwrite?_front [] [handshakeVersion] 65 0 1 rfl rfl (by decide) (by decide)
  have second := Bytes.overwrite?_front [handshakeVersion] sealedKey.bytes 64 1 49 rfl
    sealedKey.length_eq (by decide) (by decide)
  have third := Bytes.overwrite?_front ([handshakeVersion] ++ sealedKey.bytes) tag.bytes 16 49 65
    (congrArg (· + 1) sealedKey.length_eq) tag.length_eq (by decide) (by decide)
  simp only [staticAct?, first, second, third, Option.bind_eq_bind, Option.bind_some]
  refine Octets.ofBytes?_eq_some_iff.2 ?_
  exact List.append_nil _

/-! ## Key acts -/

/-- Put together a key act. -/
def sendKeyAct (s : Symmetric) (ephemeral : Secret) (remote : PublicKey) : Option KeyActSent :=
  let key := S.publicKey ephemeral
  let s₁ := s.mixHash S key.bytes
  match S.agree ephemeral remote with
  | none => some (.lowOrder s₁)
  | some shared =>
    let (s₂, temp) := s₁.mixKey S shared.bytes
    match s₂.encryptAndHash S temp 0 [] with
    | none => some (.unsealed s₂ temp)
    | some (tag, s₃) => (keyAct? key.bytes tag).map (.sent · s₃ temp)

/-- Take in a key act. -/
def receiveKeyAct (s : Symmetric) (secret : Option Secret) (act : Octets keyActSize) :
    Option KeyActReceived := do
  let version ← act.bytes[0]?
  if version ≠ handshakeVersion then some (.unknownVersion version)
  else
    let key ← key? (← act.bytes.range? 1 33)
    let s₁ := s.mixHash S key.bytes
    match secret with
    | none => some (.noSecret s₁)
    | some own =>
      match S.agree own key with
      | none => some (.lowOrder s₁)
      | some shared =>
        let (s₂, temp) := s₁.mixKey S shared.bytes
        let tag ← act.bytes.range? 33 49
        match s₂.decryptAndHash S temp 0 tag with
        | none => some (.badTag s₂ temp)
        | some (_, s₃) => some (.received key s₃ temp)

theorem sendKeyAct_eq (s : Symmetric) (ephemeral : Secret) (remote : PublicKey) :
    sendKeyAct S s ephemeral remote = some (Machine.sendKeyAct S s ephemeral remote) := by
  unfold sendKeyAct Machine.sendKeyAct
  simp only
  cases S.agree ephemeral remote with
  | none => rfl
  | some shared =>
    simp only
    have made := Symmetric.encryptAndHash_eq (S := S)
      ((s.mixHash S (S.publicKey ephemeral).bytes).mixKey S shared.bytes).1
      ((s.mixHash S (S.publicKey ephemeral).bytes).mixKey S shared.bytes).2 0 (Octets.zero 0)
    rw [show (Octets.zero 0).bytes = [] from rfl] at made
    rw [made]
    cases Symmetric.sealField S _ _ 0 (Octets.zero 0) with
    | none => rfl
    | some r => exact congrArg (Option.map _) (keyAct?_eq _ r.1)

theorem receiveKeyAct_eq (s : Symmetric) (secret : Option Secret) (act : Octets keyActSize) :
    receiveKeyAct S s secret act
      = some (Machine.receiveKeyAct S s secret (KeyAct.ofOctets act)) := by
  have version : act.bytes[0]? = some (KeyAct.ofOctets act).version := by
    obtain ⟨_ | ⟨v, rest⟩, length⟩ := act
    · cases length
    · rfl
  have key := Bytes.range?_slice act 1 33 32 rfl (by decide)
  have tag := Bytes.range?_slice act 33 49 16 rfl (by decide)
  unfold receiveKeyAct Machine.receiveKeyAct
  simp only [version, key, tag, Option.bind_eq_bind, Option.bind_some, key?_bytes]
  split
  · rfl
  cases secret with
  | none => rfl
  | some own =>
    simp only [KeyAct.ofOctets]
    cases S.agree own (act.slice 1 32 (by decide)) with
    | none => rfl
    | some shared =>
      simp only [Symmetric.decryptAndHash_eq (n := 0)]
      cases Symmetric.openField S (n := 0) _ _ 0 _ with
      | none => rfl
      | some r => rfl

/-! ## The six operations -/

/-- The initiator sends act one. -/
def sendActOne (m : Machine) (ephemeral : Secret) :
    Option (Except HandshakeError (Octets keyActSize) × Machine) :=
  if m.owes .initiator .actOne then
    match m.remoteStatic with
    | none => some (.error (.invalidKey .one), m)
    | some remote =>
      (sendKeyAct S m.symmetric ephemeral remote).map fun
        | .lowOrder s => (.error (.invalidKey .one), { m with symmetric := s })
        | .unsealed s _ => (.error (.cipher .one), { m with symmetric := s })
        | .sent act s _ =>
          (.ok act, { m with symmetric := s, localEphemeral := some ephemeral, stage := .actTwo })
  else some (.error (.outOfOrder .one m.role), m)

/-- The responder takes in act one. -/
def receiveActOne (m : Machine) (act : Octets keyActSize) :
    Option (Except HandshakeError Unit × Machine) :=
  if m.owes .responder .actOne then
    (receiveKeyAct S m.symmetric (some m.localStatic.secret) act).map fun
      | .unknownVersion version => (.error (.unknownVersion .one version), m)
      | .noSecret s => (.error (.outOfOrder .one m.role), { m with symmetric := s })
      | .lowOrder s => (.error (.invalidKey .one), { m with symmetric := s })
      | .badTag s _ => (.error (.badTag .one), { m with symmetric := s })
      | .received key s _ =>
        (.ok (), { m with symmetric := s, remoteEphemeral := some key, stage := .actTwo })
  else some (.error (.outOfOrder .one m.role), m)

/-- The responder sends act two. -/
def sendActTwo (m : Machine) (ephemeral : Secret) :
    Option (Except HandshakeError (Octets keyActSize) × Machine) :=
  if m.owes .responder .actTwo then
    match m.remoteEphemeral with
    | none => some (.error (.invalidKey .two), m)
    | some remote =>
      (sendKeyAct S m.symmetric ephemeral remote).map fun
        | .lowOrder s => (.error (.invalidKey .two), { m with symmetric := s })
        | .unsealed s temp => (.error (.cipher .two), { m with symmetric := s, tempKey := temp })
        | .sent act s temp =>
          (.ok act, { m with symmetric := s, tempKey := temp, localEphemeral := some ephemeral,
                             stage := .actThree })
  else some (.error (.outOfOrder .two m.role), m)

/-- The initiator takes in act two. -/
def receiveActTwo (m : Machine) (act : Octets keyActSize) :
    Option (Except HandshakeError Unit × Machine) :=
  if m.owes .initiator .actTwo then
    (receiveKeyAct S m.symmetric m.localEphemeral act).map fun
      | .unknownVersion version => (.error (.unknownVersion .two version), m)
      | .noSecret s => (.error (.outOfOrder .two m.role), { m with symmetric := s })
      | .lowOrder s => (.error (.invalidKey .two), { m with symmetric := s })
      | .badTag s temp => (.error (.badTag .two), { m with symmetric := s, tempKey := temp })
      | .received key s temp =>
        (.ok (), { m with symmetric := s, tempKey := temp, remoteEphemeral := some key,
                          stage := .actThree })
  else some (.error (.outOfOrder .two m.role), m)

/-- The initiator sends act three. -/
def sendActThree (m : Machine) : Option (Except HandshakeError (Octets staticActSize) × Machine) :=
  if m.owes .initiator .actThree then
    match m.remoteEphemeral with
    | none => some (.error (.invalidKey .three), m)
    | some remote =>
      match m.symmetric.encryptAndHash S m.tempKey 1 (m.localStatic.publicKey S).bytes with
      | none => some (.error (.cipher .three), m)
      | some (sealedKey, s₁) =>
        match S.agree m.localStatic.secret remote with
        | none => some (.error (.invalidKey .three), { m with symmetric := s₁ })
        | some shared =>
          let (s₂, temp) := s₁.mixKey S shared.bytes
          match s₂.encryptAndHash S temp 0 [] with
          | none => some (.error (.cipher .three), { m with symmetric := s₂ })
          | some (tag, s₃) =>
            let (out, back) := s₃.split S
            (staticAct? sealedKey tag).map fun act => (.ok act, m.finish s₃ ⟨out, back⟩)
  else some (.error (.outOfOrder .three m.role), m)

/-- The responder takes in act three. -/
def receiveActThree (m : Machine) (act : Octets staticActSize) :
    Option (Except HandshakeError Unit × Machine) :=
  if m.owes .responder .actThree then do
    let version ← act.bytes[0]?
    if version ≠ handshakeVersion then some (.error (.unknownVersion .three version), m)
    else
      let sealedKey ← act.bytes.range? 1 49
      match m.symmetric.decryptAndHash S m.tempKey 1 sealedKey with
      | none => some (.error (.badTag .three), m)
      | some (static, s₁) =>
        let remote ← key? static
        match m.localEphemeral with
        | none => some (.error (.outOfOrder .three m.role), { m with symmetric := s₁ })
        | some own =>
          match S.agree own remote with
          | none => some (.error (.invalidKey .three), { m with symmetric := s₁ })
          | some shared =>
            let (s₂, temp) := s₁.mixKey S shared.bytes
            let tag ← act.bytes.range? 49 65
            match s₂.decryptAndHash S temp 0 tag with
            | none => some (.error (.badTag .three), { m with symmetric := s₂ })
            | some (_, s₃) =>
              let (back, out) := s₃.split S
              some (.ok (), { m with remoteStatic := some remote }.finish s₃ ⟨out, back⟩)
  else some (.error (.outOfOrder .three m.role), m)

/-- The answer to an operation, and the machine afterwards. -/
def perform (m : Machine) : Operation → Option (Except HandshakeError Reply × Machine)
  | .sendOne e => (sendActOne S m e).map fun (r, m') => (r.map fun a => .act a.bytes, m')
  | .receiveOne a => (receiveActOne S m a).map fun (r, m') => (r.map fun _ => .accepted, m')
  | .sendTwo e => (sendActTwo S m e).map fun (r, m') => (r.map fun a => .act a.bytes, m')
  | .receiveTwo a => (receiveActTwo S m a).map fun (r, m') => (r.map fun _ => .accepted, m')
  | .sendThree => (sendActThree S m).map fun (r, m') => (r.map fun a => .act a.bytes, m')
  | .receiveThree a => (receiveActThree S m a).map fun (r, m') => (r.map fun _ => .accepted, m')

variable {S} {m : Machine}

theorem sendActOne_eq (ephemeral : Secret) :
    sendActOne S m ephemeral = some (m.sendActOne S ephemeral) := by
  unfold sendActOne Machine.sendActOne
  split
  · cases m.remoteStatic with
    | none => rfl
    | some remote =>
      dsimp only
      rw [sendKeyAct_eq]
      cases Machine.sendKeyAct S m.symmetric ephemeral remote <;> rfl
  · rfl

theorem receiveActOne_eq (act : Octets keyActSize) :
    receiveActOne S m act = some (m.receiveActOne S act) := by
  unfold receiveActOne Machine.receiveActOne
  split
  · rw [receiveKeyAct_eq]
    cases Machine.receiveKeyAct S m.symmetric _ (KeyAct.ofOctets act) <;> rfl
  · rfl

theorem sendActTwo_eq (ephemeral : Secret) :
    sendActTwo S m ephemeral = some (m.sendActTwo S ephemeral) := by
  unfold sendActTwo Machine.sendActTwo
  split
  · cases m.remoteEphemeral with
    | none => rfl
    | some remote =>
      dsimp only
      rw [sendKeyAct_eq]
      cases Machine.sendKeyAct S m.symmetric ephemeral remote <;> rfl
  · rfl

theorem receiveActTwo_eq (act : Octets keyActSize) :
    receiveActTwo S m act = some (m.receiveActTwo S act) := by
  unfold receiveActTwo Machine.receiveActTwo
  split
  · rw [receiveKeyAct_eq]
    cases Machine.receiveKeyAct S m.symmetric _ (KeyAct.ofOctets act) <;> rfl
  · rfl

theorem sendActThree_eq : sendActThree S m = some (m.sendActThree S) := by
  unfold sendActThree Machine.sendActThree
  split
  · cases m.remoteEphemeral with
    | none => rfl
    | some remote =>
      simp only [Symmetric.encryptAndHash_eq]
      cases Symmetric.sealField S m.symmetric m.tempKey 1 _ with
      | none => rfl
      | some first =>
        simp only [Option.map_some]
        cases S.agree m.localStatic.secret remote with
        | none => rfl
        | some shared =>
          simp only
          have made := Symmetric.encryptAndHash_eq (S := S) (first.2.mixKey S shared.bytes).1
            (first.2.mixKey S shared.bytes).2 0 (Octets.zero 0)
          rw [show (Octets.zero 0).bytes = [] from rfl] at made
          rw [made]
          cases Symmetric.sealField S _ _ 0 (Octets.zero 0) with
          | none => rfl
          | some second => exact congrArg (Option.map _) (staticAct?_eq first.1 second.1)
  · rfl

theorem receiveActThree_eq (act : Octets staticActSize) :
    receiveActThree S m act = some (m.receiveActThree S act) := by
  have version : act.bytes[0]? = some (StaticAct.ofOctets act).version := by
    obtain ⟨_ | ⟨v, rest⟩, length⟩ := act
    · cases length
    · rfl
  have sealedKey := Bytes.range?_slice act 1 49 48 rfl (by decide)
  have tag := Bytes.range?_slice act 49 65 16 rfl (by decide)
  unfold receiveActThree Machine.receiveActThree
  simp only [version, sealedKey, tag, Option.bind_eq_bind, Option.bind_some]
  split
  · split
    · rfl
    simp only [Symmetric.decryptAndHash_eq (n := 32), Symmetric.decryptAndHash_eq (n := 0),
      StaticAct.ofOctets]
    cases Symmetric.openField S (n := 32) m.symmetric m.tempKey 1 _ with
    | none => rfl
    | some first =>
      simp only [Option.map_some, key?_bytes, Option.bind_some]
      cases m.localEphemeral with
      | none => rfl
      | some own =>
        simp only
        cases S.agree own first.1 with
        | none => rfl
        | some shared =>
          simp only
          cases Symmetric.openField S (n := 0) _ _ 0 _ with
          | none => rfl
          | some second => rfl
  · rfl

/-- No copy of any operation goes wrong, whatever the machine and the bytes. -/
theorem perform_eq (m : Machine) (op : Operation) : perform S m op = some (m.perform S op) := by
  cases op with
  | sendOne e => rw [perform, sendActOne_eq]; rfl
  | receiveOne a => rw [perform, receiveActOne_eq]; rfl
  | sendTwo e => rw [perform, sendActTwo_eq]; rfl
  | receiveTwo a => rw [perform, receiveActTwo_eq]; rfl
  | sendThree => rw [perform, sendActThree_eq]; rfl
  | receiveThree a => rw [perform, receiveActThree_eq]; rfl

end Machine.Buffered

end Gatehouse
