import Gatehouse.Proofs.Handshake.Recovery

/-!
# An act is pinned by its key

A sealed text opens only if sealing its text gives just this sealed text, and the masked half of it
says which text that is (`SealingLaws`).  The tags of an act are therefore no choice of the sender:
an act that a machine accepts is the only one with its key field that the machine accepts
(`accepted_unique`).  For act three this goes through both of its fields, the second of which is
sealed under what the first one opens to.  The same chain says which act it is
(`accepts_iff`).
-/

namespace Gatehouse

/-! ## Sealing in one way only -/

/-- What pins a sealed text. -/
structure Suite.SealingLaws (S : Suite) : Prop where
  /-- What opens is just what sealing gives. -/
  openText_iff : ∀ {key counter known text c},
    S.openText key counter known c = some text ↔ S.sealText key counter known text = some c
  /-- A text is masked in the front of its sealed form, each in a way of its own. -/
  masked_inj : ∀ {key counter known text text' c c'}, S.sealText key counter known text = some c →
    S.sealText key counter known text' = some c' → c.take text.length = c'.take text'.length →
    text = text'

/-- ChaCha20-Poly1305 masks a text and puts the tag behind it. -/
theorem Suite.standard_sealingLaws : Suite.standard.SealingLaws where
  openText_iff := ChaChaPoly.openText_eq_some_iff
  masked_inj := by
    intro key counter known text text' c c' hseal hseal' hfront
    obtain ⟨-, rfl⟩ := ChaChaPoly.sealText_eq_some_iff.1 hseal
    obtain ⟨-, rfl⟩ := ChaChaPoly.sealText_eq_some_iff.1 hseal'
    have hmask := ChaCha20.length_mask key (ChaChaPoly.nonce counter) 1 text
    have hmask' := ChaCha20.length_mask key (ChaChaPoly.nonce counter) 1 text'
    rw [List.take_left' hmask, List.take_left' hmask'] at hfront
    have hback := congrArg (ChaCha20.mask key (ChaChaPoly.nonce counter) 1) hfront
    rwa [ChaCha20.mask_mask, ChaCha20.mask_mask] at hback

variable {S : Suite}

namespace Symmetric

variable {s t t' : Symmetric} {temp : Key} {counter : UInt64}

/-- A field opens exactly if it is a sealed text of what it opens to. -/
theorem openField_iff (laws : S.SealingLaws) {n : Nat} {c : Octets (n + 16)} {p : Octets n} :
    s.openField S temp counter c = some (p, t) ↔
      S.sealText temp counter s.hash.bytes p.bytes = some c.bytes ∧ t = s.mixHash S c.bytes := by
  constructor
  · intro h
    obtain ⟨hopen, ht⟩ := openText_of_openField S h
    exact ⟨laws.openText_iff.1 hopen, ht⟩
  · rintro ⟨hseal, rfl⟩
    rw [openField_eq_some_iff, decryptAndHash, laws.openText_iff.2 hseal, Option.map_some]

/-- The masked half of a field decides all of it, if it opens at all. -/
theorem sealed_unique (laws : S.SealingLaws) {known : Bytes} {n : Nat} {c c' : Octets (n + 16)}
    {p p' : Octets n} (hseal : S.sealText temp counter known p.bytes = some c.bytes)
    (hseal' : S.sealText temp counter known p'.bytes = some c'.bytes)
    (hfront : c.bytes.take n = c'.bytes.take n) : p = p' ∧ c = c' := by
  have htexts : p.bytes = p'.bytes := by
    refine laws.masked_inj hseal hseal' ?_
    rw [p.length_eq, p'.length_eq]
    exact hfront
  rw [htexts, hseal'] at hseal
  exact ⟨Octets.ext htexts, Octets.ext (Option.some.inj hseal).symm⟩

/-- The tag of an act: it seals the empty text under what a shared secret makes of the state. -/
def Stamps (S : Suite) (s : Symmetric) (shared : Key) (tag : Octets 16) : Prop :=
  S.sealText (s.mixKey S shared.bytes).2 0 (s.mixKey S shared.bytes).1.hash.bytes [] =
    some tag.bytes

/-- There is one tag for a state and a shared secret. -/
theorem Stamps.unique {shared : Key} {tag tag' : Octets 16} (h : Stamps S s shared tag)
    (h' : Stamps S s shared tag') : tag = tag' :=
  Octets.ext (Option.some.inj (h.symm.trans h'))

/-- The empty field opens exactly if it is the tag of the state. -/
theorem openField_stamp (laws : S.SealingLaws) {shared : Key} {tag : Octets 16} :
    (∃ p, (s.mixKey S shared.bytes).1.openField S (n := 0) (s.mixKey S shared.bytes).2 0 tag =
        some p) ↔ Stamps S s shared tag := by
  constructor
  · rintro ⟨⟨p, t⟩, h⟩
    have hempty : p.bytes = [] := List.eq_nil_of_length_eq_zero p.length_eq
    have hseal := ((openField_iff laws).1 h).1
    rwa [hempty] at hseal
  · intro h
    exact ⟨(Octets.zero 0, _), (openField_iff laws).2 ⟨h, rfl⟩⟩

end Symmetric

/-! ## Acts that fit -/

/-- A key act fits a state and a secret: its key agrees with the secret, and its tag is the one that
    the state then gives. -/
def KeyAct.Fits (S : Suite) (s : Symmetric) (own : Secret) (a : KeyAct) : Prop :=
  a.version = handshakeVersion ∧
    ∃ shared, S.agree own a.key = some shared ∧ (s.mixHash S a.key.bytes).Stamps S shared a.tag

/-- A static act fits: its first field is a sealed key, and with this key it goes on like a key
    act. -/
def StaticAct.Fits (S : Suite) (s : Symmetric) (temp : Key) (own : Secret) (a : StaticAct) : Prop :=
  a.version = handshakeVersion ∧
    ∃ key : PublicKey, S.sealText temp 1 s.hash.bytes key.bytes = some a.sealedKey.bytes ∧
      ∃ shared, S.agree own key = some shared ∧
        (s.mixHash S a.sealedKey.bytes).Stamps S shared a.tag

/-- There is one key act with a given key that fits. -/
theorem KeyAct.Fits.unique {s : Symmetric} {own : Secret} {a a' : KeyAct} (h : a.Fits S s own)
    (h' : a'.Fits S s own) (hkey : a.key = a'.key) : a = a' := by
  obtain ⟨hversion, shared, hagree, htag⟩ := h
  obtain ⟨hversion', shared', hagree', htag'⟩ := h'
  rw [← hkey] at hagree' htag'
  obtain rfl : shared = shared' := Option.some.inj (hagree.symm.trans hagree')
  exact KeyAct.ext (hversion.trans hversion'.symm) hkey (htag.unique htag')

/-- There is one static act with a given masked key that fits: the key fixes the rest of the first
    field, and the two together the second. -/
theorem StaticAct.Fits.unique (laws : S.SealingLaws) {s : Symmetric} {temp : Key} {own : Secret}
    {a a' : StaticAct} (h : a.Fits S s temp own) (h' : a'.Fits S s temp own)
    (hfront : a.sealedKey.bytes.take 32 = a'.sealedKey.bytes.take 32) : a = a' := by
  obtain ⟨hversion, key, hseal, shared, hagree, htag⟩ := h
  obtain ⟨hversion', key', hseal', shared', hagree', htag'⟩ := h'
  obtain ⟨rfl, hsealed⟩ := Symmetric.sealed_unique laws hseal hseal' hfront
  rw [← hsealed] at htag'
  obtain rfl : shared = shared' := Option.some.inj (hagree.symm.trans hagree')
  exact StaticAct.ext (hversion.trans hversion'.symm) hsealed (htag.unique htag')

namespace Machine

/-! ## Receipts -/

/-- The bytes of the key field of an act that is taken in: a key in the clear in acts one and two,
    the masked key in act three. -/
def Operation.keyField : Operation → Option (Octets 32)
  | .receiveOne a => some (a.slice 1 32 (Nat.le_add_right 33 16))
  | .receiveTwo a => some (a.slice 1 32 (Nat.le_add_right 33 16))
  | .receiveThree a => some (a.slice 1 32 (Nat.le_add_right 33 32))
  | .sendOne _ | .sendTwo _ | .sendThree => none

/-- The secret that the key in an act has to agree with. -/
def answeringSecret (m : Machine) : Act → Option Secret
  | .one => some m.localStatic.secret
  | .two | .three => m.localEphemeral

/-- The act that is taken in fits the machine and a secret. -/
def Operation.Fits (S : Suite) (m : Machine) (own : Secret) : Operation → Prop
  | .receiveOne a | .receiveTwo a => (KeyAct.ofOctets a).Fits S m.symmetric own
  | .receiveThree a => (StaticAct.ofOctets a).Fits S m.symmetric m.tempKey own
  | .sendOne _ | .sendTwo _ | .sendThree => False

section Receipts

variable {m : Machine}

/-- Who has a secret takes in just the key acts that fit. -/
theorem receiveKeyAct_iff (laws : S.SealingLaws) (s : Symmetric) (secret : Option Secret)
    (a : KeyAct) :
    (∃ key t temp, receiveKeyAct S s secret a = .received key t temp) ↔
      ∃ own, secret = some own ∧ a.Fits S s own := by
  constructor
  · rintro ⟨key, t, temp, h⟩
    unfold receiveKeyAct at h
    split at h
    · cases h
    rename_i hversion
    simp only at h
    split at h
    · cases h
    rename_i own
    split at h
    · cases h
    rename_i shared hagree
    split at h
    · cases h
    rename_i p t' hopen
    exact ⟨own, rfl, not_not.1 hversion, shared, hagree,
      (Symmetric.openField_stamp laws).1 ⟨_, hopen⟩⟩
  · rintro ⟨own, rfl, hversion, shared, hagree, htag⟩
    obtain ⟨⟨p, t⟩, hopen⟩ := (Symmetric.openField_stamp laws).2 htag
    refine ⟨a.key, t, ((s.mixHash S a.key.bytes).mixKey S shared.bytes).2, ?_⟩
    simp only [receiveKeyAct, hversion, ne_eq, not_true_eq_false, if_false, hagree]
    rw [hopen]

/-- The responder takes in act one. -/
theorem receiveActOne_iff (laws : S.SealingLaws) {a : Octets keyActSize}
    (howes : m.owes .responder .actOne = true) :
    (m.receiveActOne S a).1 = .ok () ↔
      (KeyAct.ofOctets a).Fits S m.symmetric m.localStatic.secret := by
  have hfits := receiveKeyAct_iff laws m.symmetric (some m.localStatic.secret) (KeyAct.ofOctets a)
  simp only [Option.some.injEq, exists_eq_left'] at hfits
  rw [← hfits, receiveActOne, if_pos howes]
  split <;> simp_all

/-- The initiator takes in act two. -/
theorem receiveActTwo_iff (laws : S.SealingLaws) {a : Octets keyActSize}
    (howes : m.owes .initiator .actTwo = true) :
    (m.receiveActTwo S a).1 = .ok () ↔
      ∃ own, m.localEphemeral = some own ∧ (KeyAct.ofOctets a).Fits S m.symmetric own := by
  rw [← receiveKeyAct_iff laws, receiveActTwo, if_pos howes]
  split <;> simp_all

/-- The responder takes in act three. -/
theorem receiveActThree_iff (laws : S.SealingLaws) {a : Octets staticActSize}
    (howes : m.owes .responder .actThree = true) :
    (m.receiveActThree S a).1 = .ok () ↔
      ∃ own, m.localEphemeral = some own ∧
        (StaticAct.ofOctets a).Fits S m.symmetric m.tempKey own := by
  constructor
  · intro h
    unfold receiveActThree at h
    rw [if_pos howes] at h
    simp only at h
    split at h
    · cases h
    rename_i hversion
    split at h
    · cases h
    rename_i key s₁ hfirst
    obtain ⟨hseal, rfl⟩ := (Symmetric.openField_iff laws).1 hfirst
    split at h
    · cases h
    rename_i own hown
    split at h
    · cases h
    rename_i shared hagree
    split at h
    · cases h
    rename_i p t hsecond
    exact ⟨own, hown, not_not.1 hversion, key, hseal, shared, hagree,
      (Symmetric.openField_stamp laws).1 ⟨_, hsecond⟩⟩
  · rintro ⟨own, hown, hversion, key, hseal, shared, hagree, htag⟩
    have hfirst := (Symmetric.openField_iff laws).2 ⟨hseal, rfl⟩
    obtain ⟨⟨p, t⟩, hsecond⟩ := (Symmetric.openField_stamp laws).2 htag
    simp only [receiveActThree, howes, if_true, hversion, ne_eq, not_true_eq_false, if_false,
      hfirst, hown, hagree]
    rw [hsecond]

/-- An act is answered with acceptance or an error. -/
theorem accepted_or_refused {op : Operation} (receipt : op.isReceipt = true) :
    (m.perform S op).1 = .ok .accepted ∨ ∃ error, (m.perform S op).1 = .error error := by
  have performed := perform_spec (S := S) m op
  revert performed
  generalize m.perform S op = answered
  obtain ⟨answer, m'⟩ := answered
  intro (performed : Performed S m op answer m')
  cases performed with
  | stray notDue => exact .inr ⟨_, rfl⟩
  | failed due error s temp => exact .inr ⟨error, rfl⟩
  | receivedOne | receivedTwo | receivedThree => exact .inl rfl
  | sentOne | sentTwo | sentThree => cases receipt

/-- The answer to a receipt is acceptance exactly if the act was taken in. -/
theorem map_accepted_iff {answer : Except HandshakeError Unit} :
    (answer.map fun _ => Reply.accepted) = .ok .accepted ↔ answer = .ok () := by
  cases answer <;> simp [Except.map]

/-- An act that is sent is not a receipt. -/
theorem map_act_ne_accepted {n : Nat} {answer : Except HandshakeError (Octets n)} :
    (answer.map fun a => Reply.act a.bytes) ≠ .ok .accepted := by
  cases answer <;> simp [Except.map]

/-- A machine accepts an act exactly if the act is due and fits. -/
theorem accepts_iff (laws : S.SealingLaws) {op : Operation} :
    (m.perform S op).1 = .ok .accepted ↔
      op.owner = (m.role, m.stage) ∧
        ∃ own, m.answeringSecret op.act = some own ∧ op.Fits S m own := by
  by_cases due : op.owner = (m.role, m.stage)
  · rw [and_iff_right due]
    cases op with
    | receiveOne a =>
      have hown : (∃ own, m.answeringSecret .one = some own ∧
            (KeyAct.ofOctets a).Fits S m.symmetric own) ↔
          (KeyAct.ofOctets a).Fits S m.symmetric m.localStatic.secret := by
        simp only [answeringSecret, Option.some.injEq, exists_eq_left']
      exact (map_accepted_iff.trans (receiveActOne_iff laws (owes_iff.2 due))).trans hown.symm
    | receiveTwo a => exact map_accepted_iff.trans (receiveActTwo_iff laws (owes_iff.2 due))
    | receiveThree a => exact map_accepted_iff.trans (receiveActThree_iff laws (owes_iff.2 due))
    | sendOne ephemeral | sendTwo ephemeral | sendThree =>
      refine iff_of_false map_act_ne_accepted ?_
      rintro ⟨own, -, hfits⟩
      exact hfits
  · rw [perform_of_not_owed S due]
    refine iff_of_false (fun h => ?_) (fun h => due h.1)
    cases h

/-- Whatever fits is an act that is taken in. -/
theorem Operation.Fits.isSome_keyField {own : Secret} {op : Operation} (fits : op.Fits S m own) :
    op.keyField.isSome = true := by
  cases op with
  | receiveOne | receiveTwo | receiveThree => rfl
  | sendOne | sendTwo | sendThree => cases fits

theorem Operation.isSome_keyField (op : Operation) : op.keyField.isSome = op.isReceipt := by
  cases op <;> rfl

/-- There is one act with a given key field that fits. -/
theorem Operation.Fits.unique (laws : S.SealingLaws) {own : Secret} {op op' : Operation}
    (fits : op.Fits S m own) (fits' : op'.Fits S m own) (hact : op'.act = op.act)
    (hfield : op'.keyField = op.keyField) : op' = op := by
  cases op with
  | receiveOne a =>
    cases op' with
    | receiveOne a' =>
      have hsame := KeyAct.Fits.unique fits' fits (Option.some.inj hfield)
      rw [← KeyAct.toOctets_ofOctets a, ← KeyAct.toOctets_ofOctets a', hsame]
    | receiveTwo | receiveThree => cases hact
    | sendOne | sendTwo | sendThree => cases fits'
  | receiveTwo a =>
    cases op' with
    | receiveTwo a' =>
      have hsame := KeyAct.Fits.unique fits' fits (Option.some.inj hfield)
      rw [← KeyAct.toOctets_ofOctets a, ← KeyAct.toOctets_ofOctets a', hsame]
    | receiveOne | receiveThree => cases hact
    | sendOne | sendTwo | sendThree => cases fits'
  | receiveThree a =>
    cases op' with
    | receiveThree a' =>
      have hfront := congrArg Octets.bytes (Option.some.inj hfield)
      have hfront' : (StaticAct.ofOctets a').sealedKey.bytes.take 32 =
          (StaticAct.ofOctets a).sealedKey.bytes.take 32 := by
        simpa [StaticAct.ofOctets, Octets.slice, List.take_take] using hfront
      have hsame := StaticAct.Fits.unique laws fits' fits hfront'
      rw [← StaticAct.toOctets_ofOctets a, ← StaticAct.toOctets_ofOctets a', hsame]
    | receiveOne | receiveTwo => cases hact
    | sendOne | sendTwo | sendThree => cases fits'
  | sendOne | sendTwo | sendThree => cases fits

/-- Two acts with one key field that a machine would accept are one act. -/
theorem accepted_unique (laws : S.SealingLaws) {op op' : Operation} (hact : op'.act = op.act)
    (hfield : op'.keyField = op.keyField) (accepted : (m.perform S op).1 = .ok .accepted)
    (accepted' : (m.perform S op').1 = .ok .accepted) : op' = op := by
  obtain ⟨-, own, hown, fits⟩ := (accepts_iff laws).1 accepted
  obtain ⟨-, own', hown', fits'⟩ := (accepts_iff laws).1 accepted'
  rw [hact, hown] at hown'
  obtain rfl : own = own' := Option.some.inj hown'
  exact fits.unique laws fits' hact hfield

/-- A machine that expects an act has a secret to answer it with. -/
theorem Coherent.exists_answeringSecret {role : Role} {own : Identity} {remote : PublicKey}
    (coherent : Coherent role own remote m) (op : Operation) (receipt : op.isReceipt = true)
    (due : op.owner = (m.role, m.stage)) : ∃ secret, m.answeringSecret op.act = some secret := by
  have hdraw := coherent.localEphemeral_eq
  cases op with
  | receiveOne act => exact ⟨_, rfl⟩
  | receiveTwo act | receiveThree act =>
    obtain ⟨hrole, hstage⟩ := Prod.mk.inj due
    rw [← hrole, ← hstage] at hdraw
    exact Option.isSome_iff_exists.1 hdraw
  | sendOne | sendTwo | sendThree => cases receipt

end Receipts

/-- **Acts are pinned by their key.**  Of the acts with one key field, any machine in any state
    accepts at most one; every other one, whatever differs in it, is refused.  And a machine to
    which an act is due, after any operations before, accepts the act exactly if it fits the secret
    that answers it: its version is spoken here, the key it carries contributes, and each of its
    tags is the one that sealing gives at its place. -/
theorem acts_pinned :
    (∀ (m : Machine) (op op' : Operation), op'.act = op.act → op'.keyField = op.keyField →
      (m.perform .standard op).1 = .ok .accepted →
        ((m.perform .standard op').1 = .ok .accepted → op' = op) ∧
        (op' ≠ op → ∃ error, (m.perform .standard op').1 = .error error)) ∧
    ∀ (role : Role) (own : Identity) (remote : PublicKey) (ops : List Operation) (op : Operation),
      let m := ((opening .standard own remote role).performAll .standard ops).2
      op.isReceipt = true → op.owner = (m.role, m.stage) →
        ∃ secret, m.answeringSecret op.act = some secret ∧
          ((m.perform .standard op).1 = .ok .accepted ↔ op.Fits .standard m secret) := by
  have laws := Suite.standard_sealingLaws
  constructor
  · intro m op op' hact hfield accepted
    have unique := accepted_unique laws hact hfield accepted
    have receipt : op'.isReceipt = true := by
      obtain ⟨-, own, -, fits⟩ := (accepts_iff laws).1 accepted
      rw [← op'.isSome_keyField, hfield]
      exact fits.isSome_keyField
    refine ⟨unique, fun hne => ?_⟩
    exact (accepted_or_refused receipt).resolve_left fun accepted' => hne (unique accepted')
  · intro role own remote ops op m receipt due
    have coherent : Coherent role own remote m := (coherent_opening role own remote).performAll ops
    obtain ⟨secret, hsecret⟩ := coherent.exists_answeringSecret op receipt due
    refine ⟨secret, hsecret, ?_⟩
    rw [accepts_iff laws, and_iff_right due]
    simp only [hsecret, Option.some.injEq, exists_eq_left']

/-- A responder accepts this act one, which therefore fits; the same act with another tag is
    refused. -/
theorem acts_pinned_sample :
    let one : KeyAct :=
      { version := 0
        key := ⟨[93, 254, 221, 59, 107, 212, 127, 111, 162, 142, 225, 93, 150, 157, 91, 176, 234,
          83, 119, 77, 72, 139, 218, 249, 223, 28, 110, 1, 36, 179, 239, 34], rfl⟩
        tag := ⟨[147, 23, 8, 184, 214, 47, 201, 214, 209, 221, 84, 83, 85, 30, 239, 32], rfl⟩ }
    let m := responder .standard ⟨Octets.replicate 32 2⟩
    let forged := { one with tag := Octets.zero 16 }
    (m.perform .standard (.receiveOne one.toOctets)).1 = .ok .accepted ∧
      one.Fits .standard m.symmetric (Octets.replicate 32 2) ∧
      ∃ error, (m.perform .standard (.receiveOne forged.toOctets)).1 = .error error := by
  intro one m forged
  have accepted : (m.perform .standard (.receiveOne one.toOctets)).1 = .ok .accepted := by
    decide +kernel
  obtain ⟨pinned, fitting⟩ := acts_pinned
  refine ⟨accepted, ?_, ?_⟩
  · obtain ⟨_, ⟨rfl⟩, hfits⟩ := fitting .responder ⟨Octets.replicate 32 2⟩ (Octets.zero 32) []
      (.receiveOne one.toOctets) rfl rfl
    have fits := hfits.1 accepted
    exact KeyAct.ofOctets_toOctets one ▸ fits
  · have hforged : Operation.receiveOne forged.toOctets ≠ .receiveOne one.toOctets := by decide
    exact (pinned m (.receiveOne one.toOctets) (.receiveOne forged.toOctets) rfl rfl
      accepted).2 hforged

end Machine

end Gatehouse
