import Gatehouse.Proofs.Handshake.Ledger
import Gatehouse.Proofs.Noise.Laws

/-!
# No nonce is used twice

Along every run of a machine, no two texts are sealed under the same derived key with the same
counter, and the two sides of a handshake seal nothing under the same derivation with the same
counter either (`nonces_unique`).

All texts but one are sealed right after the derivation of their key.  The initiator's static key
goes under the key that is left from act two.  That the acts cannot fail behind it, so that it is
sealed once only, rests on what was checked before: the other side's drawn key has contributed at
act two, with another secret (`Ready`).
-/

namespace Gatehouse

open Noise (Token)

variable {S : Suite} {role : Role}

/-- What a role seals: the shared secret that the key comes from, and the counter. -/
def sealingsOf : Role → List (Token × UInt64)
  | .initiator => [(.es, 0), (.ee, 1), (.se, 0)]
  | .responder => [(.ee, 0)]

namespace Ledger

variable {g : Ledger} {d : Derivation} {token : Token} {s : Symmetric} {input : Bytes}

/-! ## Ledgers -/

/-- Nothing has been sealed under the key of this derivation with this counter. -/
def Unused (g : Ledger) (d : Derivation) (counter : UInt64) : Prop :=
  (some d.number, counter) ∉ g.sealings.map Sealing.place

/-- A ledger as it ought to be. -/
structure Sound (S : Suite) (role : Role) (g : Ledger) : Prop where
  /-- Derivations are numbered one after another. -/
  numbers : g.derivations.map Derivation.number = (List.range g.derivations.length).reverse
  /-- Whatever is sealed is sealed under a derived key, and is the role's to seal. -/
  origins : ∀ x ∈ g.sealings, ∃ d ∈ g.derivations,
    x.key = d.traced S ∧ (d.token, x.counter) ∈ sealingsOf role
  distinct : (g.sealings.map Sealing.place).Nodup

theorem sound_start : Sound S role {} where
  numbers := rfl
  origins := fun _ h => absurd h List.not_mem_nil
  distinct := List.nodup_nil

theorem Sound.number_lt (sound : g.Sound S role) (entered : d ∈ g.derivations) :
    d.number < g.derivations.length := by
  have hmem : d.number ∈ g.derivations.map Derivation.number := List.mem_map_of_mem entered
  rw [sound.numbers, List.mem_reverse, List.mem_range] at hmem
  exact hmem

theorem mixKey_eq (g : Ledger) (token : Token) (s : Symmetric) (input : Bytes) :
    g.mixKey S token s input =
      ((s.mixKey S input).1, (g.upcoming token s input).traced S,
        g.enterDerivation (g.upcoming token s input)) :=
  rfl

theorem Sound.enterDerivation (sound : g.Sound S role) (token : Token) (s : Symmetric)
    (input : Bytes) : (g.enterDerivation (g.upcoming token s input)).Sound S role where
  numbers := by
    show g.derivations.length :: g.derivations.map Derivation.number =
      (List.range (g.derivations.length + 1)).reverse
    rw [sound.numbers, List.range_succ, List.reverse_append]
    rfl
  origins := by
    intro x hx
    obtain ⟨d, entered, hrest⟩ := sound.origins x hx
    exact ⟨d, List.mem_cons_of_mem _ entered, hrest⟩
  distinct := sound.distinct

/-- Nothing has been sealed yet under a key that was just derived. -/
theorem Sound.unused_upcoming (sound : g.Sound S role) (token : Token) (s : Symmetric)
    (input : Bytes) (counter : UInt64) :
    (g.enterDerivation (g.upcoming token s input)).Unused (g.upcoming token s input) counter := by
  intro hmem
  obtain ⟨x, hx, hplace⟩ := List.mem_map.1 hmem
  obtain ⟨d, entered, hkey, _⟩ := sound.origins x hx
  have hnumber : d.number = g.derivations.length := by
    have horigin : x.key.origin.map Derivation.number = some g.derivations.length :=
      congrArg (·.1) hplace
    rw [hkey] at horigin
    exact Option.some.inj horigin
  have := sound.number_lt entered
  omega

theorem Sound.enterSealing (sound : g.Sound S role) {counter : UInt64} (entered : d ∈ g.derivations)
    (unused : g.Unused d counter) (own : (d.token, counter) ∈ sealingsOf role) :
    (g.enterSealing (d.traced S) counter).Sound S role where
  numbers := sound.numbers
  origins := by
    intro x hx
    rcases List.mem_cons.1 hx with rfl | hold
    · exact ⟨d, entered, rfl, own⟩
    · exact sound.origins x hold
  distinct := List.nodup_cons.2 ⟨unused, sound.distinct⟩

/-- What is sealed right after the derivation of its key is in order. -/
theorem Sound.sealUpcoming (sound : g.Sound S role) (token : Token) (s : Symmetric) (input : Bytes)
    (own : (token, 0) ∈ sealingsOf role) :
    ((g.enterDerivation (g.upcoming token s input)).enterSealing
      ((g.upcoming token s input).traced S) 0).Sound S role :=
  (sound.enterDerivation token s input).enterSealing List.mem_cons_self
    (sound.unused_upcoming token s input 0) own

theorem Sound.sendKeyAct (sound : g.Sound S role) (own : (token, 0) ∈ sealingsOf role)
    (s : Symmetric) (ephemeral : Secret) (remote : PublicKey) :
    (g.sendKeyAct S token s ephemeral remote).2.2.Sound S role := by
  unfold Ledger.sendKeyAct
  cases S.agree ephemeral remote with
  | none => exact sound
  | some shared =>
    have next := sound.sealUpcoming token (s.mixHash S (S.publicKey ephemeral).bytes) shared.bytes own
    simp only [mixKey_eq, sealField]
    cases Symmetric.sealField S _ _ 0 (Octets.zero 0) <;> exact next

theorem Sound.receiveKeyAct (sound : g.Sound S role) (token : Token) (s : Symmetric)
    (secret : Option Secret) (act : KeyAct) :
    (g.receiveKeyAct S token s secret act).2.2.Sound S role := by
  unfold Ledger.receiveKeyAct
  split
  · exact sound
  · cases secret with
    | none => exact sound
    | some own =>
      simp only
      cases S.agree own act.key with
      | none => exact sound
      | some shared =>
        have next := sound.enterDerivation token (s.mixHash S act.key.bytes) shared.bytes
        simp only [mixKey_eq]
        cases Symmetric.openField S _ _ 0 act.tag <;> exact next

/-- What a key act leaves that was taken in: a fresh key, and a public key that contributes. -/
theorem Sound.received (sound : g.Sound S role) {secret : Option Secret} {act : KeyAct}
    {key : PublicKey} {s' : Symmetric} {temp : Key} {origin : Option Derivation} {g' : Ledger}
    (h : g.receiveKeyAct S token s secret act = (.received key s' temp, origin, g')) :
    ∃ d ∈ g'.derivations, origin = some d ∧ temp = d.key S ∧ d.token = token ∧
      (∀ counter, g'.Unused d counter) ∧ ∃ own, (S.agree own key).isSome = true := by
  unfold Ledger.receiveKeyAct at h
  split at h
  · cases h
  split at h
  · cases h
  rename_i own
  split at h
  · cases h
  rename_i shared hshared
  simp only [mixKey_eq] at h
  split at h
  · cases h
  · cases h
    refine ⟨_, List.mem_cons_self, rfl, rfl, rfl, sound.unused_upcoming _ _ _, own, ?_⟩
    rw [hshared]
    rfl

/-- What was sealed is the role's to seal. -/
theorem Sound.slot_mem (sound : g.Sound S role) {x : Sealing} (hx : x ∈ g.sealings) :
    ∃ p ∈ sealingsOf role, x.slot = (some p.1, p.2) := by
  obtain ⟨d, _, hkey, own⟩ := sound.origins x hx
  refine ⟨(d.token, x.counter), own, ?_⟩
  rw [Sealing.slot, hkey]
  rfl

end Ledger

/-! ## Machines -/

namespace Traced

open Machine (Operation Reply)

variable {t : Traced}

/-- At act three: the key of act two is at hand, nothing has been sealed under it with counter one,
    and the other side's drawn key contributes. -/
structure Ready (S : Suite) (t : Traced) (d : Derivation) (remote : PublicKey) : Prop where
  entered : d ∈ t.ledger.derivations
  temp_eq : t.temp = some d
  key_eq : t.machine.tempKey = d.key S
  token_eq : d.token = .ee
  unused : t.ledger.Unused d 1
  remote_eq : t.machine.remoteEphemeral = some remote
  contributes : ∃ own, (S.agree own remote).isSome = true

/-- A machine whose ledger is as it ought to be. -/
structure Tidy (S : Suite) (role : Role) (t : Traced) : Prop where
  role_eq : t.machine.role = role
  sound : t.ledger.Sound S role
  ready : role = .initiator → t.machine.stage = .actThree → ∃ d remote, t.Ready S d remote

theorem tidy_opening (S : Suite) (own : Identity) (remote : PublicKey) (role : Role) :
    Tidy S role (opening S own remote role) where
  role_eq := by cases role <;> rfl
  sound := Ledger.sound_start
  ready := by
    rintro rfl hstage
    cases hstage

/-- Before act three a sound ledger is enough. -/
theorem tidy_of_early {t : Traced} (stage : Stage) (early : stage ≠ .actThree)
    (role_eq : t.machine.role = role) (sound : t.ledger.Sound S role)
    (hstage : t.machine.stage = stage) : Tidy S role t :=
  ⟨role_eq, sound, fun _ h => absurd (hstage.symm.trans h) early⟩

/-- A sound ledger is enough for a responder. -/
theorem tidy_of_responder {t : Traced} (role_eq : t.machine.role = .responder)
    (sound : t.ledger.Sound S .responder) : Tidy S .responder t :=
  ⟨role_eq, sound, fun h => Role.noConfusion h⟩

theorem Tidy.sendActOne (tidy : Tidy S role t) (ephemeral : Secret) :
    Tidy S role (t.sendActOne S ephemeral).2 := by
  by_cases due : t.machine.owes .initiator .actOne = true
  · obtain ⟨hrole, hstage⟩ := Prod.mk.inj (Machine.owes_iff.1 due)
    obtain rfl : role = .initiator := tidy.role_eq.symm.trans hrole.symm
    simp only [Traced.sendActOne, if_pos due]
    cases t.machine.remoteStatic with
    | none => exact tidy
    | some remote =>
      have own : (Token.es, (0 : UInt64)) ∈ sealingsOf .initiator := by decide
      have sound := tidy.sound.sendKeyAct own t.machine.symmetric ephemeral remote
      simp only
      generalize t.ledger.sendKeyAct S .es t.machine.symmetric ephemeral remote = r at sound ⊢
      obtain ⟨sent, temp, ledger⟩ := r
      cases sent with
      | lowOrder s => exact tidy_of_early .actOne (by decide) hrole.symm sound hstage.symm
      | unsealed s key => exact tidy_of_early .actOne (by decide) hrole.symm sound hstage.symm
      | sent act s key => exact tidy_of_early .actTwo (by decide) hrole.symm sound rfl
  · simp only [Traced.sendActOne, if_neg due]
    exact tidy

theorem Tidy.receiveActOne (tidy : Tidy S role t) (act : Octets keyActSize) :
    Tidy S role (t.receiveActOne S act).2 := by
  by_cases due : t.machine.owes .responder .actOne = true
  · obtain ⟨hrole, _⟩ := Prod.mk.inj (Machine.owes_iff.1 due)
    obtain rfl : role = .responder := tidy.role_eq.symm.trans hrole.symm
    have sound := tidy.sound.receiveKeyAct .es t.machine.symmetric
      (some t.machine.localStatic.secret) (KeyAct.ofOctets act)
    simp only [Traced.receiveActOne, if_pos due]
    generalize t.ledger.receiveKeyAct S .es t.machine.symmetric (some t.machine.localStatic.secret)
      (KeyAct.ofOctets act) = r at sound ⊢
    obtain ⟨received, temp, ledger⟩ := r
    cases received <;> exact tidy_of_responder hrole.symm sound
  · simp only [Traced.receiveActOne, if_neg due]
    exact tidy

theorem Tidy.sendActTwo (tidy : Tidy S role t) (ephemeral : Secret) :
    Tidy S role (t.sendActTwo S ephemeral).2 := by
  by_cases due : t.machine.owes .responder .actTwo = true
  · obtain ⟨hrole, _⟩ := Prod.mk.inj (Machine.owes_iff.1 due)
    obtain rfl : role = .responder := tidy.role_eq.symm.trans hrole.symm
    simp only [Traced.sendActTwo, if_pos due]
    cases t.machine.remoteEphemeral with
    | none => exact tidy
    | some remote =>
      have own : (Token.ee, (0 : UInt64)) ∈ sealingsOf .responder := by decide
      have sound := tidy.sound.sendKeyAct own t.machine.symmetric ephemeral remote
      simp only
      generalize t.ledger.sendKeyAct S .ee t.machine.symmetric ephemeral remote = r at sound ⊢
      obtain ⟨sent, temp, ledger⟩ := r
      cases sent <;> exact tidy_of_responder hrole.symm sound
  · simp only [Traced.sendActTwo, if_neg due]
    exact tidy

theorem Tidy.receiveActTwo (tidy : Tidy S role t) (act : Octets keyActSize) :
    Tidy S role (t.receiveActTwo S act).2 := by
  by_cases due : t.machine.owes .initiator .actTwo = true
  · obtain ⟨hrole, hstage⟩ := Prod.mk.inj (Machine.owes_iff.1 due)
    obtain rfl : role = .initiator := tidy.role_eq.symm.trans hrole.symm
    have sound := tidy.sound.receiveKeyAct .ee t.machine.symmetric t.machine.localEphemeral
      (KeyAct.ofOctets act)
    simp only [Traced.receiveActTwo, if_pos due]
    rcases hreceived : t.ledger.receiveKeyAct S .ee t.machine.symmetric t.machine.localEphemeral
      (KeyAct.ofOctets act) with ⟨received, temp, ledger⟩
    rw [hreceived] at sound
    cases received with
    | unknownVersion version => exact tidy_of_early .actTwo (by decide) hrole.symm sound hstage.symm
    | noSecret s => exact tidy_of_early .actTwo (by decide) hrole.symm sound hstage.symm
    | lowOrder s => exact tidy_of_early .actTwo (by decide) hrole.symm sound hstage.symm
    | badTag s key => exact tidy_of_early .actTwo (by decide) hrole.symm sound hstage.symm
    | received remote s key =>
      obtain ⟨d, entered, rfl, rfl, token_eq, unused, contributes⟩ := tidy.sound.received hreceived
      exact ⟨hrole.symm, sound, fun _ _ => ⟨d, remote, entered, rfl, rfl, token_eq, unused 1, rfl,
        contributes⟩⟩
  · simp only [Traced.receiveActTwo, if_neg due]
    exact tidy

/-- At act three an initiator does not fail: it seals its static key under the key of act two with
    counter one, and then the tag under a fresh key. -/
theorem Ready.sendActThree (cipher : S.CipherLaws) (uniform : S.UniformAgreement) {d : Derivation}
    {remote : PublicKey} (ready : t.Ready S d remote)
    (due : t.machine.owes .initiator .actThree = true) :
    ∃ act s shared s' keys,
      let sealed := t.ledger.enterSealing (d.traced S) 1
      let last := sealed.upcoming .se s shared
      t.sendActThree S = (.ok act,
        { machine := t.machine.finish s' keys
          ledger := (sealed.enterDerivation last).enterSealing (last.traced S) 0 }) := by
  obtain ⟨sealedKey, s₁, hfirst⟩ := Symmetric.exists_sealField cipher (Nat.le_refl 32)
    t.machine.symmetric t.machine.tempKey 1 (t.machine.localStatic.publicKey S)
  obtain ⟨own, hown⟩ := ready.contributes
  obtain ⟨shared, hshared⟩ : ∃ shared, S.agree t.machine.localStatic.secret remote = some shared :=
    Option.isSome_iff_exists.1 ((uniform _ own remote).trans hown)
  obtain ⟨tag, s₃, hsecond⟩ := Symmetric.exists_sealField cipher (Nat.zero_le 32)
    (s₁.mixKey S shared.bytes).1 (s₁.mixKey S shared.bytes).2 0 (Octets.zero 0)
  have htemp : (⟨t.machine.tempKey, t.temp⟩ : TracedKey) = d.traced S := by
    rw [ready.key_eq, ready.temp_eq]
    rfl
  refine ⟨(StaticAct.mk handshakeVersion sealedKey tag).toOctets, s₁, shared.bytes, s₃,
    ⟨(s₃.split S).1, (s₃.split S).2⟩, ?_⟩
  simp only [Traced.sendActThree, if_pos due, ready.remote_eq, Ledger.sealField, hfirst, hshared,
    Ledger.mixKey, hsecond, htemp]
  rfl

theorem Tidy.sendActThree (cipher : S.CipherLaws) (uniform : S.UniformAgreement)
    (tidy : Tidy S role t) : Tidy S role (t.sendActThree S).2 := by
  by_cases due : t.machine.owes .initiator .actThree = true
  · obtain ⟨hrole, hstage⟩ := Prod.mk.inj (Machine.owes_iff.1 due)
    obtain rfl : role = .initiator := tidy.role_eq.symm.trans hrole.symm
    obtain ⟨d, remote, ready⟩ := tidy.ready rfl hstage.symm
    obtain ⟨act, s, shared, s', keys, heq⟩ := ready.sendActThree cipher uniform due
    have slot : (d.token, (1 : UInt64)) ∈ sealingsOf .initiator := by
      rw [ready.token_eq]
      decide
    have sound := (tidy.sound.enterSealing ready.entered ready.unused slot).sealUpcoming .se s shared
      (by decide)
    rw [heq]
    exact tidy_of_early .complete (by decide) hrole.symm sound rfl
  · simp only [Traced.sendActThree, if_neg due]
    exact tidy

theorem Tidy.receiveActThree (tidy : Tidy S role t) (act : Octets staticActSize) :
    Tidy S role (t.receiveActThree S act).2 := by
  by_cases due : t.machine.owes .responder .actThree = true
  · obtain ⟨hrole, _⟩ := Prod.mk.inj (Machine.owes_iff.1 due)
    obtain rfl : role = .responder := tidy.role_eq.symm.trans hrole.symm
    simp only [Traced.receiveActThree, if_pos due, Ledger.mixKey_eq]
    split
    · exact tidy
    split
    · exact tidy
    rename_i remote s₁ opened
    split
    · exact tidy_of_responder hrole.symm tidy.sound
    split
    · exact tidy_of_responder hrole.symm tidy.sound
    rename_i shared _
    have sound := tidy.sound.enterDerivation .se s₁ shared.bytes
    split
    · exact tidy_of_responder hrole.symm sound
    · exact tidy_of_responder hrole.symm sound
  · simp only [Traced.receiveActThree, if_neg due]
    exact tidy

theorem Tidy.perform (cipher : S.CipherLaws) (uniform : S.UniformAgreement) (tidy : Tidy S role t)
    (op : Operation) : Tidy S role (t.perform S op).2 := by
  cases op with
  | sendOne e => exact tidy.sendActOne e
  | receiveOne a => exact tidy.receiveActOne a
  | sendTwo e => exact tidy.sendActTwo e
  | receiveTwo a => exact tidy.receiveActTwo a
  | sendThree => exact tidy.sendActThree cipher uniform
  | receiveThree a => exact tidy.receiveActThree a

theorem Tidy.performAll (cipher : S.CipherLaws) (uniform : S.UniformAgreement)
    (tidy : Tidy S role t) (ops : List Operation) : Tidy S role (t.performAll S ops).2 := by
  induction ops generalizing t with
  | nil => exact tidy
  | cons op ops ih => exact ih (tidy.perform cipher uniform op)

end Traced

/-- **No nonce is used twice.**  Let whether a public key contributes depend on the key alone.  Along
    every run of a machine, with any operations in any order, any bytes and draws, and whatever
    fails: whatever is sealed is sealed under a key that the machine has derived, and never twice
    under the same derivation with the same counter.  What an initiator and a responder seal is never
    under a derivation from the same shared secret with the same counter.  The machine with its
    ledger answers and moves as the machine does. -/
theorem nonces_unique (publicKey : Secret → PublicKey) (agree : Secret → PublicKey → Option Key)
    (uniform : ∀ a b key, (agree a key).isSome = (agree b key).isSome) :
    let S := Suite.standard.withAgreement publicKey agree
    (∀ role own remote ops,
      let run := (Traced.opening S own remote role).performAll S ops
      let ledger := run.2.ledger
      Traced.forget run = (Machine.opening S own remote role).performAll S ops ∧
      ledger.derivations.map Derivation.number = (List.range ledger.derivations.length).reverse ∧
      (∀ x ∈ ledger.sealings, ∃ d ∈ ledger.derivations, x.key = d.traced S) ∧
      (ledger.sealings.map Sealing.place).Nodup) ∧
    ∀ ownᵢ ownᵣ remoteᵢ remoteᵣ opsᵢ opsᵣ,
      let initiators := ((Traced.opening S ownᵢ remoteᵢ .initiator).performAll S opsᵢ).2.ledger
      let responders := ((Traced.opening S ownᵣ remoteᵣ .responder).performAll S opsᵣ).2.ledger
      ∀ x ∈ initiators.sealings, ∀ y ∈ responders.sealings, x.slot ≠ y.slot := by
  intro S
  have cipher : S.CipherLaws :=
    Suite.withAgreement_cipherLaws Suite.standard_cipherLaws publicKey agree
  have tidy : ∀ role own remote ops,
      Traced.Tidy S role ((Traced.opening S own remote role).performAll S ops).2 :=
    fun role own remote ops =>
      (Traced.tidy_opening S own remote role).performAll cipher uniform ops
  refine ⟨fun role own remote ops => ?_, ?_⟩
  · have sound := (tidy role own remote ops).sound
    refine ⟨Traced.forget_performAll _ ops, sound.numbers, fun x hx => ?_, sound.distinct⟩
    obtain ⟨d, entered, hkey, _⟩ := sound.origins x hx
    exact ⟨d, entered, hkey⟩
  · intro ownᵢ ownᵣ remoteᵢ remoteᵣ opsᵢ opsᵣ initiators responders x hx y hy heq
    obtain ⟨p, hp, hslot⟩ := (tidy .initiator ownᵢ remoteᵢ opsᵢ).sound.slot_mem hx
    obtain ⟨q, hq, hslot'⟩ := (tidy .responder ownᵣ remoteᵣ opsᵣ).sound.slot_mem hy
    have hsame : (some p.1, p.2) = (some q.1, q.2) := hslot.symm.trans (heq.trans hslot')
    have hpq : p = q := by
      obtain ⟨htoken, hcounter⟩ := Prod.mk.inj hsame
      exact Prod.ext (Option.some.inj htoken) hcounter
    have apart : ∀ p ∈ sealingsOf .initiator, p ∉ sealingsOf .responder := by decide
    exact apart p hp (hpq ▸ hq)

/-- X25519, with whether a key contributes looked up with one secret for all. -/
def uniformAgree (secret : Secret) (key : PublicKey) : Option Key :=
  (Curve25519.agree (Octets.replicate 32 1) key).map fun _ => Curve25519.x25519 secret key

theorem isSome_uniformAgree (a b : Secret) (key : PublicKey) :
    (uniformAgree a key).isSome = (uniformAgree b key).isSome := by
  rw [uniformAgree, uniformAgree, Option.isSome_map, Option.isSome_map]

/-- An initiator is given an act two of an unknown version before the right one, and is asked for act
    three twice. -/
theorem nonces_unique_sample :
    let S := Suite.standard.withAgreement Curve25519.publicKey uniformAgree
    let two : Bytes :=
      [0, 172, 1, 178, 32, 158, 134, 53, 79, 184, 83, 35, 123, 93, 224, 244, 250, 177, 60, 127, 203,
        244, 51, 166, 28, 1, 147, 105, 97, 127, 236, 241, 11, 196, 15, 246, 73, 2, 58, 112, 23, 197,
        148, 128, 180, 122, 112, 129, 132]
    let ops : List Machine.Operation :=
      [.sendOne (Octets.replicate 32 3), .receiveTwo (Octets.replicate keyActSize 1),
        .receiveTwo (Octets.ofPrefix keyActSize two), .sendThree, .sendThree]
    let start := Traced.opening S ⟨Octets.replicate 32 1⟩
      (Curve25519.publicKey (Octets.replicate 32 2)) .initiator
    ((start.performAll S ops).2.ledger.sealings.map Sealing.place).Nodup ∧
      (start.performAll S ops).2.ledger.sealings.map Sealing.place =
        [(some 2, 0), (some 1, 1), (some 0, 0)] := by
  refine ⟨?_, by decide +kernel⟩
  obtain ⟨runs, _⟩ := nonces_unique Curve25519.publicKey uniformAgree isSome_uniformAgree
  obtain ⟨_, _, _, distinct⟩ := runs .initiator ⟨Octets.replicate 32 1⟩
    (Curve25519.publicKey (Octets.replicate 32 2)) _
  exact distinct

end Gatehouse
